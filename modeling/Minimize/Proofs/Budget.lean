-- Time budgets over runs that go on from each other, in exact seconds. Each run
-- begins with the time of the snapshot that it has found, and adds what the clock
-- moves while it lasts. So over all of them the time only grows, and a budget is
-- held against the whole of it: a run stops for time at the first state that it
-- judges when the whole is more than the budget, and at no other.
import Mathlib.Algebra.Order.Field.Rat
import Mathlib.Tactic.Linarith
import Minimize.Proofs.Elapsed
import Minimize.Proofs.Replay
import Minimize.Proofs.Timeout

namespace Minimize

/-! ## Exact seconds -/

namespace Seconds

/-- Whether exact seconds are more than a limit. They are never more than a limit
without end, nor than what is no number. -/
def exceed (x : ℚ) (limit : Float) : Bool :=
  match Number.Place.ofFloat limit with
  | some .below => true
  | some (.point steps) => (steps : ℚ) / 2 ^ 1074 < x
  | some .above => false
  | none => false

/-- The float that is nearest to exact seconds. -/
def nearest (x : ℚ) : Float := Number.ofQuotient (x < 0) x.num.natAbs x.den

/-- The exact seconds that a float stands for, if it is a finite number. -/
def exactly? (x : Float) : Option ℚ :=
  match Number.Place.ofFloat x with
  | some (.point steps) => some ((steps : ℚ) / 2 ^ 1074)
  | _ => none

theorem exceed_iff {x m : ℚ} {limit : Float} (h : exactly? limit = some m) :
    exceed x limit = true ↔ m < x := by
  unfold exactly? at h
  unfold exceed
  split at h
  · rename_i steps hplace
    cases h
    rw [hplace]
    exact decide_eq_true_iff
  · cases h

theorem cast_twoTo (k : ℕ) : ((Number.twoTo k : ℕ) : ℚ) = 2 ^ k := by
  unfold Number.twoTo
  exact Nat.cast_pow 2 k

theorem exactly_whole {x : Float} {i : Int} (h : Number.Place.ofFloat x = some (.ofInt i)) :
    exactly? x = some (i : ℚ) := by
  have hpositive : (2 : ℚ) ^ 1074 ≠ 0 := pow_ne_zero _ two_ne_zero
  unfold exactly?
  rw [h]
  simp only [Number.Place.ofInt]
  rw [Int.cast_mul, Int.cast_natCast, cast_twoTo, mul_div_cancel_right₀ _ hpositive]

end Seconds

instance : Clock ℚ where
  toValue x := .float (Seconds.nearest x)
  ofValue? v := v.toFloat.toOption.bind Seconds.exactly?
  zero := 0
  exceeds x limit := .ok (Seconds.exceed x limit)
  toFloat x := .ok (Seconds.nearest x)
  fixedText places x := .ok (Number.fixedText places (Seconds.nearest x))
  add := (· + ·)
  sub := (· - ·)

theorem Clock.passed_exact (base started now : ℚ) :
    Clock.passed base started now = base + (now - started) := rfl

theorem Criteria.timeIsUp_exact {c : Criteria} {m : Float} (hm : c.maxTime = some m) (x : ℚ) :
    c.timeIsUp x = .ok (Seconds.exceed x m) := by
  unfold timeIsUp
  rw [hm]
  rfl

namespace Engine

variable {g₀ h₀ g u v : Engine ℚ} {kind : CallKind} {past own : List (State ℚ)}

/-! ## Timed runs -/

/-- A run that is timed, by a clock that never goes back, and whose solver leaves
the state alone when it is asked whether the run is to stop. -/
structure Timed (g₀ : Engine ℚ) : Prop where
  created : g₀.executor.phase = .created
  judges : g₀.OnlyJudges
  timer : g₀.executor.settings.timer = true
  forward : ∀ kind past g, g₀.ComesTo kind past g → g.world.clock ≤ (g.asked kind).world.clock

/-- An iteration that a run completes, with the states in which those before it
stood, oldest first; the first of them is that of the snapshot, if the run goes on
from one. -/
def Completes (g₀ : Engine ℚ) (own : List (State ℚ)) (u : Engine ℚ) : Prop :=
  ∃ kind g, g₀.ComesTo kind own g ∧ g.advance kind g₀.world.clock = .ok u

def Ascending (states : List (State ℚ)) : Prop :=
  states.Pairwise fun s t => s.book.elapsed ≤ t.book.elapsed

theorem ascending_append {states : List (State ℚ)} {s t : State ℚ}
    (h : Ascending (states ++ [s])) (hst : s.book.elapsed ≤ t.book.elapsed) :
    Ascending (states ++ [s] ++ [t]) := by
  unfold Ascending at h ⊢
  rw [List.pairwise_append]
  refine ⟨h, List.pairwise_singleton _ _, fun r hr t' ht' => ?_⟩
  obtain rfl := List.mem_singleton.mp ht'
  rw [List.pairwise_append] at h
  rcases List.mem_append.mp hr with hbefore | hlast
  · exact (h.2.2 r hbefore s (List.mem_singleton_self s)).trans hst
  · obtain rfl := List.mem_singleton.mp hlast
    exact hst

/-- Where a run stands in time after some iterations: the clock has not gone back,
the state has the time before the run and what the clock has moved since it began,
and from the time before the run on it has only grown. -/
structure Stretch (g₀ : Engine ℚ) (past : List (State ℚ)) (u : Engine ℚ) : Prop where
  clock : g₀.world.clock ≤ u.world.clock
  elapsed : u.executor.state.book.elapsed =
    g₀.already + (u.world.clock - g₀.world.clock)
  ascending : Ascending (past ++ [u.executor.state])
  since : ∀ s ∈ past ++ [u.executor.state], g₀.already ≤ s.book.elapsed

/-- One more iteration. -/
theorem Stretch.next (h : g₀.Stretch past g) (hclock : g.world.clock ≤ u.world.clock)
    (helapsed : u.executor.state.book.elapsed =
      g₀.already + (u.world.clock - g₀.world.clock)) :
    g₀.Stretch (past ++ [g.executor.state]) u := by
  have hstep : g.executor.state.book.elapsed ≤ u.executor.state.book.elapsed := by
    rw [h.elapsed, helapsed]
    linarith
  refine ⟨h.clock.trans hclock, helapsed, ascending_append h.ascending hstep, ?_⟩
  intro s hs
  rcases List.mem_append.mp hs with hbefore | hlast
  · exact h.since s hbefore
  · obtain rfl := List.mem_singleton.mp hlast
    have hlow := h.since g.executor.state (by simp)
    exact hlow.trans hstep

theorem Stretch.first (hclock : g₀.world.clock ≤ u.world.clock)
    (helapsed : u.executor.state.book.elapsed =
      g₀.already + (u.world.clock - g₀.world.clock)) : g₀.Stretch [] u := by
  refine ⟨hclock, helapsed, List.pairwise_singleton _ _, fun s hs => ?_⟩
  obtain rfl := List.mem_singleton.mp hs
  rw [helapsed]
  linarith

theorem Stretch.of_same {w : Engine ℚ} (h : g₀.Stretch past v) (hsame : v.SameTime w)
    (hstate : w.executor.state = v.executor.state) : g₀.Stretch past w := by
  refine ⟨hsame.clock.symm ▸ h.clock, ?_, hstate.symm ▸ h.ascending, hstate.symm ▸ h.since⟩
  rw [hstate, hsame.clock]
  exact h.elapsed

/-- Every completed iteration ends a stretch that goes over its run. -/
theorem Stretch.advance (ht : g₀.Timed) (hc : g₀.ComesTo kind past g)
    (ha : g.advance kind g₀.world.clock = .ok u)
    (hbefore : kind = .step → ∀ earlier, past = earlier ++ [g.executor.state] →
      g₀.Stretch earlier g) : g₀.Stretch past u := by
  obtain ⟨hclock, helapsed⟩ := hc.advance_time ht.judges ht.timer ha
  have hforward := ht.forward kind past g hc
  rw [← hclock] at hforward
  rw [Clock.passed_exact] at helapsed
  cases hc with
  | opening hn => exact .first hforward helapsed
  | @step earlier _ _ _ => exact (hbefore rfl earlier rfl).next hforward helapsed

theorem Course.stretch (ht : g₀.Timed) (hc : g₀.Course past g) : g₀.Stretch past g := by
  induction hc with
  | start hs =>
    rcases start_ok hs with ⟨hn, hi⟩ | ⟨s, hn, rfl⟩
    · obtain ⟨v, hadvance, hsame, hstate⟩ := iterate_time hi
      exact (Stretch.advance ht (.opening hn) hadvance nofun).of_same hsame hstate
    · obtain ⟨hclock, _, hbook⟩ := resume_time (g₀.begun.settled.noteLoaded s) s
      have hnow : ((g₀.begun.settled.noteLoaded s).resume s).world.clock = g₀.world.clock :=
        hclock.trans (noteLoaded_clock g₀.begun.settled s)
      refine .first hnow.ge ?_
      rw [hbook, hnow, already_resumed hn, sub_self, add_zero]
  | @step earlier g g' hc hr hi ih =>
    obtain ⟨v, hadvance, hsame, hstate⟩ := iterate_time hi
    refine (Stretch.advance ht (.step hc hr) hadvance fun _ earlier' hearlier => ?_).of_same hsame
      hstate
    obtain ⟨rfl, _⟩ := List.append_inj' hearlier rfl
    exact ih

theorem Completes.stretch (ht : g₀.Timed) (h : g₀.Completes own u) : g₀.Stretch own u := by
  obtain ⟨kind, g, hc, ha⟩ := h
  refine Stretch.advance ht hc ha fun hkind earlier hearlier => ?_
  cases hc with
  | opening _ => cases hkind
  | step hc _ =>
    obtain ⟨rfl, _⟩ := List.append_inj' hearlier rfl
    exact hc.stretch ht

/-! ## Runs that go on from each other -/

/-- What a run leaves for another to go on from, with the states in which the
iterations before it stood: the state of an iteration that it completes, or that in
which it stands between them, as one does that ends where it began. -/
inductive Leaves (g₀ : Engine ℚ) : List (State ℚ) → State ℚ → Prop
  | completed {own : List (State ℚ)} {u : Engine ℚ} (hu : g₀.Completes own u) :
      Leaves g₀ own u.executor.state
  | standing {own : List (State ℚ)} {u : Engine ℚ} (hu : g₀.Course own u) :
      Leaves g₀ own u.executor.state

theorem Leaves.stretch {s : State ℚ} (ht : g₀.Timed) (h : g₀.Leaves own s) :
    ∃ u, g₀.Stretch own u ∧ u.executor.state = s := by
  cases h with
  | completed hu => exact ⟨_, hu.stretch ht, rfl⟩
  | standing hu => exact ⟨_, hu.stretch ht, rfl⟩

/-- A run that is the last of several timed ones, of which the first found nothing
to go on from, and each other a snapshot of what the one before it had left. With it
stand the states of the iterations before, oldest first: of each run those up to the
one that the next went on from, which comes as the first of that. -/
inductive Chained : List (State ℚ) → Engine ℚ → Prop
  | first {g₀ : Engine ℚ} (ht : g₀.Timed) (hn : g₀.stored = .ok none) : Chained [] g₀
  | next {past own : List (State ℚ)} {g₀ h₀ : Engine ℚ} {s : Snapshot ℚ} (hc : Chained past g₀)
      (hl : g₀.Leaves own s.state) (ht : h₀.Timed) (hs : h₀.stored = .ok (some s)) :
      Chained (past ++ own) h₀

theorem Chained.timed (hc : Chained past g₀) : g₀.Timed := by
  cases hc with
  | first ht _ => exact ht
  | next _ _ ht _ => exact ht

/-- A chain is one stretch if what comes before a run never goes beyond the time
that it begins with. -/
theorem ascending_over {own : List (State ℚ)} (hpast : Ascending past)
    (hlow : ∀ s ∈ past, s.book.elapsed ≤ g₀.already) (h : g₀.Stretch own u) :
    Ascending (past ++ own ++ [u.executor.state]) := by
  unfold Ascending at hpast ⊢
  rw [List.append_assoc, List.pairwise_append]
  exact ⟨hpast, h.ascending, fun s hs t ht => (hlow s hs).trans (h.since t ht)⟩

/-- Before a run, the time has only grown, up to that with which the run
begins. -/
theorem Chained.before (hc : Chained past g₀) :
    Ascending past ∧ ∀ s ∈ past, s.book.elapsed ≤ g₀.already := by
  induction hc with
  | first _ _ => exact ⟨List.Pairwise.nil, fun s hs => absurd hs List.not_mem_nil⟩
  | next hc hl ht hs ih =>
    obtain ⟨u, hstretch, hu⟩ := hl.stretch hc.timed
    have hall := ascending_over ih.1 ih.2 hstretch
    unfold Ascending at hall
    rw [List.pairwise_append] at hall
    refine ⟨hall.1, fun s hmem => ?_⟩
    rw [already_resumed hs, ← hu]
    exact hall.2.2 s hmem _ (List.mem_singleton_self _)

/-! ## Budgets -/

theorem Judges.settings {n : ℕ} (h : g₀.Judges n v) :
    v.executor.settings = g₀.executor.settings := by
  obtain ⟨kind, earlier, g, record, hc, _, htake⟩ := h
  exact (hc.goesBy.take htake).settings

/-- A state is overdue when its time, counted exactly, is over the budget. -/
theorem overdue_iff {n : ℕ} {m : Float} (hm : g₀.executor.settings.criteria.maxTime = some m) :
    g₀.Overdue n v ↔ g₀.Judges n v ∧ v.executor.state.terminated = false ∧ v.aborted = false ∧
      Seconds.exceed v.executor.state.book.elapsed m = true := by
  have hlate : g₀.Judges n v → (v.executor.settings.criteria.timeIsUp
      v.executor.state.book.elapsed = .ok true ↔
        Seconds.exceed v.executor.state.book.elapsed m = true) := by
    intro h
    rw [Criteria.timeIsUp_exact (h.settings ▸ hm), Except.ok.injEq]
  constructor
  · intro h
    exact ⟨h.judged, h.running, h.quiet, (hlate h.judged).mp h.late⟩
  · rintro ⟨hjudged, hrunning, hquiet, hover⟩
    exact ⟨hjudged, hrunning, hquiet, (hlate hjudged).mpr hover⟩

/-! ## Runs that take their time -/

/-- A call that lets time pass, and then moves to a truth value and writes a time of
its own. -/
def lingering (d : ℚ) (s : State ℚ) : Call ℚ :=
  .wait d (.ok { s.movedTo (.bool true) with
    cost := .bool true, book := { s.book with elapsed := -7 } } none)

/-- A solver that does so whenever it is called. -/
def patient (d : ℚ) : Solver ℚ where
  typeName := "PatientSolver"
  name? := none
  newState := .point
  opening := lingering d
  step := lingering d
  terminateEarly := Sample.goOn
  unserializable := none

variable {d : ℚ}

/-- It is asked for as long as it takes, and leaves the status as it is. -/
theorem patient_asked (hx : g.executor.solver = patient d) (kind : CallKind) :
    (g.asked kind).world.clock = g.world.clock + d ∧
      (g.asked kind).left.status = g.executor.state.status ∧
      (g.asked kind).answer = .same none := by
  unfold asked
  dsimp only
  rw [hx]
  cases kind <;> exact ⟨rfl, rfl, rfl⟩

theorem patient_kept (hx : g.executor.solver = patient d) (kind : CallKind) :
    g.kept kind = g.executor.state.book := by
  unfold kept asked
  dsimp only
  rw [hx]
  cases kind <;> rfl

/-- What it returns is taken over if the best so far is a truth value as well. -/
theorem patient_take (hx : g.executor.solver = patient d)
    (hbest : g.executor.state.book.hasBest = true → ∃ b, g.executor.state.book.bestCost = .bool b)
    (kind : CallKind) (started : ℚ) :
    ∃ v, g.take kind started = .ok (v, none) ∧
      v.executor.state.status = g.executor.state.status ∧ v.executor.state.cost = .bool true ∧
      ∃ b, v.executor.state.book.bestCost = .bool b := by
  obtain ⟨better, best, hbetters, hb⟩ := Bookkeeping.betters_flag true hbest
  have hconsult : ∃ u t, g.consult kind = .ok (u, ⟨t, true, none⟩) ∧
      t.cost = .bool true ∧ t.status = g.executor.state.status := by
    unfold consult asked
    dsimp only
    rw [hx]
    cases kind <;> exact ⟨_, _, rfl, rfl, rfl⟩
  obtain ⟨u, t, hu, hcost, hstatus⟩ := hconsult
  have hcarried : ∃ s, u.carried ((⟨t, true, none⟩ : Returned ℚ).placed kind g.executor.state).state
        g.executor.state.book (kind.target g.executor.state.book.iteration) started = s ∧
      s.cost = .bool true ∧ s.status = g.executor.state.status ∧
      s.book.betters (.bool true) = .ok better ∧
      s.book.bestCost = g.executor.state.book.bestCost := by
    cases kind <;> exact ⟨_, rfl, hcost, hstatus, hbetters, rfl⟩
  obtain ⟨s, hs, hscost, hsstatus, hsbetters, hsbest⟩ := hcarried
  obtain ⟨b, hrec, _, hbcost, _⟩ := State.recordBest_of_betters (hscost ▸ hsbetters)
  rw [hscost, hsbest, hb] at hbcost
  rw [← hs] at hrec
  obtain ⟨v, hmerge, hv, _⟩ := merge_of_recordBest hrec
  rw [hs] at hv
  refine ⟨v, ?_, ?_, ?_, best, ?_⟩
  · unfold take
    rw [patient_kept hx, hu]
    dsimp only [bind, Except.bind]
    rw [hmerge]
    rfl
  · rw [hv]
    exact hsstatus
  · rw [hv]
    exact hscost
  · rw [hv]
    exact hbcost

/-- A run whose solver is patient is timed, if it has a timer. -/
theorem patient_timed (hd : 0 ≤ d) (hp : g₀.executor.phase = .created)
    (htimer : g₀.executor.settings.timer = true) (hx : g₀.acting = patient d) : g₀.Timed := by
  have hjudges : g₀.OnlyJudges := by
    unfold acting at hx
    constructor
    · intro hn
      rw [hn] at hx
      rw [show g₀.executor.solver = patient d from hx]
      exact fun _ => rfl
    · intro s hs
      rw [hs] at hx
      rw [show s.solver = patient d from hx]
      exact fun _ => rfl
  refine ⟨hp, hjudges, htimer, fun kind past g hc => ?_⟩
  rw [← enter_asked, (patient_asked (hc.goesBy.solver.trans hx) kind).1]
  have hclock : (g.enter kind).world.clock = g.world.clock := by cases kind <;> rfl
  rw [hclock]
  linarith

theorem patient_time {record : Option Record} (htimer : g₀.executor.settings.timer = true)
    (hx : g₀.acting = patient d) (hc : g₀.ComesTo kind past g)
    (ht : (g.enter kind).take kind g₀.world.clock = .ok (v, record)) :
    v.executor.state.book.elapsed = g₀.already + (g.world.clock + d - g₀.world.clock) := by
  obtain ⟨hclock, helapsed⟩ := hc.take_time htimer ht
  rw [helapsed, hclock, ← enter_asked, (patient_asked (hc.goesBy.solver.trans hx) kind).1]
  cases kind <;> rfl

theorem patient_leavesTime (hx : g₀.acting = patient d)
    (hrun : g₀.executor.state.status = .running) : g₀.LeavesTime := by
  have hopen : ¬ g₀.executor.state.status.TimeIsUp :=
    State.not_timeIsUp_of_open (State.not_terminated_iff.mpr hrun)
  refine ⟨fun _ => hopen, fun kind past g u r hc hconsult => ?_, fun n v r hv hearly => ?_⟩
  · have hgiven : ¬ (g.enter kind).executor.state.status.TimeIsUp := by
      cases hc with
      | opening _ => exact hopen
      | step _ hr => exact State.not_timeIsUp_of_open hr
    obtain ⟨_, hleft, hanswer⟩ := patient_asked (hc.goesBy.solver.trans hx) kind
    unfold consult at hconsult
    dsimp only at hconsult
    rw [hanswer] at hconsult
    cases hconsult
    rw [hleft]
    exact ⟨hgiven, hgiven⟩
  · obtain ⟨kind, past, g, record, hc, _, htake⟩ := hv
    rw [(hc.goesBy.take htake).solver, hx] at hearly
    cases hearly

/-- An executor with a patient solver, a timer and a budget. -/
def timedBy (limit : Option Float) (policy : Option (Policy ℚ)) (w : World ℚ) : Engine ℚ where
  executor := {
    problem := .wrap .nothing
    solver := patient 2
    state := .fresh .point
    settings := ⟨{ Criteria.unset with maxTime := limit }, true, none⟩
    observers := .empty
    policy := policy
    signal := none
    phase := .created
    warnings := []
    baseElapsed := Span.zero
    improved := false
    handed := none }
  world := w

def startingOut (limit : Option Float) : Engine ℚ := timedBy limit none (.start 0)

def goingOn (limit : Option Float) (s : State ℚ) : Engine ℚ :=
  timedBy limit (some ⟨"memory", Checkpoint.Memory.store, "run", .never, false, true, none⟩)
    ((World.start 10).putCabinet "memory"
      (Checkpoint.Memory.put "run" (.pair ⟨patient 2, s⟩) .empty))

theorem goingOn_stored (limit : Option Float) (s : State ℚ) :
    (goingOn limit s).stored = .ok (some ⟨patient 2, s⟩) := rfl

theorem startingOut_timed (limit : Option Float) : (startingOut limit).Timed :=
  patient_timed (by decide) rfl rfl rfl

theorem goingOn_timed (limit : Option Float) (s : State ℚ) : (goingOn limit s).Timed :=
  patient_timed (by decide) rfl rfl rfl

theorem startingOut_opens (limit : Option Float) (o : Option Reason)
    (hcheck : ∀ s : State ℚ, s.book.elapsed = 2 →
      checkTermination { Criteria.unset with maxTime := limit } (some Sample.goOn) false s =
        .ok o) :
    ∃ u, (startingOut limit).Completes [] u ∧ u.executor.state.status = ⟨o⟩ ∧
      u.executor.state.book.elapsed = 2 ∧ ∃ b, u.executor.state.book.bestCost = .bool b := by
  have hc : (startingOut limit).ComesTo .opening [] (startingOut limit).begun.settled :=
    .opening rfl
  obtain ⟨v, htake, hstatus, hcost, b, hbest⟩ :=
    patient_take (hc.goesBy.solver.trans rfl) (fun h => nomatch h) .opening 0
  have htwo : v.executor.state.book.elapsed = 2 := by
    rw [patient_time rfl rfl hc htake]
    show (0 : ℚ) + (0 + 2 - 0) = 2
    norm_num
  have hgoes := hc.goesBy.take htake
  have hquiet : v.aborted = false := not_aborted (taken_signal htake)
  have hjudged : checkTermination v.executor.settings.criteria
      (some v.executor.solver.terminateEarly) v.aborted v.executor.state = .ok o := by
    rw [hgoes.settings, hgoes.solver, hquiet]
    exact hcheck _ htwo
  obtain ⟨standard, hsummary⟩ : ∃ standard, v.executor.state.summary = .ok standard := by
    apply State.summary_ok
    · rw [hcost]
      rfl
    · rw [hbest]
      rfl
    · rfl
  have hjudges : (startingOut limit).begun.settled.executor.solver.OnlyJudges := fun _ => rfl
  obtain ⟨u, hadvance, hu⟩ := advance_of_take hjudges htake hstatus hjudged hsummary
  refine ⟨u, ⟨.opening, _, hc, hadvance⟩, ?_, ?_, b, ?_⟩
  · rw [hu]
  · rw [hu]
    exact htwo
  · rw [hu]
    exact hbest

theorem goingOn_judges (limit : Option Float) {s : State ℚ} (hrun : s.status = .running)
    (hbest : ∃ b, s.book.bestCost = .bool b) :
    ∃ v, (goingOn limit s).Judges 1 v ∧ v.executor.state.terminated = false ∧
      v.aborted = false ∧ v.executor.state.book.elapsed = s.book.elapsed + 2 := by
  have hstart := start_resumed (goingOn_stored limit s) 10
  have htime := resume_time ((goingOn limit s).begun.settled.noteLoaded ⟨patient 2, s⟩)
    ⟨patient 2, s⟩
  have hopens := resume_status ((goingOn limit s).begun.settled.noteLoaded ⟨patient 2, s⟩)
    ⟨patient 2, s⟩
  generalize ((goingOn limit s).begun.settled.noteLoaded ⟨patient 2, s⟩).resume
    ⟨patient 2, s⟩ = g at hstart htime hopens
  obtain ⟨hclock, _, hbook⟩ := htime
  have hcourse : (goingOn limit s).Course [] g := .start hstart
  have hopen : g.executor.state.status = .running := by
    rcases hopens with hsame | hopened
    · exact hsame.trans hrun
    · exact hopened
  have hc : (goingOn limit s).ComesTo .step [g.executor.state] g :=
    .step hcourse (State.not_terminated_iff.mpr hopen)
  have hx : (g.enter .step).executor.solver = patient 2 := hc.goesBy.solver.trans rfl
  obtain ⟨v, htake, hstatus, _⟩ := patient_take hx
    (fun _ => (congrArg Bookkeeping.bestCost hbook).symm ▸ hbest) .step 10
  have hsignal : v.executor.signal = none := (taken_signal htake).trans hcourse.signal
  refine ⟨v, ⟨.step, _, g, none, hc, rfl, htake⟩, ?_, not_aborted hsignal, ?_⟩
  · exact State.not_terminated_iff.mpr (hstatus.trans hopen)
  · have hten : g.world.clock = 10 := hclock.trans (noteLoaded_clock _ _)
    rw [patient_time rfl rfl hc htake, already_resumed (goingOn_stored limit s), hten]
    show s.book.elapsed + (10 + 2 - 10) = _
    norm_num

/-! ## The law -/

/-- Over runs that go on from each other the time is counted in one. Whatever the
solvers write there when they are called, every iteration that is completed has the time
of the snapshot that its run went on from and what the clock has moved since the run
began, and over all iterations, those of the runs before included, the time only grows.
A budget is held against the whole. A run that does not get this reason from elsewhere
is over where it judges a state that is still running, with no abort, when the whole is
more than the budget; and it ends out of time only there. But a run that goes on from a
state over for good judges nothing, and ends as that state, whatever its own budget. -/
theorem time_budgets_hold_over_all_runs (hc : Chained past g₀) :
    (∀ own u, g₀.Completes own u →
      u.executor.state.book.elapsed = g₀.already + (u.world.clock - g₀.world.clock) ∧
        Ascending (past ++ own ++ [u.executor.state])) ∧
      (∀ n v, g₀.Judges n v →
        v.executor.state.book.elapsed = g₀.already + (v.world.clock - g₀.world.clock)) ∧
      (∀ m, g₀.executor.settings.criteria.maxTime = some m → g₀.LeavesTime →
        (∀ n v, g₀.Judges n v → v.executor.state.terminated = false → v.aborted = false →
          Seconds.exceed v.executor.state.book.elapsed m = true →
          ∃ h o, g₀.run n = .ok (some (h, o)) ∧
            o.state.status = ⟨some .timeBudgetExceeded⟩ ∧
            o.state.book = v.executor.state.book) ∧
        ((∀ s, g₀.stored = .ok (some s) → ¬ s.state.Finished) →
          ∀ limit h o, g₀.run limit = .ok (some (h, o)) →
            (o.state.status.TimeIsUp ↔ ∃ n v, g₀.Judges n v ∧
              v.executor.state.terminated = false ∧ v.aborted = false ∧
              Seconds.exceed v.executor.state.book.elapsed m = true ∧
              o.state.book = v.executor.state.book))) ∧
      ∀ s, g₀.stored = .ok (some s) → s.state.Finished →
        (∀ n v, ¬ g₀.Judges n v) ∧
          ∀ limit, ∃ h o, g₀.run limit = .ok (some (h, o)) ∧
            o.state.status = s.state.status ∧ o.state.book = s.state.book := by
  have ht := hc.timed
  refine ⟨fun own u hu => ?_, fun n v hv => ?_, fun m hm hl => ⟨?_, ?_⟩, fun s hs hf => ?_⟩
  · have hstretch := hu.stretch ht
    exact ⟨hstretch.elapsed, ascending_over hc.before.1 hc.before.2 hstretch⟩
  · obtain ⟨kind, earlier, g, record, hcomes, _, htake⟩ := hv
    exact (hcomes.take_time ht.timer htake).2
  · intro n v hv hrunning hquiet hover
    exact ((overdue_iff hm).mpr ⟨hv, hrunning, hquiet, hover⟩).run ht.judges ht.created
  · intro hs limit h o hr
    rw [hl.outOfTime_iff ht.judges ht.created hs hr]
    simp only [overdue_iff hm, and_assoc]
  · refine ⟨fun n v hv => ?_, fun limit => ?_⟩
    · obtain ⟨kind, earlier, g, record, hcomes, _⟩ := hv
      exact hcomes.unfinished hs hf
    · obtain ⟨h, o, hr, hrests⟩ := run_rests ht.created hs hf limit
      exact ⟨h, o, hr, hrests.end_as⟩

/-- The law for a run without a budget and one that goes on from its opening: with a
budget of three seconds it stops for time, after two seconds of its own. -/
theorem a_budget_holds_over_two_runs :
    ∃ u, (startingOut none).Completes [] u ∧
      Chained [] (goingOn (some (Number.ofInt 3)) u.executor.state) ∧
      ∃ h o, (goingOn (some (Number.ofInt 3)) u.executor.state).run 1 = .ok (some (h, o)) ∧
        o.state.status = ⟨some .timeBudgetExceeded⟩ ∧ o.state.book.elapsed = 4 := by
  obtain ⟨u, hu, hrunning, htwo, hbest⟩ := startingOut_opens none none fun _ _ => rfl
  have hchain : Chained [] (goingOn (some (Number.ofInt 3)) u.executor.state) :=
    .next (.first (startingOut_timed none) rfl) (.completed hu) (goingOn_timed _ _)
      (goingOn_stored _ _)
  obtain ⟨v, hv, hopen, hquiet, helapsed⟩ :=
    goingOn_judges (some (Number.ofInt 3)) hrunning hbest
  have hfour : v.executor.state.book.elapsed = 4 := by
    rw [helapsed, htwo]
    norm_num
  have hover : Seconds.exceed v.executor.state.book.elapsed (Number.ofInt 3) = true := by
    rw [hfour, Seconds.exceed_iff (Seconds.exactly_whole (i := 3) (by decide +kernel))]
    norm_num
  obtain ⟨_, _, hbudget, _⟩ := time_budgets_hold_over_all_runs hchain
  obtain ⟨h, o, hrun, hstatus, hbook⟩ :=
    (hbudget _ rfl (patient_leavesTime rfl rfl)).1 1 v hv hopen hquiet hover
  exact ⟨u, hu, hchain, h, o, hrun, hstatus, hbook ▸ hfour⟩

/-- A solver that sets the time back when it is asked whether the run is to stop. -/
def backdating : Solver ℚ :=
  { patient 2 with revised := fun s => { s with book := { s.book with elapsed := -7 } } }

def backdated : Engine ℚ where
  executor := { (startingOut none).executor with solver := backdating }
  world := .start 0

/-- A run of that solver completes its opening, in two seconds, at a time before its
own. -/
theorem backdated_completes :
    ∃ u, backdated.Completes [] u ∧ u.executor.state.book.elapsed = -7 ∧
      backdated.already + (u.world.clock - backdated.world.clock) = 2 := by
  have hjudged : ∃ u v, (backdated.begun.settled.enter .opening).take .opening 0 = .ok (u, none) ∧
      u.judge = .ok v ∧ u.world.clock = 0 + 2 ∧ v.executor.state.book.elapsed = -7 ∧
      v.executor.state.cost = .bool true ∧ v.executor.state.book.bestCost = .bool true :=
    ⟨_, _, rfl, rfl, rfl, rfl, rfl, rfl⟩
  obtain ⟨u, v, htake, hjudge, hclock, helapsed, hcost, hbest⟩ := hjudged
  obtain ⟨standard, hsummary⟩ : ∃ standard, v.executor.state.summary = .ok standard :=
    State.summary_ok (congrArg Value.toFloat hcost) (congrArg Value.toFloat hbest) rfl
  obtain ⟨w, hw, hexecutor⟩ := advance_of_judge htake hjudge hsummary
  obtain ⟨u', record, htake', hsame, _⟩ := Engine.advance_time hw
  cases htake.symm.trans htake'
  refine ⟨w, ⟨.opening, _, .opening rfl, hw⟩, ?_, ?_⟩
  · rw [hexecutor]
    exact helapsed
  · rw [hsame.clock, hclock]
    show (0 : ℚ) + (0 + 2 - 0) = 2
    norm_num

/-- A run can misjudge its time in two ways. It ends out of time within its budget,
and although it judges nothing, if it goes on from a run that stopped for time, with
a budget of a hundred seconds, of which two have passed. And it completes an iteration
at another time than its own, if its solver writes that into the state when it is
asked whether the run is to stop. -/
theorem a_run_can_misjudge_its_time :
    (∃ u, (startingOut (some (Number.ofInt 1))).Completes [] u ∧
      Chained [] (goingOn (some (Number.ofInt 100)) u.executor.state) ∧
      (startingOut (some (Number.ofInt 1))).LeavesTime ∧
      (goingOn (some (Number.ofInt 100)) u.executor.state).LeavesTime ∧
      (∀ n v, ¬ (goingOn (some (Number.ofInt 100)) u.executor.state).Judges n v) ∧
      ∃ h o, (goingOn (some (Number.ofInt 100)) u.executor.state).run 0 = .ok (some (h, o)) ∧
        o.state.status.TimeIsUp ∧ o.state.book.elapsed = 2 ∧
        Seconds.exceed o.state.book.elapsed (Number.ofInt 100) = false) ∧
    ∃ u, backdated.Completes [] u ∧ u.executor.state.book.elapsed = -7 ∧
      backdated.already + (u.world.clock - backdated.world.clock) = 2 := by
  refine ⟨?_, backdated_completes⟩
  have hlate : Seconds.exceed 2 (Number.ofInt 1) = true := by
    rw [Seconds.exceed_iff (Seconds.exactly_whole (i := 1) (by decide +kernel))]
    norm_num
  have hwithin : Seconds.exceed 2 (Number.ofInt 100) = false := by
    rw [← Bool.not_eq_true,
      Seconds.exceed_iff (Seconds.exactly_whole (i := 100) (by decide +kernel))]
    norm_num
  obtain ⟨u, hu, hstatus, htwo, _⟩ :=
    startingOut_opens (some (Number.ofInt 1)) (some .timeBudgetExceeded) fun s hs =>
      Criteria.checkTermination_late (by rw [Criteria.timeIsUp_exact rfl, hs, hlate])
  have hfinished : u.executor.state.Finished := ⟨_, hstatus, by decide⟩
  have hfound := goingOn_stored (some (Number.ofInt 100)) u.executor.state
  obtain ⟨h, o, hrun, hrests⟩ := run_rests rfl hfound hfinished 0
  obtain ⟨hsame, hbook⟩ := hrests.end_as
  refine ⟨u, hu, .next (.first (startingOut_timed _) rfl) (.completed hu) (goingOn_timed _ _)
    (goingOn_stored _ _), patient_leavesTime rfl rfl, patient_leavesTime rfl rfl, ?_, h, o, hrun,
    ?_, ?_, ?_⟩
  · rintro n v ⟨kind, past, g, record, hc, _⟩
    exact hc.unfinished hfound hfinished
  · exact ⟨_, congrArg Status.reason (hsame.trans hstatus), rfl⟩
  · rw [hbook]
    exact htwo
  · rw [hbook]
    exact htwo ▸ hwithin

end Engine

end Minimize
