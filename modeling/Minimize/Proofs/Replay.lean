-- Runs of a solver that replays truth values as costs, under a limit of
-- iterations. They can be followed to their end: every iteration succeeds,
-- and a run that is not aborted ends at the limit.
import Minimize.Checkpoint.Memory
import Minimize.Proofs.Lockstep
import Minimize.Proofs.Order
import Minimize.Sample.Observer
import Minimize.Sample.Solver

namespace Minimize

variable {τ : Type}

/-! ## What cannot go wrong -/

/-- A whole number always has an entry, or none if it is zero. -/
theorem countEntry?_eq (e : String × Int) :
    countEntry? e = pure (if e.2 = 0 then none else some (e.1, Scalar.int e.2)) := by
  unfold countEntry?
  by_cases h : e.2 = 0
  · simp [Count.counted, h, pure, Except.pure]
  · simp only [Count.counted, h, ne_eq, not_false_eq_true, decide_true, if_false]
    rfl

/-- A state whose costs and time are numbers has a summary. -/
theorem State.summary_ok [Span τ] {s : State τ} {cost best time : Float}
    (hc : s.cost.toFloat = .ok cost) (hb : s.book.bestCost.toFloat = .ok best)
    (ht : Span.toFloat s.book.elapsed = .ok time) : ∃ r, s.summary = .ok r := by
  have hcounts : ∃ es, countEntries s.counts = .ok es := by
    unfold countEntries
    rw [funext countEntry?_eq, List.mapM_pure]
    exact ⟨_, rfl⟩
  obtain ⟨es, hes⟩ := hcounts
  unfold State.summary
  rw [hc, hb, ht, hes]
  exact ⟨_, rfl⟩

/-- A truth value can be held against the best cost so far if that is one as
well, and one of the two is the best cost then. -/
theorem Bookkeeping.betters_flag {b : Bookkeeping τ} (cost : Bool)
    (hb : b.hasBest = true → ∃ best, b.bestCost = .bool best) :
    ∃ better best, b.betters (.bool cost) = .ok better ∧
      (if better then .bool cost else b.bestCost) = .bool best := by
  unfold Bookkeeping.betters
  cases h : b.hasBest with
  | false => exact ⟨true, cost, rfl, rfl⟩
  | true =>
    obtain ⟨best, hbest⟩ := hb h
    obtain ⟨better, hless, _⟩ := (Value.compares_of_plain (a := .bool cost) (b := .bool best)
      rfl rfl).less
    rw [hbest]
    cases better with
    | true => exact ⟨true, cost, hless, rfl⟩
    | false => exact ⟨false, best, hless, rfl⟩

/-- Where the cost can be held against the best so far, the point is recorded, and
from then on there is a best one. -/
theorem State.recordBest_of_betters [Clock τ] {s : State τ} {better : Bool}
    (h : s.book.betters s.cost = .ok better) :
    ∃ b, s.recordBest = .ok (s.restore b, better) ∧ b.iteration = s.book.iteration ∧
      b.bestCost = (if better then s.cost else s.book.bestCost) ∧
      b.bestParam = (if better then s.param else s.book.bestParam) ∧ b.hasBest = true := by
  obtain ⟨b, hr⟩ : ∃ b, s.book.recorded s.param s.cost = .ok (b, better) := by
    rw [Bookkeeping.recorded_of_betters h]
    cases better <;> exact ⟨_, rfl⟩
  refine ⟨b, ?_, Bookkeeping.recorded_iteration hr, ?_⟩
  · unfold State.recordBest
    rw [hr]
    rfl
  · rcases Bookkeeping.recorded_cases hr with ⟨rfl, _, rfl⟩ | ⟨rfl, hhas, _, rfl⟩
    · exact ⟨rfl, rfl, rfl⟩
    · exact ⟨rfl, rfl, hhas⟩

namespace Sample

/-! ## The solver -/

/-- The position of the cost whose turn it is at a call. -/
def turn (costs : List Value) : CallKind → Int → Int
  | .opening, _ => 0
  | .step, i => min (i + 1) (costs.length - 1)

def replay (flags : List Bool) : Solver Float := sequence (flags.map Value.bool)

theorem mem_of_nth {vs : List Value} {i : Int} {v : Value} (h : nth vs i = .ok v) : v ∈ vs := by
  unfold nth at h
  dsimp only at h
  generalize (if i < 0 then i + (vs.length : Int) else i) = j at h
  split at h
  · cases h
  · split at h
    · rename_i hv
      cases h
      exact List.mem_of_getElem? hv
    · cases h

theorem nth_flags {flags : List Bool} (h : flags ≠ []) {i : Int} (hi : 0 ≤ i) :
    ∃ b, nth (flags.map Value.bool) (min i ((flags.map Value.bool).length - 1)) =
      .ok (.bool b) := by
  have hlen : 0 < flags.length := List.length_pos_iff.mpr h
  rw [List.length_map]
  generalize hj : min i (flags.length - 1 : Int) = j
  have hpos : ¬ j < 0 := by omega
  have hlt : j.toNat < flags.length := by omega
  refine ⟨flags[j.toNat], ?_⟩
  unfold nth
  simp only [hpos, if_false, List.getElem?_map, List.getElem?_eq_getElem hlt, Option.map_some]

/-- A replay goes by the iteration alone. -/
theorem replay_hidesNothing (flags : List Bool) (names : List String) (u : UserProblem) :
    (replay flags).HidesNothing names u where
  calls kind s t h := by
    have moved (c : Value) : ({ s.movedTo c with cost := c } : State Float).Alike names
        { t.movedTo c with cost := c } :=
      (h.apart "param").alter (fun x => { x with param := c, cost := c })
        (fun x => { x with param := c, cost := c }) (fun _ => ⟨rfl, rfl⟩) (fun _ => rfl)
    have needed (r : Except Slip Value) :
        (Call.need s r fun c => .ok { s.movedTo c with cost := c } none).Alike names u
          (Call.need t r fun c => .ok { t.movedTo c with cost := c } none) := by
      cases r with
      | error e => exact .done h (.failed _)
      | ok c => exact .done (moved c) (.same none)
    cases kind with
    | opening => exact needed _
    | step =>
      unfold Solver.call replay sequence
      dsimp only
      rw [← h.book]
      exact needed _
  early _ _ _ := rfl
  revised _ _ h := h
  counts _ := rfl

end Sample

namespace Engine

variable {flags : List Bool} {m : Nat} {g g' : Engine Float} {kind : CallKind} {started : Float}

/-! ## An iteration -/

/-- What comes of asking a solver that changes the best points in place, moves the
state to a point with its cost, and succeeds. -/
def Asks (kind : CallKind) (param cost : Value) (record : Option Record) (cs : List Change)
    (g : Engine Float) : Prop :=
  g.asked kind = ⟨g.executor.problem,
    g.world.note (.called kind g.executor.state.book.iteration),
    { g.executor.state.movedTo param with cost := cost }, .same record, cs⟩

/-- A call that succeeds and moves the state to a truth value as its cost. -/
def Moves (kind : CallKind) (g : Engine Float) : Prop :=
  ∃ b, g.executor.solver.call kind g.executor.state =
    .ok { g.executor.state.movedTo (.bool b) with cost := .bool b } none

/-- A call that moves the state to a cost, as its point and as its cost. -/
def MovesTo (kind : CallKind) (cost : Value) (g : Engine Float) : Prop :=
  g.executor.solver.call kind g.executor.state =
    .ok { g.executor.state.movedTo cost with cost := cost } none

/-- What an iteration comes to: a cost, the best so far, and a reason to end, if
there is one. -/
structure Reaches (i : Int) (cost best : Value) (o : Option Reason) (g : Engine Float) :
    Prop where
  iteration : g.executor.state.book.iteration = i
  cost : g.executor.state.cost = cost
  best : g.executor.state.book.bestCost = best
  hasBest : g.executor.state.book.hasBest = true
  status : g.executor.state.status = ⟨o⟩

/-- An engine whose run a limit of iterations ends, if nothing else does. -/
structure Limited (m : Nat) (g : Engine Float) : Prop where
  criteria : g.executor.settings.criteria = { Criteria.unset with maxIters := some m }
  early : g.executor.solver.terminateEarly = Sample.goOn
  judges : g.executor.solver.OnlyJudges
  best : g.executor.state.book.hasBest = true → ∃ b, g.executor.state.book.bestCost = .bool b

/-- The status at an iteration that the limit alone can end, or an abort. -/
def limited (m : Nat) (aborted : Bool) (i : Int) : Status :=
  if aborted then ⟨some .aborted⟩ else if m ≤ i then ⟨some .maxItersReached⟩ else .running

/-- What an iteration under a limit comes to. -/
structure Limit (m : Nat) (aborted : Bool) (i : Int) (g : Engine Float) : Prop extends
    Limited m g where
  cost : ∃ b, g.executor.state.cost = .bool b
  bestCost : ∃ b, g.executor.state.book.bestCost = .bool b
  iteration : g.executor.state.book.iteration = i
  status : g.executor.state.status = limited m aborted i

/-- A state whose cost can be compared is taken over. -/
theorem merge_of_recordBest [Clock τ] {g : Engine τ} {r : Returned τ} {book : Bookkeeping τ}
    {i : Int} {started : τ} {s : State τ} {improved : Bool}
    (hrec : (g.carried r.state book i started).recordBest = .ok (s, improved)) :
    ∃ u, g.merge r book i started = .ok u ∧ u.executor.state = s ∧ u.aborted = g.aborted := by
  unfold merge
  dsimp only
  rw [hrec]
  cases r.inPlace <;> exact ⟨_, rfl, rfl, rfl⟩

theorem asked_of_call {t : State Float} {record : Option Record}
    (hcall : g.executor.solver.call kind g.executor.state = .ok t record) :
    g.asked kind = ⟨g.executor.problem,
      g.world.note (.called kind g.executor.state.book.iteration), t, .same record, []⟩ := by
  unfold asked
  dsimp only
  rw [hcall]
  rfl

theorem consult_of_asked {t : State Float} {record : Option Record} {cs : List Change}
    (hasked : g.asked kind = ⟨g.executor.problem,
      g.world.note (.called kind g.executor.state.book.iteration), t, .same record, cs⟩) :
    ∃ u, g.consult kind = .ok (u, ⟨t, true, record⟩) ∧ u.carried = g.carried ∧
      u.aborted = g.aborted := by
  unfold consult
  rw [hasked]
  exact ⟨_, rfl, rfl, rfl⟩

theorem consult_of_call {t : State Float} {record : Option Record}
    (hcall : g.executor.solver.call kind g.executor.state = .ok t record) :
    ∃ u, g.consult kind = .ok (u, ⟨t, true, record⟩) ∧ u.carried = g.carried ∧
      u.aborted = g.aborted := consult_of_asked (asked_of_call hcall)

/-- A call that ends with the state that it was given is taken over if the
cost can be compared. -/
theorem take_of_asked {t s : State Float} {record : Option Record} {cs : List Change}
    {improved : Bool}
    (hasked : g.asked kind = ⟨g.executor.problem,
      g.world.note (.called kind g.executor.state.book.iteration), t, .same record, cs⟩)
    (hrec : (g.carried ((⟨t, true, record⟩ : Returned Float).placed kind g.executor.state).state
      (g.executor.state.book.afterAll cs) (kind.target g.executor.state.book.iteration)
        started).recordBest = .ok (s, improved)) :
    ∃ u, g.take kind started = .ok (u, record) ∧ u.executor.state = s ∧ u.aborted = g.aborted := by
  obtain ⟨v, hconsult, hv, habort⟩ := consult_of_asked hasked
  rw [← hv] at hrec
  obtain ⟨u, hmerge, hs, hu⟩ := merge_of_recordBest hrec
  have hkept : g.kept kind = g.executor.state.book.afterAll cs := by
    unfold kept
    rw [hasked]
  refine ⟨u, ?_, hs, hu.trans habort⟩
  unfold take
  rw [hconsult, hkept]
  dsimp only [bind, Except.bind]
  rw [hmerge]
  rfl

/-- Under a limit alone, nothing but the limit fires. -/
theorem firing_of_limit (m : Nat) (s : State Float) :
    ({ Criteria.unset with maxIters := some m } : Criteria).firing false s =
      .ok (if m ≤ s.book.iteration then some .maxItersReached else none) := by
  have hiters : ({ Criteria.unset with maxIters := some m } : Criteria).itersAreUp
      s.book.iteration = .ok (decide (m ≤ s.book.iteration)) := rfl
  unfold Criteria.firing
  rw [hiters]
  by_cases hm : m ≤ s.book.iteration
  · rw [if_pos hm, decide_eq_true hm]
    rfl
  · rw [if_neg hm, decide_eq_false hm]
    rfl

/-- Under a limit alone, a state is judged by the abort and the limit. -/
theorem check_of_limit (m : Nat) (aborted : Bool) (s : State Float) :
    checkTermination { Criteria.unset with maxIters := some m } (some Sample.goOn) aborted s =
      .ok (limited m aborted s.book.iteration).reason := by
  unfold checkTermination limited
  cases aborted with
  | true => rfl
  | false =>
    rw [firing_of_limit]
    by_cases hm : m ≤ s.book.iteration
    · simp [hm]
    · simp [hm, Sample.goOn, Status.running]

/-- A move to a point is taken over, whatever is told with it, if its cost can be
held against the best so far. -/
theorem taken_of_asked {param cost : Value} {record : Option Record} {cs : List Change}
    {better : Bool} (hm : g.Asks kind param cost record cs)
    (hrun : g.executor.state.status = .running)
    (hb : g.executor.state.book.betters cost = .ok better) (started : Float) :
    ∃ u, (g.enter kind).take kind started = .ok (u, record) ∧
      u.executor.solver = g.executor.solver ∧ u.executor.settings = g.executor.settings ∧
      u.aborted = g.aborted ∧ u.executor.state.param = param ∧
      u.executor.state.book.bestParam =
        (if better then param else (g.executor.state.book.afterAll cs).bestParam) ∧
      u.Reaches (kind.target g.executor.state.book.iteration) cost
        (if better then cost else g.executor.state.book.bestCost) none := by
  have hasked : (g.enter kind).asked kind = ⟨(g.enter kind).executor.problem,
      (g.enter kind).world.note (.called kind (g.enter kind).executor.state.book.iteration),
      { g.executor.state.movedTo param with cost := cost }, .same record, cs⟩ := by
    rw [enter_asked]
    cases kind <;> exact hm
  have hkept : (g.executor.state.book.afterAll cs).betters cost = .ok better := by
    rw [Bookkeeping.afterAll_eq]
    exact hb
  have hcarried : ∃ s : State Float, (g.enter kind).carried
        ((⟨{ g.executor.state.movedTo param with cost := cost }, true, record⟩ :
          Returned Float).placed kind (g.enter kind).executor.state).state
        ((g.enter kind).executor.state.book.afterAll cs)
        (kind.target (g.enter kind).executor.state.book.iteration) started = s ∧
      s.param = param ∧ s.cost = cost ∧ s.status = .running ∧ s.book.betters cost = .ok better ∧
      s.book.bestCost = (g.executor.state.book.afterAll cs).bestCost ∧
      s.book.bestParam = (g.executor.state.book.afterAll cs).bestParam ∧
      s.book.iteration = kind.target g.executor.state.book.iteration := by
    cases kind <;> exact ⟨_, rfl, rfl, rfl, hrun, hkept, rfl, rfl, rfl⟩
  obtain ⟨s, hs, hsparam, hscost, hstatus, hbetters, hsbest, hsbestParam, hiteration⟩ := hcarried
  obtain ⟨b, hrec, hbiter, hbbest, hbparam, hbhas⟩ :=
    State.recordBest_of_betters (hscost ▸ hbetters)
  rw [hscost, hsbest, Bookkeeping.afterAll_eq] at hbbest
  rw [hsparam, hsbestParam] at hbparam
  rw [← hs] at hrec
  obtain ⟨u, htake, hu, haborted⟩ := take_of_asked hasked hrec
  rw [hs] at hu
  refine ⟨u, htake, taken_solver htake, taken_settings htake, ?_, ?_, ?_, ?_⟩
  · rw [haborted]
    cases kind <;> rfl
  · rw [hu]
    exact hsparam
  · rw [hu]
    exact hbparam
  · constructor
    all_goals rw [hu]
    · exact hbiter.trans hiteration
    · exact hscost
    · exact hbbest
    · exact hbhas
    · exact hstatus

/-- The iteration is completed if moreover both costs have a record, and the state
can be judged. -/
theorem advance_of_asked {param cost : Value} {record : Option Record} {cs : List Change}
    {better : Bool} {o : Option Reason} {x y : Float} (hx : g.executor.solver.OnlyJudges)
    (hm : g.Asks kind param cost record cs)
    (hrun : g.executor.state.status = .running)
    (hb : g.executor.state.book.betters cost = .ok better) (hcost : cost.toFloat = .ok x)
    (hbest : (if better then cost else g.executor.state.book.bestCost).toFloat = .ok y)
    (hcheck : ∀ s : State Float,
      s.book.iteration = kind.target g.executor.state.book.iteration →
      s.book.bestCost = (if better then cost else g.executor.state.book.bestCost) →
      checkTermination g.executor.settings.criteria (some g.executor.solver.terminateEarly)
        g.aborted s = .ok o) (started : Float) :
    ∃ g', g.advance kind started = .ok g' ∧ g'.executor.solver = g.executor.solver ∧
      g'.executor.settings = g.executor.settings ∧ g'.executor.state.param = param ∧
      g'.executor.state.book.bestParam =
        (if better then param else (g.executor.state.book.afterAll cs).bestParam) ∧
      g'.Reaches (kind.target g.executor.state.book.iteration) cost
        (if better then cost else g.executor.state.book.bestCost) o := by
  obtain ⟨u, htake, hsolver, hsettings, hquiet, hparam, hbestParam, hu⟩ :=
    taken_of_asked hm hrun hb started
  have hjudged : checkTermination u.executor.settings.criteria
      (some u.executor.solver.terminateEarly) u.aborted u.executor.state = .ok o := by
    rw [hsettings, hsolver, hquiet]
    exact hcheck _ hu.iteration hu.best
  obtain ⟨standard, hsummary⟩ :=
    State.summary_ok (hu.cost ▸ hcost) (hu.best ▸ hbest) rfl
  obtain ⟨g', hg', hexecutor⟩ := advance_of_take hx htake hu.status hjudged hsummary
  refine ⟨g', hg', ?_, ?_, ?_, ?_, ?_⟩
  · rw [hexecutor]
    exact hsolver
  · rw [hexecutor]
    exact hsettings
  · rw [hexecutor]
    exact hparam
  · rw [hexecutor]
    exact hbestParam
  · constructor
    all_goals rw [hexecutor]
    · exact hu.iteration
    · exact hu.cost
    · exact hu.best
    · exact hu.hasBest

/-- An iteration that moves to a cost is such a one. -/
theorem advance_of_call {cost : Value} {record : Option Record} {better : Bool}
    {o : Option Reason} {x y : Float} (hx : g.executor.solver.OnlyJudges)
    (hm : g.executor.solver.call kind g.executor.state =
      .ok { g.executor.state.movedTo cost with cost := cost } record)
    (hrun : g.executor.state.status = .running)
    (hb : g.executor.state.book.betters cost = .ok better) (hcost : cost.toFloat = .ok x)
    (hbest : (if better then cost else g.executor.state.book.bestCost).toFloat = .ok y)
    (hcheck : ∀ s : State Float,
      s.book.iteration = kind.target g.executor.state.book.iteration →
      s.book.bestCost = (if better then cost else g.executor.state.book.bestCost) →
      checkTermination g.executor.settings.criteria (some g.executor.solver.terminateEarly)
        g.aborted s = .ok o) (started : Float) :
    ∃ g', g.advance kind started = .ok g' ∧ g'.executor.solver = g.executor.solver ∧
      g'.executor.settings = g.executor.settings ∧
      g'.Reaches (kind.target g.executor.state.book.iteration) cost
        (if better then cost else g.executor.state.book.bestCost) o := by
  obtain ⟨g', hg', hsolver, hsettings, _, _, hreaches⟩ :=
    advance_of_asked hx (asked_of_call hm) hrun hb hcost hbest hcheck started
  exact ⟨g', hg', hsolver, hsettings, hreaches⟩

theorem Reaches.stands {i : Int} {cost best : Value} {o : Option Reason}
    (h : g.Reaches i cost best o) (hs : g.Stands g') : g'.Reaches i cost best o := by
  constructor
  all_goals rw [hs.state]
  · exact h.iteration
  · exact h.cost
  · exact h.best
  · exact h.hasBest
  · exact h.status

/-- Where no save ends the run, such an iteration succeeds. -/
theorem MovesTo.iterate {cost : Value} {better : Bool} {o : Option Reason} {x y : Float}
    (hx : g.executor.solver.OnlyJudges) (hm : g.MovesTo kind cost)
    (hrun : g.executor.state.status = .running)
    (hb : g.executor.state.book.betters cost = .ok better) (hcost : cost.toFloat = .ok x)
    (hbest : (if better then cost else g.executor.state.book.bestCost).toFloat = .ok y)
    (hcheck : ∀ s : State Float,
      s.book.iteration = kind.target g.executor.state.book.iteration →
      s.book.bestCost = (if better then cost else g.executor.state.book.bestCost) →
      checkTermination g.executor.settings.criteria (some g.executor.solver.terminateEarly)
        g.aborted s = .ok o) (hs : g.SavesGoOn g.executor.solver) (started : Float) :
    ∃ g', g.iterate kind started = .ok g' ∧ g'.SavesGoOn g'.executor.solver ∧
      g'.Reaches (kind.target g.executor.state.book.iteration) cost
        (if better then cost else g.executor.state.book.bestCost) o := by
  obtain ⟨u, hu, _, _, hreaches⟩ :=
    advance_of_call hx hm hrun hb hcost hbest hcheck started
  obtain ⟨g', hg', hstands, _, hgo⟩ := hs.iterate hu
  exact ⟨g', hg', hgo, hreaches.stands hstands⟩

/-- An iteration that moves to a truth value is completed. -/
theorem Limited.advance (hl : g.Limited m) (hm : g.Moves kind)
    (hrun : g.executor.state.status = .running) (started : Float) :
    ∃ g', g.advance kind started = .ok g' ∧
      g'.Limit m g.aborted (kind.target g.executor.state.book.iteration) := by
  obtain ⟨b, hcall⟩ := hm
  obtain ⟨better, best, hb, hbest⟩ := Bookkeeping.betters_flag b hl.best
  have hmoves : g.MovesTo kind (.bool b) := hcall
  obtain ⟨g', hg', hx, hs, hreaches⟩ := advance_of_call hl.judges hmoves hrun hb rfl
    (by rw [hbest]; rfl) (fun s hi _ => by rw [hl.criteria, hl.early, check_of_limit, hi]) started
  rw [hbest] at hreaches
  exact ⟨g', hg', ⟨hs ▸ hl.criteria, hx ▸ hl.early, hx ▸ hl.judges, fun _ => ⟨best, hreaches.best⟩⟩,
    ⟨b, hreaches.cost⟩, ⟨best, hreaches.best⟩, hreaches.iteration, hreaches.status⟩

/-- Where no save ends the run, the iteration is saved and told. -/
theorem Limited.iterate (hl : g.Limited m) (hm : g.Moves kind)
    (hs : g.SavesGoOn g.executor.solver) (hrun : g.executor.state.status = .running)
    (started : Float) :
    ∃ g', g.iterate kind started = .ok g' ∧ g'.SavesGoOn g'.executor.solver ∧
      g'.Limit m g.aborted (kind.target g.executor.state.book.iteration) := by
  obtain ⟨u, hu, hul⟩ := hl.advance hm hrun started
  obtain ⟨g', hg', hstands, hkeeps, hgo⟩ := hs.iterate hu
  refine ⟨g', hg', hgo, ⟨?_, ?_, ?_, ?_⟩, ?_, ?_, ?_, ?_⟩
  · rw [hkeeps.settings]
    exact hul.criteria
  · rw [hkeeps.solver]
    exact hul.early
  · rw [hkeeps.solver]
    exact hul.judges
  · rw [hstands.state]
    exact hul.best
  · rw [hstands.state]
    exact hul.cost
  · rw [hstands.state]
    exact hul.bestCost
  · rw [hstands.state]
    exact hul.iteration
  · rw [hstands.state]
    exact hul.status

/-! ## A run -/

theorem Limit.ended {i : Int} (hl : g.Limit m false i) (hs : g.SavesGoOn g.executor.solver)
    (hm : m ≤ i) (n : Nat) :
    ∃ g', g.onward started n = some (.ok g') ∧ g'.executor.state = g.executor.state ∧
      g'.executor.state.status = ⟨some .maxItersReached⟩ := by
  have hover : g.executor.state.status = ⟨some .maxItersReached⟩ := hl.status.trans (if_pos hm)
  obtain ⟨g', hg', hstands, _, _⟩ := hs.save true
  refine ⟨g', ?_, hstands.state, hstands.state ▸ hover⟩
  rw [onward_terminated _ _ (State.terminated_of_reason hover), hg']

/-- What a solver that replays costs does when it is called. -/
theorem call_of_sequence {costs : List Value} (hx : g.executor.solver = Sample.sequence costs)
    (kind : CallKind) :
    g.executor.solver.call kind g.executor.state =
      .need g.executor.state
        (Sample.nth costs (Sample.turn costs kind g.executor.state.book.iteration))
        fun c => .ok { g.executor.state.movedTo c with cost := c } none := by
  rw [hx]
  cases kind <;> rfl

theorem sequence_leavesBest (costs : List Value) :
    (Sample.sequence costs : Solver Float).LeavesBest := by
  intro kind s p w c hc
  have hnone : ((Sample.sequence costs).call kind s).run p w =
      ⟨p, w, (((Sample.sequence costs).call kind s).run p w).left,
        (((Sample.sequence costs).call kind s).run p w).answer, []⟩ := by
    cases kind with
    | opening =>
      show (Call.need s (Sample.nth costs 0) _).run p w = _
      unfold Solver.call Sample.sequence
      cases Sample.nth costs 0 <;> rfl
    | step =>
      unfold Solver.call Sample.sequence
      dsimp only
      cases Sample.nth costs (min (s.book.iteration + 1) (costs.length - 1)) <;> rfl
  rw [hnone] at hc
  cases hc

theorem movesTo_of_sequence {costs : List Value} {c : Value}
    (hx : g.executor.solver = Sample.sequence costs)
    (hn : Sample.nth costs (Sample.turn costs kind g.executor.state.book.iteration) = .ok c) :
    g.MovesTo kind c := by
  unfold MovesTo
  rw [call_of_sequence hx, hn]
  rfl

/-- An engine that replays truth values. -/
structure Replays (flags : List Bool) (g : Engine Float) : Prop where
  solver : g.executor.solver = Sample.replay flags
  flags : flags ≠ []
  counted : 0 ≤ g.executor.state.book.iteration

theorem Replays.moves (hr : g.Replays flags) (kind : CallKind) : g.Moves kind := by
  cases kind with
  | opening =>
    obtain ⟨b, hb⟩ := Sample.nth_flags hr.flags (Int.le_refl 0)
    have hlen : 0 < flags.length := List.length_pos_iff.mpr hr.flags
    have hmin : min 0 ((flags.map Value.bool).length - 1 : Int) = 0 := by
      rw [List.length_map]
      omega
    rw [hmin] at hb
    exact ⟨b, movesTo_of_sequence hr.solver hb⟩
  | step =>
    have hi : 0 ≤ g.executor.state.book.iteration + 1 :=
      Int.le_trans hr.counted (Int.le_of_lt (Int.lt_succ _))
    obtain ⟨b, hb⟩ := Sample.nth_flags hr.flags hi
    exact ⟨b, movesTo_of_sequence hr.solver hb⟩

theorem Replays.iterate (hr : g.Replays flags) (hi : g.iterate kind started = .ok g') :
    g'.Replays flags := by
  have hk := iterate_keeps kind started g
  have hcounted := hr.counted
  rw [hi] at hk
  refine ⟨hk.solver.trans hr.solver, hr.flags, ?_⟩
  have hx : g.executor.solver.LeavesIteration := by
    rw [hr.solver]
    exact fun _ => rfl
  rw [iterate_iteration hx hi]
  cases kind with
  | opening => exact hcounted
  | step => exact Int.le_trans hcounted (Int.le_of_lt (Int.lt_succ _))

/-- A replay that can go on goes on to its limit, if no signal can abort it. -/
theorem Replays.onward {i : Int} (hr : g.Replays flags) (hl : g.Limit m false i)
    (hs : g.SavesGoOn g.executor.solver) (hsig : g.executor.signal = none) {n : Nat}
    (hn : m ≤ i + n) :
    ∃ g', g.onward started n = some (.ok g') ∧
      g'.executor.state.book.iteration = max i m ∧
      g'.executor.state.status = ⟨some .maxItersReached⟩ ∧
      ∃ b, g'.executor.state.book.bestCost = .bool b := by
  induction n generalizing g i with
  | zero =>
    obtain ⟨g', hg', hstate, hover⟩ := hl.ended hs (by omega) 0
    refine ⟨g', hg', ?_, hover, hstate ▸ hl.bestCost⟩
    rw [hstate, hl.iteration]
    omega
  | succ n ih =>
    by_cases hm : m ≤ i
    · obtain ⟨g', hg', hstate, hover⟩ := hl.ended hs hm (n + 1)
      refine ⟨g', hg', ?_, hover, hstate ▸ hl.bestCost⟩
      rw [hstate, hl.iteration]
      omega
    · have hrun : g.executor.state.status = .running := hl.status.trans (if_neg hm)
      obtain ⟨v, hv, hvs, hvl⟩ := hl.iterate (hr.moves .step) hs hrun started
      have hk := iterate_keeps .step started g
      rw [hv] at hk
      have hquiet : g.aborted = false := not_aborted hsig
      rw [hquiet, hl.iteration] at hvl
      have hreach : (m : Int) ≤ CallKind.step.target i + n := by
        show (m : Int) ≤ i + 1 + n
        omega
      obtain ⟨g', hg', hlast, hover, hbest⟩ :=
        ih (hr.iterate hv) hvl hvs (hk.signal.trans hsig) hreach
      have hlast' : g'.executor.state.book.iteration = max (i + 1) m := hlast
      refine ⟨g', ?_, by omega, hover, hbest⟩
      rw [onward_step _ _ (State.not_terminated_iff.mpr hrun), hv]
      exact hg'

/-- A replay that starts anew, that no signal can abort, and whose saves end no
run, ends at its limit. -/
theorem Replays.run {g₀ : Engine Float} (hp : g₀.executor.phase = .created)
    (hn : g₀.stored = .ok none) (hr : g₀.begun.settled.Replays flags)
    (hl : g₀.begun.settled.Limited m) (hrun : g₀.executor.state.status = .running)
    (hs : g₀.SavesGoOn g₀.executor.solver) (hsig : g₀.executor.signal = none) {n : Nat}
    (hm : m ≤ g₀.executor.state.book.iteration + n) :
    ∃ a, g₀.run n = .ok (some a) ∧ a.2.error = none ∧
      a.2.iterations = max g₀.executor.state.book.iteration m ∧
      a.2.reason? = some .maxItersReached ∧ ∃ b, a.2.bestCost = .bool b := by
  have hquiet : g₀.begun.settled.aborted = false := not_aborted hsig
  obtain ⟨v, hv, hvs, hvl⟩ :=
    hl.iterate (hr.moves .opening) (hs.of_same rfl rfl) hrun g₀.world.clock
  have hk := iterate_keeps .opening g₀.world.clock g₀.begun.settled
  rw [hv] at hk
  rw [hquiet] at hvl
  obtain ⟨g', hg', hlast, hover, hbest⟩ :=
    (hr.iterate hv).onward hvl hvs (hk.signal.trans hsig) hm
  have hcourse := run_of_course hp (.start ((start_fresh hn _).trans hv)) n
  rw [List.length_nil, Nat.zero_add, hg'] at hcourse
  exact ⟨g'.close g₀.executor.runName none, hcourse, rfl, hlast, congrArg Status.reason hover,
    hbest⟩

/-- What such a run ends with can be written, if there are few iterations. -/
theorem isWritable_of_limit {o : Outcome Float} {b : Bool} (hits : o.iterations.natAbs < 10)
    (hreason : o.reason? = some .maxItersReached) (hbest : o.bestCost = .bool b) :
    o.isWritable = true := by
  unfold Outcome.isWritable
  rw [hreason, hbest, Text.isWritable_of_digit hits]
  rfl

def underLimit (x : Solver Float) (m : Nat) (policy : Option (Policy Float))
    (signal : Option Nat) (w : World Float) : Engine Float where
  executor := {
    problem := .wrap .nothing
    solver := x
    state := .fresh .point
    settings := ⟨{ Criteria.unset with maxIters := some m }, false, none⟩
    observers := .empty
    policy := policy
    signal := signal
    phase := .created
    warnings := []
    baseElapsed := Span.zero
    improved := false
    handed := none }
  world := w

def watchedBy (g : Engine Float) (o : Observer Float) : Engine Float :=
  { g with executor := { g.executor with observers := Table.empty.insert "log" ⟨o, .always⟩ } }

/-- An observer that takes what it is told, and meets with a failure whenever
it is called, if one is given. -/
def onlooker (f : Option Fault) : Observer Float :=
  Sample.scriptedObserver "log" ⟨none, [], none, f, none, f⟩

variable {x : Solver Float} {policy : Option (Policy Float)} {signal : Option Nat}
  {w : World Float}

/-- A policy that saves in memory, at the end of a run at least. -/
def inMemory (resume : Bool) : Policy Float :=
  ⟨"memory", Checkpoint.Memory.store, "run", .never, false, resume, none⟩

theorem no_policy_saves : (underLimit x m none signal w).SavesGoOn x := fun _ h => nomatch h

theorem underLimit_opens (hearly : x.terminateEarly = Sample.goOn) (hx : x.OnlyJudges)
    (hm : (underLimit x m policy signal w).begun.settled.Moves .opening)
    (hn : (underLimit x m policy signal w).stored = .ok none)
    (hs : (underLimit x m policy signal w).SavesGoOn x) :
    ∃ v, (underLimit x m policy signal w).Course [] v ∧
      v.SavesGoOn v.executor.solver ∧ v.executor.solver = x ∧ v.executor.signal = signal ∧
      v.Limit m (underLimit x m policy signal w).aborted 0 := by
  have hl : (underLimit x m policy signal w).begun.settled.Limited m :=
    ⟨rfl, hearly, hx, fun h => nomatch h⟩
  obtain ⟨v, hv, hvs, hvl⟩ := hl.iterate hm (hs.of_same rfl rfl) rfl w.clock
  have hk := iterate_keeps .opening w.clock (underLimit x m policy signal w).begun.settled
  rw [hv] at hk
  exact ⟨v, .start ((start_fresh hn _).trans hv), hvs, hk.solver, hk.signal, hvl⟩

theorem replay_opens (hf : flags ≠ [])
    (hn : (underLimit (Sample.replay flags) m policy signal w).stored = .ok none)
    (hs : (underLimit (Sample.replay flags) m policy signal w).SavesGoOn (Sample.replay flags)) :
    ∃ v, (underLimit (Sample.replay flags) m policy signal w).Course [] v ∧
      v.SavesGoOn v.executor.solver ∧ v.Replays flags ∧ v.executor.signal = signal ∧
      v.Limit m (underLimit (Sample.replay flags) m policy signal w).aborted 0 := by
  have hr : (underLimit (Sample.replay flags) m policy signal w).begun.settled.Replays flags :=
    ⟨rfl, hf, Int.le_refl 0⟩
  obtain ⟨v, hv, hvs, hx, hsig, hvl⟩ :=
    underLimit_opens rfl (fun _ => rfl) (hr.moves .opening) hn hs
  exact ⟨v, hv, hvs, ⟨hx, hf, Int.le_of_eq hvl.iteration.symm⟩, hsig, hvl⟩

theorem replay_opens_unsaved (hf : flags ≠ []) (m : Nat) (w : World Float) :
    ∃ v, (underLimit (Sample.replay flags) m none none w).Course [] v ∧
      v.SavesGoOn v.executor.solver ∧ v.Replays flags ∧ v.executor.signal = none ∧
      v.Limit m false 0 :=
  replay_opens hf rfl no_policy_saves

/-- A replay that starts anew, is not aborted, and whose saves end no run, ends at
its limit. -/
theorem replay_ends (hf : flags ≠ []) (m : Nat)
    (hn : (underLimit (Sample.replay flags) m policy none w).stored = .ok none)
    (hs : (underLimit (Sample.replay flags) m policy none w).SavesGoOn (Sample.replay flags)) :
    ∃ a, (underLimit (Sample.replay flags) m policy none w).run m = .ok (some a) ∧
      a.2.error = none ∧ a.2.iterations = m ∧ a.2.reason? = some .maxItersReached := by
  have hreach : (m : Int) ≤ 0 + m := by omega
  obtain ⟨a, hrun, herror, hits, hreason, _⟩ :=
    Replays.run rfl hn ⟨rfl, hf, Int.le_refl 0⟩
      ⟨rfl, rfl, fun _ => rfl, fun h => nomatch h⟩ rfl hs rfl hreach
  have hzero :
      (underLimit (Sample.replay flags) m policy none w).executor.state.book.iteration = 0 := rfl
  rw [hzero] at hits
  exact ⟨a, hrun, herror, by omega, hreason⟩

theorem a_replay_ends_at_its_limit (hf : flags ≠ []) (m : Nat) (w : World Float) :
    ∃ a, (underLimit (Sample.replay flags) m none none w).run m = .ok (some a) ∧
      a.2.error = none ∧ a.2.iterations = m ∧ a.2.reason? = some .maxItersReached :=
  replay_ends hf m rfl no_policy_saves

theorem saving_replay_ends (hf : flags ≠ []) (m : Nat) {q : Policy Float}
    (hn : (underLimit (Sample.replay flags) m (some q) none w).stored = .ok none)
    (hq : q.fatal = false) :
    ∃ a, (underLimit (Sample.replay flags) m (some q) none w).run m = .ok (some a) ∧
      a.2.error = none ∧ a.2.iterations = m ∧ a.2.reason? = some .maxItersReached :=
  replay_ends hf m hn fun p hp => by
    cases hp
    exact .inl hq

end Engine

end Minimize
