-- The best point is the first least of all costs so far. The law is an
-- invariant of the bookkeeping: it is put up by the opening, every step keeps
-- it, and so it holds after every iteration of every run.
import Minimize.Proofs.Stopping

namespace Minimize

open Number

variable {τ : Type}

/-! ## The first least -/

/-- The state at a position leads: none of the states costs less, and all
before it cost more. -/
structure Leads (history : List (State τ)) (i : Nat) (s : State τ) : Prop where
  stands : history[i]? = some s
  least : ∀ t ∈ history, ¬ t.cost.Below s.cost
  first : ∀ j < i, ∀ t, history[j]? = some t → s.cost.Below t.cost

/-- The costs of states are numbers that the order of values puts as they stand
on the line. -/
def Comparable (history : List (State τ)) : Prop :=
  ∀ s ∈ history, ∀ t ∈ history, s.cost.Compares t.cost

theorem Value.Commensurable.comparable {history : List (State τ)}
    (h : Value.Commensurable (history.map (·.cost))) : Comparable history :=
  fun _ hs _ ht => h.compares (List.mem_map_of_mem hs) (List.mem_map_of_mem ht)

theorem Leads.mem {history : List (State τ)} {i : Nat} {s : State τ} (h : Leads history i s) :
    s ∈ history := List.mem_of_getElem? h.stands

theorem leads_single (s : State τ) : Leads [s] 0 s where
  stands := rfl
  least _ ht := List.mem_singleton.mp ht ▸ Value.Below.irrefl
  first j hj := absurd hj (Nat.not_lt_zero j)

theorem Leads.overtaken {history : List (State τ)} {i : Nat} {s t : State τ}
    (h : Leads history i t) (hc : Comparable (history ++ [s])) (hb : s.cost.Below t.cost) :
    Leads (history ++ [s]) history.length s := by
  have hbelow : ∀ u ∈ history, s.cost.Below u.cost := by
    intro u hu
    have hmem : u ∈ history ++ [s] := List.mem_append_left _ hu
    obtain ⟨p, _, hp, _, _⟩ := hc u hmem u hmem
    exact hb.trans_not (h.least u hu) ⟨p, hp⟩
  refine ⟨by simp, ?_, ?_⟩
  · intro u hu hlt
    rcases List.mem_append.mp hu with h1 | h1
    · obtain ⟨p, q, hp, hq, hpq⟩ := hbelow u h1
      obtain ⟨q', p', hq', hp', hqp⟩ := hlt
      rw [hp] at hp'
      rw [hq] at hq'
      cases hp'
      cases hq'
      exact Number.Place.lt_irrefl p (Number.Place.lt_trans hpq hqp)
    · exact Value.Below.irrefl (List.mem_singleton.mp h1 ▸ hlt)
  · intro j hj u hu
    rw [List.getElem?_append_left hj] at hu
    exact hbelow u (List.mem_of_getElem? hu)

theorem Leads.kept {history : List (State τ)} {i : Nat} {s t : State τ} (h : Leads history i t)
    (hb : ¬ s.cost.Below t.cost) : Leads (history ++ [s]) i t := by
  have hi : i < history.length := (List.getElem?_eq_some_iff.mp h.stands).1
  refine ⟨by rw [List.getElem?_append_left hi]; exact h.stands, ?_, ?_⟩
  · intro u hu
    rcases List.mem_append.mp hu with h1 | h1
    · exact h.least u h1
    · exact List.mem_singleton.mp h1 ▸ hb
  · intro j hj u hu
    rw [List.getElem?_append_left (Nat.lt_trans hj hi)] at hu
    exact h.first j hj u hu

/-! ## The bookkeeping -/

/-- Bookkeeping with no best point yet. -/
structure Bookkeeping.Fresh (b : Bookkeeping τ) : Prop where
  hasBest : b.hasBest = false
  param : b.bestParam = .null
  cost : b.bestCost = .unevaluated

/-- The best point before a position of a history: that of the state which
leads up to there, or nothing if there is none. -/
inductive BestBefore (history : List (State τ)) : Nat → Value → Value → Prop
  | nothing : BestBefore history 0 .null .unevaluated
  | leader {i j : Nat} {t : State τ} (h : Leads (history.take i) j t) :
      BestBefore history i t.param t.cost

theorem BestBefore.append {history : List (State τ)} {i : Nat} {param cost : Value}
    (h : BestBefore history i param cost) (hi : i ≤ history.length) (more : List (State τ)) :
    BestBefore (history ++ more) i param cost := by
  cases h with
  | nothing => exact .nothing
  | leader hl => exact .leader (by rw [List.take_append_of_le_length hi]; exact hl)

/-- What the bookkeeping says about the history of a run that began at the
iteration `first`, and whether its last iteration gave the best point. -/
structure Tracked (first : Int) (history : List (State τ)) (b : Bookkeeping τ)
    (improved : Bool) : Prop where
  hasBest : b.hasBest = true
  iteration : b.iteration + 1 = first + history.length
  best : ∃ i s, Leads history i s ∧ b.lastBestIteration = first + i ∧ b.bestParam = s.param ∧
    b.bestCost = s.cost ∧ BestBefore history i b.prevBestParam b.prevBestCost
  streak : b.noImprovementStreak = b.iteration - b.lastBestIteration
  improved : improved = true ↔ b.lastBestIteration = b.iteration

theorem tracked_opening {b b' : Bookkeeping τ} {s : State τ} {improved : Bool}
    (hf : b.Fresh) (hr : b.recorded s.param s.cost = .ok (b', improved)) :
    Tracked b.iteration [s] b' improved := by
  rw [Bookkeeping.recorded_first hf.hasBest] at hr
  cases hr
  refine ⟨rfl, rfl, ⟨0, s, leads_single s, ?_, rfl, rfl, ?_⟩, ?_, ?_⟩
  · exact (Int.add_zero _).symm
  · have hn : BestBefore [s] 0 .null .unevaluated := .nothing
    rw [← hf.param, ← hf.cost] at hn
    exact hn
  · exact (Int.sub_self _).symm
  · exact ⟨fun _ => rfl, fun _ => rfl⟩

/-- A step tracks the history with its own state. -/
theorem Tracked.step {first : Int} {history : List (State τ)} {b b₁ b' : Bookkeeping τ}
    {before improved : Bool} {s : State τ} (h : Tracked first history b before)
    (hc : Comparable (history ++ [s]))
    (hb : b₁ = { b with iteration := b.iteration + 1, elapsed := b₁.elapsed })
    (hr : b₁.recorded s.param s.cost = .ok (b', improved)) :
    Tracked first (history ++ [s]) b' improved := by
  obtain ⟨i, t, hl, hlast, hparam, hcost, hprev⟩ := h.best
  have hi : i < history.length := (List.getElem?_eq_some_iff.mp hl.stands).1
  have hmem : s ∈ history ++ [s] := List.mem_append_right _ (List.mem_singleton.mpr rfl)
  obtain ⟨better, hless, hbelow⟩ :=
    (hc s hmem t (List.mem_append_left _ hl.mem)).less
  have hiter := h.iteration
  have hbest : b₁.hasBest = true := by rw [hb]; exact h.hasBest
  have hless' : s.cost.less b₁.bestCost = .ok better := by rw [hb]; exact hcost ▸ hless
  rw [Bookkeeping.recorded_later hbest s.param hless'] at hr
  have hlen : ((history ++ [s]).length : Int) = history.length + 1 := by simp
  rw [hb] at hr
  cases better with
  | true =>
    cases hr
    have hlt := hl.overtaken hc (hbelow.mp rfl)
    refine ⟨rfl, ?_, ⟨history.length, s, hlt, ?_, rfl, rfl, ?_⟩, ?_, ?_⟩
    · simp only [Bookkeeping.improved]
      omega
    · exact hiter
    · have hp : BestBefore (history ++ [s]) history.length t.param t.cost :=
        .leader (by rw [List.take_left]; exact hl)
      rw [← hparam, ← hcost] at hp
      exact hp
    · exact (Int.sub_self _).symm
    · exact ⟨fun _ => rfl, fun _ => rfl⟩
  | false =>
    cases hr
    have hnot : ¬ s.cost.Below t.cost := fun hlt => Bool.false_ne_true (hbelow.mpr hlt)
    refine ⟨h.hasBest, ?_, ⟨i, t, hl.kept hnot, hlast, hparam, hcost, ?_⟩, ?_, ?_⟩
    · dsimp only
      omega
    · exact hprev.append (Nat.le_of_lt hi) [s]
    · dsimp only
      have := h.streak
      omega
    · dsimp only
      constructor
      · intro hf
        cases hf
      · intro he
        omega

/-! ## Runs -/

theorem Comparable.before {history : List (State τ)} {s : State τ}
    (h : Comparable (history ++ [s])) : Comparable history :=
  fun t ht u hu => h t (List.mem_append_left _ ht) u (List.mem_append_left _ hu)

variable [Clock τ] {g₀ g u : Engine τ} {kind : CallKind} {past : List (State τ)}

namespace Engine

/-- What a completed opening tracks. -/
theorem tracked_of_opening (hx : g.executor.solver.OnlyJudges)
    (hbest : g.executor.solver.LeavesBest) (hf : g.executor.state.book.Fresh) {started : τ}
    (ha : g.advance .opening started = .ok u) :
    Tracked g.executor.state.book.iteration [u.executor.state] u.executor.state.book
      u.executor.improved := by
  obtain ⟨elapsed, hr⟩ := advance_book hx ha
  rw [kept_of_leavesBest hbest] at hr
  have hf' : ({ g.executor.state.book with elapsed := elapsed } : Bookkeeping τ).Fresh :=
    ⟨hf.hasBest, hf.param, hf.cost⟩
  have h := tracked_opening hf' hr
  exact h

/-- After every iteration of a run, the bookkeeping tracks the history. -/
theorem Course.tracked (hx : g₀.executor.solver.OnlyJudges)
    (hbest : g₀.executor.solver.LeavesBest) (hn : g₀.stored = .ok none)
    (hf : g₀.executor.state.book.Fresh) (hc : g₀.Course past g)
    (hcomp : Comparable (past ++ [g.executor.state])) :
    Tracked g₀.executor.state.book.iteration (past ++ [g.executor.state]) g.executor.state.book
      g.executor.improved := by
  induction hc with
  | start hs =>
    rw [start_fresh hn] at hs
    obtain ⟨u, ha, hu, _⟩ := iterate_ok hs
    rw [hu.state, hu.improved]
    exact tracked_of_opening (g := g₀.begun.settled) hx hbest hf ha
  | step hc hr hi ih =>
    have hsolver := (hc.keeps hn).1
    obtain ⟨elapsed, hrec⟩ := iterate_book (hsolver ▸ hx) hi
    rw [kept_of_leavesBest (hsolver ▸ hbest)] at hrec
    exact (ih hcomp.before).step hcomp rfl hrec

/-- The best point is the first least of the whole history, if the solver changes
neither the best points in place nor the state when it is asked. Whenever an
iteration of a run from fresh bookkeeping is completed, the best cost is the
least of the costs that were recorded, the best point is the one that the
first state with that cost had, and the streak counts the iterations since;
the best before it is kept too; and the iteration counts as an improvement
exactly if it is that first state. -/
theorem the_best_point_is_the_first_least (hx : g₀.executor.solver.OnlyJudges)
    (hbest : g₀.executor.solver.LeavesBest) (hn : g₀.stored = .ok none)
    (hf : g₀.executor.state.book.Fresh) (hc : g₀.ComesTo kind past u)
    (ha : u.advance kind g₀.world.clock = .ok g)
    (hcomp : Comparable (past ++ [g.executor.state])) :
    Tracked g₀.executor.state.book.iteration (past ++ [g.executor.state]) g.executor.state.book
      g.executor.improved := by
  cases hc with
  | opening _ => exact tracked_of_opening (g := g₀.begun.settled) hx hbest hf ha
  | step hc hr =>
    have hsolver := (hc.keeps hn).1
    obtain ⟨elapsed, hrec⟩ := advance_book (hsolver ▸ hx) ha
    rw [kept_of_leavesBest (hsolver ▸ hbest)] at hrec
    exact (hc.tracked hx hbest hn hf hcomp.before).step hcomp rfl hrec

/-- The law at the second iteration of a replay. -/
theorem the_first_least_of_a_replay :
    ∃ past u g, ComesTo (underLimit (Sample.replay [true, false]) 3 none none (.start 0)) .step
      past u ∧ u.advance .step 0 = .ok g ∧ past.length = 1 ∧
      Tracked 0 (past ++ [g.executor.state]) g.executor.state.book g.executor.improved := by
  obtain ⟨u, hu, _, hur, _, hul⟩ :=
    replay_opens_unsaved (List.cons_ne_nil true [false]) 3 (.start 0)
  have hrun : u.executor.state.status = .running := hul.status
  obtain ⟨g, hg, hgl⟩ := hul.toLimited.advance (hur.moves .step) hrun 0
  have hcomes := ComesTo.step hu (State.not_terminated_iff.mpr hrun)
  have hcosts : Comparable ([] ++ [u.executor.state] ++ [g.executor.state]) := by
    refine Value.Commensurable.comparable (.plain ?_)
    obtain ⟨b, hb⟩ := hul.cost
    obtain ⟨c, hc⟩ := hgl.cost
    intro v hv
    simp only [List.nil_append, List.cons_append, List.map_cons, List.map_nil, hb, hc,
      List.mem_cons, List.not_mem_nil, or_false] at hv
    rcases hv with rfl | rfl <;> rfl
  exact ⟨_, u, g, hcomes, hg, rfl,
    the_best_point_is_the_first_least (fun _ => rfl) (sequence_leavesBest _) rfl
      ⟨rfl, rfl, rfl⟩ hcomes hg hcosts⟩

/-! ## Points that are not kept, and a least cost that is not found -/

/-- A point that can be changed in place. -/
def slate (i : Int) : Value := .array (.row [.number (Number.ofInt i)])

theorem slate_zero_ne : slate 0 ≠ slate 1 := by
  intro h
  have hsame : Number.ofInt 0 = Number.ofInt 1 := by
    simpa [slate] using h
  have hless : Number.less (Number.ofInt 0) (Number.ofInt 1) = true := by decide +kernel
  rw [hsame, show Number.less (Number.ofInt 1) (Number.ofInt 1) = false by decide +kernel] at hless
  cases hless

/-- A solver whose step changes the best point in place. -/
def wiping (p : Value) : Solver Float :=
  { Sample.replay [true] with
    opening := fun s => .ok { s.movedTo (slate 1) with cost := .float (Number.ofInt 1) } none
    step := fun s => .change (.best p)
      (.ok { s.movedTo (slate 1) with cost := .float (Number.ofInt 1) } none) }

/-- A solver that writes over the best point when it is asked whether the run is to
stop. -/
def revising (p : Value) : Solver Float :=
  { Sample.replay [true] with
    revised := fun s => { s with book := { s.book with bestParam := p } } }

/-- After a step of that solver, the best point is not the one that was recorded, but
what it was changed to. -/
theorem wiping_wipes (p : Value) :
    ∃ s g, (underLimit (wiping p) 3 none none (.start 0)).Course [s] g ∧ s.param = slate 1 ∧
      s.book.bestParam = slate 1 ∧ g.executor.state.book.bestCost = s.cost ∧
      g.executor.state.book.bestParam = p := by
  -- the opening records a point
  have hopens : Asks .opening (slate 1) (.float (Number.ofInt 1)) none []
      (underLimit (wiping p) 3 none none (.start 0)).begun.settled := rfl
  have hbetter :
      (underLimit (wiping p) 3 none none (.start 0)).begun.settled.executor.state.book.betters
        (.float (Number.ofInt 1)) = .ok true := rfl
  obtain ⟨u, hu, hsolver, hsettings, hparam, hbest, hr⟩ := advance_of_asked (o := none)
    (fun _ => rfl) hopens rfl hbetter rfl rfl
    (fun s hs _ => (check_of_limit 3 false s).trans (by rw [hs]; rfl)) 0
  have hsaves : (underLimit (wiping p) 3 none none (.start 0)).begun.settled.SavesGoOn (wiping p) :=
    fun _ hp => nomatch hp
  obtain ⟨v, hv, hstands, hkeeps, hgo⟩ := hsaves.iterate hu
  have hx : v.executor.solver = wiping p := hkeeps.solver.trans hsolver
  have hreaches : v.Reaches 0 (.float (Number.ofInt 1)) (.float (Number.ofInt 1)) none :=
    hr.stands hstands
  have hcriteria : v.executor.settings.criteria = { Criteria.unset with maxIters := some 3 } :=
    congrArg Settings.criteria (hkeeps.settings.trans hsettings)
  have hquiet : v.aborted = false := by
    have hi := iterate_keeps .opening 0 (underLimit (wiping p) 3 none none (.start 0)).begun.settled
    rw [hv] at hi
    exact not_aborted hi.signal
  -- the step changes it in place
  have hasks : v.Asks .step (slate 1) (.float (Number.ofInt 1)) none [.best p] := by
    unfold Asks asked
    dsimp only
    rw [hx]
    rfl
  have hless : (Value.float (Number.ofInt 1)).less (.float (Number.ofInt 1)) = .ok false := by
    rw [Value.less_of_operands rfl rfl]
    show Except.ok (Number.less (Number.ofInt 1) (Number.ofInt 1)) = _
    rw [show Number.less (Number.ofInt 1) (Number.ofInt 1) = false by decide +kernel]
  have hfloat : (Value.float (Number.ofInt 1)).toFloat = .ok (Number.ofInt 1) := rfl
  obtain ⟨w, hw, _, _, _, hwbest, hwr⟩ := advance_of_asked (o := none) (hx ▸ fun _ => rfl) hasks
    hreaches.status (hreaches.betters hless) hfloat
    (by rw [hreaches.best]; exact hfloat)
    (fun s hs _ => by
      rw [hcriteria, hx, hquiet]
      refine (check_of_limit 3 false s).trans ?_
      rw [hs, hreaches.iteration]
      rfl) 0
  obtain ⟨g, hg, hgstands, _⟩ := hgo.iterate hw
  refine ⟨v.executor.state, g, .step (.start ((start_fresh rfl _).trans hv))
    (State.not_terminated_iff.mpr hreaches.status) hg, ?_, ?_, ?_, ?_⟩
  · rw [hstands.state]
    exact hparam
  · rw [hstands.state]
    exact hbest
  · rw [hgstands.state, hwr.best, hreaches.cost, hreaches.best]
    rfl
  · rw [hgstands.state, hwbest]
    rfl

/-- The best point of a run of that solver is not the point that was recorded. -/
theorem revising_revises (p : Value) :
    ∃ g, (underLimit (revising p) 3 none none (.start 0)).Course [] g ∧
      g.executor.state.param = .bool true ∧ g.executor.state.book.bestParam = p := by
  have hjudged : ∃ u v, ((underLimit (revising p) 3 none none (.start 0)).begun.settled.enter
        .opening).take .opening 0 = .ok (u, none) ∧ u.judge = .ok v ∧
      v.executor.state.param = .bool true ∧ v.executor.state.book.bestParam = p ∧
      v.executor.state.cost = .bool true ∧ v.executor.state.book.bestCost = .bool true :=
    ⟨_, _, rfl, rfl, rfl, rfl, rfl, rfl⟩
  obtain ⟨u, v, ht, hj, hparam, hbest, hcost, hbestCost⟩ := hjudged
  obtain ⟨standard, hs⟩ := State.summary_ok (s := v.executor.state) (by rw [hcost]; rfl)
    (by rw [hbestCost]; rfl) rfl
  obtain ⟨w, hw, hexecutor⟩ := advance_of_judge ht hj hs
  have hsaves : (underLimit (revising p) 3 none none (.start 0)).begun.settled.SavesGoOn
      (revising p) := fun _ hp => nomatch hp
  obtain ⟨g, hg, hstands, _⟩ := hsaves.iterate hw
  refine ⟨g, .start ((start_fresh rfl _).trans hg), ?_, ?_⟩
  · rw [hstands.state, hexecutor]
    exact hparam
  · rw [hstands.state, hexecutor]
    exact hbest

/-- Without its conditions the law fails. The second of two costs is lower than the
first, as numbers, and not held to be lower; a solver changes the best point in place,
or writes over it when it is asked. -/
theorem the_best_point_can_be_missed_or_moved :
    (∃ s g x y, nearMiss.Course [s] g ∧ g.executor.state.book.bestCost = .float x ∧
      g.executor.state.cost.toFloat = .ok y ∧ Number.less y x = true) ∧
    (∃ s g, (underLimit (wiping (slate 0)) 3 none none (.start 0)).Course [s] g ∧
      s.param = slate 1 ∧ s.book.bestParam = slate 1 ∧ g.executor.state.book.bestCost = s.cost ∧
      g.executor.state.book.bestParam = slate 0) ∧
    ∃ g, (underLimit (revising (slate 0)) 3 none none (.start 0)).Course [] g ∧
      g.executor.state.param = .bool true ∧ g.executor.state.book.bestParam = slate 0 := by
  refine ⟨?_, wiping_wipes _, revising_revises _⟩
  obtain ⟨a, b, _, hb, _, hra, hrb⟩ := nearMiss_goes_on
  refine ⟨_, b, nearTwo, Number.ofInt 2, hb, hrb.best, ?_, by decide +kernel⟩
  rw [hrb.cost]
  rfl

end Engine

end Minimize
