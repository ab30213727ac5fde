-- The checks that can end a run, one by one. Each has a word of its own on a
-- state: a reason, or none, or a slip. The check of the termination is the
-- first of these words that is not none, in the order of the checks.
import Minimize.Termination.Check

namespace Minimize

/-! ## The first word -/

/-- A check that can end a run. -/
inductive Check where
  | abort
  | time
  | iterations
  | target
  | streak
  | budget (counter : String) (limit : Period)
  | solver

namespace Check

/-- The word of the first check that has one, or that slips. -/
def first (say : Check → Except Fault (Option Reason)) : List Check → Except Fault (Option Reason)
  | [] => .ok none
  | c :: rest =>
    match say c with
    | .ok none => first say rest
    | answer => answer

variable {say : Check → Except Fault (Option Reason)} {cs : List Check}

/-- There is no word exactly if every check is silent. -/
theorem first_eq_none : first say cs = .ok none ↔ ∀ c ∈ cs, say c = .ok none := by
  induction cs with
  | nil => simp [first]
  | cons c cs ih =>
    cases h : say c with
    | error f => simp [first, h]
    | ok word => cases word <;> simp [first, h, ih]

/-- The word is that of a check before which all are silent. -/
theorem first_eq_some {r : Reason} (h : first say cs = .ok (some r)) :
    ∃ before c after, cs = before ++ c :: after ∧ (∀ d ∈ before, say d = .ok none) ∧
      say c = .ok (some r) := by
  induction cs with
  | nil => cases h
  | cons c cs ih =>
    cases hc : say c with
    | error f =>
      simp only [first, hc] at h
      cases h
    | ok word =>
      cases word with
      | some r' =>
        simp only [first, hc] at h
        cases h
        exact ⟨[], c, cs, rfl, by simp, hc⟩
      | none =>
        simp only [first, hc] at h
        obtain ⟨before, d, after, rfl, hbefore, hd⟩ := ih h
        refine ⟨c :: before, d, after, rfl, ?_, hd⟩
        intro e he
        rcases List.mem_cons.mp he with rfl | h1
        · exact hc
        · exact hbefore e h1

end Check

/-! ## What each check says -/

/-- What is said of a criterion that holds or does not. -/
def Reason.ifHolds (r : Reason) : Except Slip Bool → Except Fault (Option Reason)
  | .error e => .error (.slip e)
  | .ok holds => .ok (if holds then some r else none)

theorem Reason.ifHolds_some {r r' : Reason} {x : Except Slip Bool}
    (h : r.ifHolds x = .ok (some r')) : x = .ok true ∧ r' = r := by
  cases x with
  | error e => cases h
  | ok holds =>
    cases holds with
    | false => cases h
    | true =>
      cases h
      exact ⟨rfl, rfl⟩

theorem Reason.ifHolds_none {r : Reason} {x : Except Slip Bool} :
    r.ifHolds x = .ok none ↔ x = .ok false := by
  cases x with
  | error e => simp [Reason.ifHolds]
  | ok holds => cases holds <;> simp [Reason.ifHolds]

variable {τ : Type}

/-- How much a counter of a state has counted. -/
def State.counted (s : State τ) (counter : String) : Int := (s.counts.get? counter).getD 0

variable [Span τ]

namespace Criteria

/-- The kinds of reasons that the criteria give. -/
def kinds : List ReasonKind :=
  [.aborted, .timeBudgetExceeded, .maxItersReached, .targetCostReached, .noImprovementStreak,
    .evaluationBudgetExceeded]

/-- The checks of the criteria in their order, and the solver last. -/
def checks (c : Criteria) : List Check :=
  .abort :: .time :: .iterations :: .target :: .streak ::
    (c.maxEvaluations.entries.map (fun e => .budget e.1 e.2) ++ [.solver])

/-- What a check says of a state, where `early` asks the solver. -/
def word (c : Criteria) (early : State τ → Except Fault (Option Reason)) (aborted : Bool)
    (s : State τ) : Check → Except Fault (Option Reason)
  | .abort => Reason.aborted.ifHolds (.ok aborted)
  | .time => Reason.timeBudgetExceeded.ifHolds (c.timeIsUp s.book.elapsed)
  | .iterations => Reason.maxItersReached.ifHolds (c.itersAreUp s.book.iteration)
  | .target => Reason.targetCostReached.ifHolds (c.targetIsMet s.book.bestCost)
  | .streak => match c.noImprovementThreshold with
    | some p => (Reason.noImprovementStreak p.count).ifHolds
        (.ok (decide (p.count ≤ s.book.noImprovementStreak)))
    | none => .ok none
  | .budget counter limit => (Reason.evaluationBudgetExceeded counter).ifHolds
      (.ok (decide (limit.count ≤ s.counted counter)))
  | .solver => early s

variable {c : Criteria} {early : State τ → Except Fault (Option Reason)} {aborted : Bool}
  {s : State τ}

/-- The budgets are held against their counters one after another, and then
the solver is asked. -/
theorem first_budgets (budgets : List (String × Period)) :
    Check.first (c.word early aborted s)
        (budgets.map (fun e => .budget e.1 e.2) ++ [.solver]) =
      match spentBudget? s.counts budgets with
      | .error e => .error (.slip e)
      | .ok (some r) => .ok (some r)
      | .ok none => early s := by
  induction budgets with
  | nil =>
    show (match early s with
      | .ok none => .ok none
      | answer => answer) = early s
    split
    · rename_i h
      exact h.symm
    · rfl
  | cons e rest ih =>
    have hreaches : Count.reaches ((s.counts.get? e.1).getD Count.zero) e.2.count =
      .ok (decide (e.2.count ≤ s.counted e.1)) := rfl
    unfold spentBudget?
    simp only [List.map_cons, List.cons_append, Check.first, word, ih, hreaches]
    by_cases h : e.2.count ≤ s.counted e.1
    · simp [h, Reason.ifHolds, bind, Except.bind, pure, Except.pure]
    · simp [h, Reason.ifHolds, bind, Except.bind]

/-- The check of the termination is the first word of the checks. -/
theorem checkTermination_eq (c : Criteria) (early : State τ → Except Fault (Option Reason))
    (aborted : Bool) (s : State τ) :
    checkTermination c (some early) aborted s =
      Check.first (c.word early aborted s) c.checks := by
  have hstreak : c.longStreak? s.book.noImprovementStreak =
      .ok (match c.noImprovementThreshold with
        | some p => if p.count ≤ s.book.noImprovementStreak then some (.noImprovementStreak p.count)
          else none
        | none => none) := by
    unfold longStreak?
    cases c.noImprovementThreshold with
    | none => rfl
    | some p =>
      show Except.map _ (.ok (decide (p.count ≤ s.book.noImprovementStreak))) = _
      by_cases h : p.count ≤ s.book.noImprovementStreak <;> simp [h, Except.map]
  unfold checkTermination firing checks
  simp only [Check.first, first_budgets, word, hstreak]
  -- one that holds or slips decides, and only after one that does not the next is asked
  rcases aborted with _ | _ <;> try rfl
  rcases c.timeIsUp s.book.elapsed with e | _ | _ <;> try rfl
  rcases c.itersAreUp s.book.iteration with e | _ | _ <;> try rfl
  rcases c.targetIsMet s.book.bestCost with e | _ | _ <;> try rfl
  cases c.noImprovementThreshold with
  | none => rcases spentBudget? s.counts c.maxEvaluations.entries with e | _ | _ <;> rfl
  | some p =>
    by_cases h : p.count ≤ s.book.noImprovementStreak
    · simp [h, Reason.ifHolds, bind, Except.bind, pure, Except.pure]
    · simp only [h, Reason.ifHolds, bind, Except.bind]
      rcases spentBudget? s.counts c.maxEvaluations.entries with e | _ | _ <;> rfl

/-! ## Words and their grounds -/

/-- Why a check gives a reason to end a run. -/
inductive Grounds (c : Criteria) (early : State τ → Except Fault (Option Reason)) (aborted : Bool)
    (s : State τ) : Check → Reason → Prop
  | abort (h : aborted = true) : Grounds c early aborted s .abort .aborted
  | time (h : c.timeIsUp s.book.elapsed = .ok true) :
      Grounds c early aborted s .time .timeBudgetExceeded
  | iterations {n : Nat} (hc : c.maxIters = some n) (h : n ≤ s.book.iteration) :
      Grounds c early aborted s .iterations .maxItersReached
  | target {t : Float} (hc : c.targetCost = some t)
      (h : s.book.bestCost.atMost (.float t) = .ok true) :
      Grounds c early aborted s .target .targetCostReached
  | streak {p : Period} (hc : c.noImprovementThreshold = some p)
      (h : p.count ≤ s.book.noImprovementStreak) :
      Grounds c early aborted s .streak (.noImprovementStreak p.count)
  | budget {counter : String} {limit : Period}
      (h : limit.count ≤ s.counted counter) :
      Grounds c early aborted s (.budget counter limit) (.evaluationBudgetExceeded counter)
  | solver {r : Reason} (h : early s = .ok (some r)) : Grounds c early aborted s .solver r

variable {check : Check} {r : Reason}

theorem grounds_of_word (h : c.word early aborted s check = .ok (some r)) :
    c.Grounds early aborted s check r := by
  cases check with
  | abort =>
    simp only [word] at h
    obtain ⟨ha, rfl⟩ := Reason.ifHolds_some h
    exact .abort (Except.ok.inj ha)
  | time =>
    simp only [word] at h
    obtain ⟨ht, rfl⟩ := Reason.ifHolds_some h
    exact .time ht
  | iterations =>
    simp only [word] at h
    obtain ⟨hi, rfl⟩ := Reason.ifHolds_some h
    unfold itersAreUp at hi
    split at hi
    · rename_i n hn
      exact .iterations hn (of_decide_eq_true (Except.ok.inj hi))
    · cases hi
  | target =>
    simp only [word] at h
    obtain ⟨ht, rfl⟩ := Reason.ifHolds_some h
    unfold targetIsMet at ht
    split at ht
    · rename_i t hc
      exact .target hc ht
    · cases ht
  | streak =>
    simp only [word] at h
    split at h
    · rename_i p hp
      obtain ⟨hs, rfl⟩ := Reason.ifHolds_some h
      exact .streak hp (of_decide_eq_true (Except.ok.inj hs))
    · cases h
  | budget counter limit =>
    simp only [word] at h
    obtain ⟨hb, rfl⟩ := Reason.ifHolds_some h
    exact .budget (of_decide_eq_true (Except.ok.inj hb))
  | solver => exact .solver h

/-- That a solver gives no reason of a kind that the criteria give. -/
def Unclaimed (early : State τ → Except Fault (Option Reason)) : Prop :=
  ∀ s r, early s = .ok (some r) → r.kind ∉ kinds

theorem Grounds.of_maxIters (h : c.Grounds early aborted s check r) (he : Unclaimed early)
    (hk : r.kind = .maxItersReached) : ∃ n : Nat, c.maxIters = some n ∧ n ≤ s.book.iteration := by
  cases h with
  | iterations hc hle => exact ⟨_, hc, hle⟩
  | solver hr => exact absurd (by simp [hk, kinds]) (he s r hr)
  | _ => cases hk

theorem Grounds.of_target (h : c.Grounds early aborted s check r) (he : Unclaimed early)
    (hk : r.kind = .targetCostReached) :
    ∃ t, c.targetCost = some t ∧ s.book.bestCost.atMost (.float t) = .ok true := by
  cases h with
  | target hc hmet => exact ⟨_, hc, hmet⟩
  | solver hr => exact absurd (by simp [hk, kinds]) (he s r hr)
  | _ => cases hk

theorem Grounds.of_streak (h : c.Grounds early aborted s check r) (he : Unclaimed early)
    (hk : r.kind = .noImprovementStreak) : ∃ p, c.noImprovementThreshold = some p ∧
      r.streak = some p.count ∧ p.count ≤ s.book.noImprovementStreak := by
  cases h with
  | streak hc hle => exact ⟨_, hc, rfl, hle⟩
  | solver hr => exact absurd (by simp [hk, kinds]) (he s r hr)
  | _ => cases hk

theorem Grounds.of_budget (h : c.Grounds early aborted s check r) (he : Unclaimed early)
    (hk : r.kind = .evaluationBudgetExceeded) : ∃ counter limit, check = .budget counter limit ∧
      r.text = some counter ∧ limit.count ≤ s.counted counter := by
  cases h with
  | budget hle => exact ⟨_, _, rfl, rfl, hle⟩
  | solver hr => exact absurd (by simp [hk, kinds]) (he s r hr)
  | _ => cases hk

/-- A state on which every check of the criteria is silent. -/
structure Quiet (c : Criteria) (s : State τ) : Prop where
  iterations : ∀ n, c.maxIters = some n → s.book.iteration < n
  target : ∀ t, c.targetCost = some t → s.book.bestCost.atMost (.float t) = .ok false
  streak : ∀ p, c.noImprovementThreshold = some p → s.book.noImprovementStreak < p.count
  budgets : ∀ e ∈ c.maxEvaluations.entries, s.counted e.1 < e.2.count

theorem budget_silent {counter : String} {limit : Period}
    (h : c.word early aborted s (.budget counter limit) = .ok none) :
    s.counted counter < limit.count := by
  simp only [word] at h
  have hbelow := of_decide_eq_false (Except.ok.inj (Reason.ifHolds_none.mp h))
  omega

theorem quiet_of_words (h : ∀ check ∈ c.checks, c.word early aborted s check = .ok none) :
    c.Quiet s where
  iterations n hn := by
    have hi := h .iterations (by simp [checks])
    simp only [word, itersAreUp, hn] at hi
    have hbelow := of_decide_eq_false (Except.ok.inj (Reason.ifHolds_none.mp hi))
    omega
  target t ht := by
    have hi := h .target (by simp [checks])
    simp only [word, targetIsMet, ht] at hi
    exact Reason.ifHolds_none.mp hi
  streak p hp := by
    have hi := h .streak (by simp [checks])
    simp only [word, hp] at hi
    have hbelow := of_decide_eq_false (Except.ok.inj (Reason.ifHolds_none.mp hi))
    omega
  budgets e he := by
    apply budget_silent
    apply h
    simp only [checks, List.mem_cons, List.mem_append, List.mem_map]
    exact .inr (.inr (.inr (.inr (.inr (.inl ⟨e, he, rfl⟩)))))

end Criteria

/-- The counter and the limit of a check that is a budget. -/
def Check.budget? : Check → Option (String × Period)
  | .budget counter limit => some (counter, limit)
  | _ => none

omit [Span τ] in
/-- The budgets among the checks are those of the criteria, in their order. -/
theorem Criteria.checks_budgets (c : Criteria) :
    c.checks.filterMap Check.budget? = c.maxEvaluations.entries := by
  have hbudgets (es : List (String × Period)) :
      (es.map fun e => Check.budget e.1 e.2).filterMap Check.budget? = es := by
    induction es with
    | nil => rfl
    | cons e es ih => simp [Check.budget?, ih]
  simp [checks, List.filterMap_cons, Check.budget?, hbudgets]

omit [Span τ] in
/-- Before a budget in the order of the checks, there are the budgets before it
in the criteria. -/
theorem Criteria.checks_before {c : Criteria} {before after : List Check} {counter : String}
    {limit : Period} (h : c.checks = before ++ .budget counter limit :: after) :
    ∃ es fs, c.maxEvaluations.entries = es ++ (counter, limit) :: fs ∧
      ∀ e ∈ es, .budget e.1 e.2 ∈ before := by
  refine ⟨before.filterMap Check.budget?, after.filterMap Check.budget?, ?_, ?_⟩
  · rw [← c.checks_budgets, h, List.filterMap_append]
    rfl
  · intro e he
    obtain ⟨d, hd, hbudget⟩ := List.mem_filterMap.mp he
    cases d <;> cases hbudget
    exact hd

end Minimize
