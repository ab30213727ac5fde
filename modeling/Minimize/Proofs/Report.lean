-- What the summary of an outcome consists of. All of it can be written as JSON but
-- for the best point: an array, a text or a number comes out plain, but the items
-- of a sequence are taken over as they are, and a complex number out of a typed
-- array stays one.
import Minimize.Outcome
import Minimize.Proofs.Replay

namespace Minimize

namespace Value

/-! ## Values that can be written as JSON -/

mutual

/-- Whether a value consists of nothing but null, truth values, numbers, texts,
lists, and dictionaries with texts for keys. -/
def isJson : Value → Bool
  | .null => true
  | .bool _ => true
  | .int _ => true
  | .float _ => true
  | .text _ => true
  | .list vs => areJson vs
  | .dict es => areJsonEntries es
  | _ => false

def areJson : List Value → Bool
  | [] => true
  | v :: vs => isJson v && areJson vs

def areJsonEntries : List (Value × Value) → Bool
  | [] => true
  | (k, v) :: es => (match k with
      | .text _ => true
      | _ => false) && isJson v && areJsonEntries es

end

theorem areJson_eq (vs : List Value) : areJson vs = vs.all isJson := by
  induction vs with
  | nil => rfl
  | cons v vs ih => rw [areJson, ih, List.all_cons]

theorem isJson_dict {α : Type} (es : List α) (name : α → String) (value : α → Value) :
    (Value.dict (es.map fun e => (.text (name e), value e))).isJson =
      es.all fun e => (value e).isJson := by
  rw [isJson]
  induction es with
  | nil => rfl
  | cons e es ih => rw [List.map_cons, areJsonEntries, ih, List.all_cons, Bool.true_and]

/-! ## Plain forms -/

mutual

/-- An array comes out as lists of numbers, however many axes it has. -/
theorem isJson_toValue : (t : Tensor) → t.toValue.isJson = true
  | .number x => rfl
  | .row ts => by
    rw [Tensor.toValue, isJson]
    exact areJson_toValues ts

theorem areJson_toValues : (ts : List Tensor) → areJson (Tensor.toValues ts) = true
  | [] => rfl
  | t :: ts => by
    rw [Tensor.toValues, areJson, isJson_toValue t, areJson_toValues ts]
    rfl

end

/-- Whether a value comes out plain. The items of a sequence have to be so already. -/
def turnsPlain : Value → Bool
  | .list vs => vs.all isJson
  | .tuple vs => vs.all isJson
  | .cell (.complex ..) => false
  | .cell (.wideComplex ..) => false
  | _ => true

theorem isJson_plainForm (v : Value) : v.plainForm.isJson = v.turnsPlain := by
  cases v with
  | list vs => exact areJson_eq vs
  | tuple vs => exact areJson_eq vs
  | array t => exact isJson_toValue t
  | cell c => cases c <;> rfl
  | _ => rfl

end Value

/-! ## Summaries -/

namespace Outcome

variable {o : Outcome Float}

theorem isJson_optionText (s : Option String) : (optionText s).isJson = true := by
  cases s <;> rfl

theorem isJson_counts (counts : Table Int) : (countsValue counts).isJson = true := by
  unfold countsValue
  rw [Value.isJson_dict]
  exact List.all_eq_true.mpr fun _ _ => rfl

theorem isJson_texts (fs : List Fault) :
    (Value.list (fs.map fun f => .text f.message)).isJson = true := by
  rw [Value.isJson, Value.areJson_eq, List.all_map]
  exact List.all_eq_true.mpr fun _ _ => rfl

/-- What stands in a summary, if the best cost is a number in the range of floating
point; if it is not, there is none. -/
theorem summary_cases (o : Outcome Float) :
    (∀ e, o.bestCost.toFloat = .error e → o.summary = .error e) ∧
    ∀ x, o.bestCost.toFloat = .ok x → ∃ entries, o.summary = .ok entries ∧
      (∀ e ∈ entries, e.1 ≠ "best_param" → e.2.isJson = true) ∧
      (Value.dict (entries.map fun e => (.text e.1, e.2))).isJson = o.bestParam.turnsPlain := by
  constructor
  · intro e he
    unfold summary
    rw [he]
    rfl
  · intro x hx
    have hsome : ∃ entries, o.summary = .ok entries := by
      unfold summary
      rw [hx]
      exact ⟨_, rfl⟩
    obtain ⟨entries, hsummary⟩ := hsome
    refine ⟨entries, hsummary, ?_⟩
    unfold summary at hsummary
    rw [hx] at hsummary
    obtain rfl := Except.ok.inj hsummary
    have hpoint := Value.isJson_plainForm o.bestParam
    constructor
    · intro e he hname
      simp only [List.mem_cons, List.not_mem_nil, or_false] at he
      rcases he with rfl | rfl | rfl | rfl | rfl | rfl | rfl | rfl | rfl | rfl | rfl | rfl
      · rfl
      · rfl
      · exact absurd rfl hname
      · rfl
      · rfl
      · rfl
      · exact isJson_optionText _
      · exact isJson_optionText _
      · rfl
      · exact isJson_counts _
      · exact isJson_optionText _
      · exact isJson_texts _
    · rw [Value.isJson_dict]
      simp only [List.all_cons, List.all_nil, isJson_optionText, isJson_counts, isJson_texts,
        hpoint, Bool.true_and, Bool.and_true]
      exact Bool.and_true _

end Outcome

/-! ## Summaries of runs -/

/-- A state of which a record can be made has a best cost that is a number. -/
theorem State.best_of_summary {s : State Float} {r : Record} (h : s.summary = .ok r) :
    ∃ x, s.book.bestCost.toFloat = .ok x := by
  obtain ⟨_, -, h⟩ := bind_ok h
  obtain ⟨best, hbest, -⟩ := bind_ok h
  cases hx : s.book.bestCost.toFloat with
  | ok x => exact ⟨x, rfl⟩
  | error e =>
    rw [hx] at hbest
    cases hbest

namespace Engine

variable {g₀ g v : Engine Float} {kind : CallKind} {limit : Nat} {h : Engine Float}
  {o : Outcome Float}

theorem iterate_best {started : Float} (hi : v.iterate kind started = .ok g) :
    ∃ x, g.executor.state.book.bestCost.toFloat = .ok x := by
  obtain ⟨u, ha, hstands, -⟩ := iterate_ok hi
  obtain ⟨_, _, w, -, -, hc⟩ := advance_ok ha
  obtain ⟨standard, hsummary, hexecutor⟩ := complete_ok hc
  rw [hstands.state, hexecutor]
  exact State.best_of_summary hsummary

/-- The summary of a run can be written as JSON if its best point turns plain, and
the point is all that can be in the way. There is a summary where the best cost is
a number, as it is if the run started from nothing and ended without an error. -/
theorem a_summary_is_as_plain_as_its_point (hp : g₀.executor.phase = .created)
    (hr : g₀.run limit = .ok (some (h, o))) :
    (g₀.stored = .ok none → o.error = none → ∃ x, o.bestCost.toFloat = .ok x) ∧
    (∀ e, o.bestCost.toFloat = .error e → o.summary = .error e) ∧
    ∀ x, o.bestCost.toFloat = .ok x → ∃ entries, o.summary = .ok entries ∧
      (∀ e ∈ entries, e.1 ≠ "best_param" → e.2.isJson = true) ∧
      (Value.dict (entries.map fun e => (.text e.1, e.2))).isJson = o.bestParam.turnsPlain := by
  refine ⟨fun hn he => ?_, o.summary_cases⟩
  obtain ⟨past, g, g', hc, -, -, -, hstate⟩ := run_over hp hr he
  obtain ⟨kind, v, -, hi⟩ := hc.comes hn
  have hlast : o.state = g.executor.state := hstate
  unfold Outcome.bestCost
  rw [hlast]
  exact iterate_best hi

/-! ## A point that is found at once -/

/-- A solver that has its point from the opening on. -/
def finder (param : Value) : Solver Float where
  typeName := "Finder"
  name? := none
  newState := .point
  opening s := .ok { s.movedTo param with cost := .float (Number.ofInt 1) } none
  step s := .ok s none
  terminateEarly := Sample.goOn
  unserializable := none

def finding (param : Value) : Engine Float := underLimit (finder param) 0 none none (.start 0)

theorem finding_opens (param : Value) : ∃ v, (finding param).Course [] v ∧
    v.SavesGoOn v.executor.solver ∧ v.executor.state.status = ⟨some .maxItersReached⟩ ∧
    v.executor.state.book.bestParam = param ∧
    v.executor.state.book.bestCost = .float (Number.ofInt 1) := by
  have htake : ∃ u, ((finding param).begun.settled.enter .opening).take .opening 0 =
        .ok (u, none) ∧ u.executor.state.status = .running ∧
      u.executor.state.cost = .float (Number.ofInt 1) ∧
      u.executor.state.book.bestParam = param ∧
      u.executor.state.book.bestCost = .float (Number.ofInt 1) ∧
      checkTermination u.executor.settings.criteria (some u.executor.solver.terminateEarly)
        u.aborted u.executor.state = .ok (some .maxItersReached) :=
    ⟨_, rfl, rfl, rfl, rfl, rfl, check_of_limit 0 false _⟩
  obtain ⟨u, hu, hrunning, hcost, hparam, hbest, hcheck⟩ := htake
  have hsome : ∃ standard, u.executor.state.summary = .ok standard := by
    apply State.summary_ok
    · rw [hcost]
      rfl
    · rw [hbest]
      rfl
    · rfl
  obtain ⟨standard, hsummary⟩ := hsome
  obtain ⟨v, hv, hexecutor⟩ := advance_of_take (fun _ => rfl) hu hrunning hcheck hsummary
  have hs : (finding param).begun.settled.SavesGoOn (finder param) := fun _ hp => nomatch hp
  obtain ⟨g, hg, hstands, -, hgo⟩ := hs.iterate hv
  refine ⟨g, .start ((start_fresh rfl _).trans hg), hgo, ?_⟩
  rw [hstands.state, hexecutor]
  exact ⟨rfl, hparam, hbest⟩

theorem finding_ends (param : Value) : ∃ h o, (finding param).run 0 = .ok (some (h, o)) ∧
    o.error = none ∧ o.bestParam = param ∧ o.bestCost = .float (Number.ofInt 1) := by
  obtain ⟨g, hc, hgo, hstatus, hparam, hbest⟩ := finding_opens param
  obtain ⟨d, hd, hstands, -, -⟩ := hgo.save true
  have hrun := run_of_course rfl hc 0
  rw [onward_terminated _ _ (State.terminated_of_reason hstatus), hd] at hrun
  refine ⟨_, _, hrun, rfl, ?_, ?_⟩
  · exact (congrArg (fun s => s.book.bestParam) hstands.state).trans hparam
  · exact (congrArg (fun s => s.book.bestCost) hstands.state).trans hbest

def pair : Value := .array (.row [.number (Number.ofInt 1), .number (Number.ofInt 2)])

/-- An array as the best point stands in the summary as a list of numbers. -/
theorem the_summary_of_an_array_is_plain : ∃ h o entries,
    (finding pair).run 0 = .ok (some (h, o)) ∧ o.bestParam = pair ∧
      o.summary = .ok entries ∧
      (Value.dict (entries.map fun e => (.text e.1, e.2))).isJson = true := by
  obtain ⟨h, o, hrun, he, hparam, hbest⟩ := finding_ends pair
  obtain ⟨hnumber, -, hplain⟩ := a_summary_is_as_plain_as_its_point rfl hrun
  obtain ⟨x, hx⟩ := hnumber rfl he
  obtain ⟨entries, hsummary, -, hjson⟩ := hplain x hx
  refine ⟨h, o, entries, hrun, hparam, hsummary, ?_⟩
  rw [hjson, hparam]
  rfl

/-- An array in a list stays one: such a summary cannot be written. -/
theorem an_array_in_a_list_stays_one : ∃ h o entries,
    (finding (.list [pair])).run 0 = .ok (some (h, o)) ∧ o.error = none ∧
      o.summary = .ok entries ∧
      (Value.dict (entries.map fun e => (.text e.1, e.2))).isJson = false := by
  obtain ⟨h, o, hrun, he, hparam, hbest⟩ := finding_ends (.list [pair])
  obtain ⟨entries, hsummary, -, hjson⟩ := o.summary_cases.2 (Number.ofInt 1) (by rw [hbest]; rfl)
  refine ⟨h, o, entries, hrun, he, hsummary, ?_⟩
  rw [hjson, hparam]
  rfl

end Engine

end Minimize
