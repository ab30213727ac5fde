-- Costs that are no number. Such a cost has no place on the line and stands in
-- no relation to another: it never becomes the best one, unless it is the first,
-- and then no other cost becomes it. So it is only a first cost that can hide
-- the others, from the best point and from the target.
import Minimize.Proofs.Best
import Minimize.Proofs.Precision
import Minimize.Proofs.Stopping

namespace Minimize

open Number

/-! ## Numbers without a place -/

theorem single_unplaced {x : Float} (h : Place.ofFloat x = none) :
    Place.ofFloat (Number.single x) = none := by
  rw [place_single, h]
  rfl

/-- An element whose first part has no place. -/
def Cell.Unplaced : Cell → Prop
  | .single x => Place.ofFloat x = none
  | .double x => Place.ofFloat x = none
  | .complex x _ => Place.ofFloat x = none
  | .wideComplex x _ => Place.ofFloat x = none
  | _ => False

/-- An operand without a place. -/
inductive Operand.Unplaced : Operand → Prop
  | real {x : Float} (h : Place.ofFloat x = none) : Unplaced (.real x)
  | single {x : Float} (h : Place.ofFloat x = none) : Unplaced (.typed (.single x))
  | double {x : Float} (h : Place.ofFloat x = none) : Unplaced (.typed (.double x))

/-- A number without a place has none as an element of any type. -/
theorem Operand.Unplaced.cast {a : Operand} (h : a.Unplaced) {t : ElementType} {c : Cell}
    (hc : a.cast t = .ok c) : c.Unplaced := by
  cases h with
  | _ h =>
    have hs := single_unplaced h
    cases t <;> cases hc <;> assumption

theorem Operand.Unplaced.place {a : Operand} (h : a.Unplaced) {p : Option Place}
    (hp : Relation.place? a = some p) : p = none := by
  cases h with
  | real h => exact (Option.some.inj hp).symm.trans h
  | single _ => cases hp
  | double _ => cases hp

theorem Operand.Unplaced.parts {a : Operand} (h : a.Unplaced) {p : Float × Float}
    (hp : a.parts = .ok p) : Place.ofFloat p.1 = none := by
  cases h <;> cases hp <;> assumption

namespace Relation

variable {r : Relation}

theorem onFloats_unplaced {x y : Float} (h : Place.ofFloat x = none ∨ Place.ofFloat y = none) :
    r.onFloats x y = false := by
  unfold onFloats
  rcases h with h | h <;> rw [h]
  · cases r <;> cases Place.ofFloat y <;> rfl
  · cases r <;> cases Place.ofFloat x <;> rfl

theorem onComplex_unplaced {x y : Float × Float}
    (h : Place.ofFloat x.1 = none ∨ Place.ofFloat y.1 = none) : r.onComplex x y = false := by
  have hless : Number.less x.1 y.1 = false := onFloats_unplaced (r := .below) h
  have hequal : Relation.equal.onFloats x.1 y.1 = false := onFloats_unplaced h
  unfold onComplex
  cases r <;> simp [hless, hequal]

theorem onCells_unplaced {c d : Cell} (h : c.Unplaced ∨ d.Unplaced) : r.onCells c d = false := by
  unfold onCells
  split
  · exact (h.elim id id).elim
  · exact (h.elim id id).elim
  · exact onFloats_unplaced h
  · exact onFloats_unplaced h
  · exact onComplex_unplaced h
  · exact onComplex_unplaced h
  · rfl

theorem onPlain_unplaced {a b : Operand} (h : a.Unplaced ∨ b.Unplaced) {x : Bool}
    (hx : r.onPlain a b = .ok x) : x = false := by
  unfold onPlain at hx
  split at hx
  · rename_i p q hp hq
    cases hx
    rcases h with h | h
    · rw [h.place hp]
      cases r <;> cases q <;> rfl
    · rw [h.place hq]
      cases r <;> cases p <;> rfl
  · cases r with
    | equal =>
      obtain ⟨p, hp, hx⟩ := bind_ok hx
      obtain ⟨q, hq, hx⟩ := bind_ok hx
      cases hx
      exact onComplex_unplaced (h.imp (·.parts hp) (·.parts hq))
    | below => cases hx
    | atMost => cases hx

/-- A number without a place stands in no relation to another number. -/
theorem onOperands_unplaced {a b : Operand} (h : a.Unplaced ∨ b.Unplaced) {x : Bool}
    (hx : r.onOperands a b = .ok x) : x = false := by
  unfold onOperands at hx
  split at hx
  · exact onPlain_unplaced h hx
  · split at hx
    · rename_i hi hj
      rcases h with h | h
      · cases h <;> cases hi
      · cases h <;> cases hj
    · obtain ⟨c, hc, hx⟩ := bind_ok hx
      obtain ⟨d, hd, hx⟩ := bind_ok hx
      cases hx
      exact onCells_unplaced (h.imp (·.cast hc) (·.cast hd))

end Relation

namespace Value

/-- A number that has no place on the line. -/
def Unplaced (v : Value) : Prop := v.place? = some none

instance (v : Value) : Decidable v.Unplaced := inferInstanceAs (Decidable (_ = _))

theorem Unplaced.operand {v : Value} (h : v.Unplaced) : ∃ a, v.operand? = some a ∧ a.Unplaced := by
  unfold Unplaced at h
  cases v with
  | float x => exact ⟨_, rfl, .real (Option.some.inj h)⟩
  | cell c =>
    cases c with
    | single x => exact ⟨_, rfl, .single (Option.some.inj h)⟩
    | double x => exact ⟨_, rfl, .double (Option.some.inj h)⟩
    | _ => cases h
  | _ => cases h

theorem operand_of_place {v : Value} {p : Option Place} (h : v.place? = some p) :
    ∃ a, v.operand? = some a := by
  cases v with
  | cell c => cases c <;> first | exact ⟨_, rfl⟩ | cases h
  | _ => first | exact ⟨_, rfl⟩ | cases h

/-- Of two numbers neither is below the other if one has no place. -/
theorem less_unplaced {a b : Value} (ha : a.place?.isSome = true) (hb : b.place?.isSome = true)
    (h : a.Unplaced ∨ b.Unplaced) {x : Bool} (hx : a.less b = .ok x) : x = false := by
  obtain ⟨p, hp⟩ := Option.isSome_iff_exists.mp ha
  obtain ⟨q, hq⟩ := Option.isSome_iff_exists.mp hb
  obtain ⟨c, hc⟩ := operand_of_place hp
  obtain ⟨d, hd⟩ := operand_of_place hq
  rw [less_of_operands hc hd] at hx
  refine Relation.onOperands_unplaced (h.imp ?_ ?_) hx
  · intro h
    obtain ⟨c', hc', hu⟩ := h.operand
    cases hc.symm.trans hc'
    exact hu
  · intro h
    obtain ⟨d', hd', hu⟩ := h.operand
    cases hd.symm.trans hd'
    exact hu

theorem isRanked_of_placed {x : Float} (h : ¬ (Value.float x).Unplaced) :
    (Value.float x).isRanked = true := by
  show (Place.ofFloat x).isSome = true
  cases hx : Place.ofFloat x with
  | some p => rfl
  | none => exact absurd (congrArg some hx) h

theorem less_floats (x y : Float) : (Value.float x).less (.float y) = .ok (Number.less x y) := by
  rw [less_of_operands rfl rfl]
  rfl

theorem atMost_floats (x y : Float) :
    (Value.float x).atMost (.float y) = .ok (Number.atMost x y) := rfl

/-- What has no place is at no target. -/
theorem atMost_unplaced {a : Value} (h : a.Unplaced) (t : Float) :
    a.atMost (.float t) = .ok false := by
  obtain ⟨c, hc, hu⟩ := h.operand
  have hx : ∃ x, a.atMost (.float t) = .ok x := by
    unfold atMost
    rw [relates_of_operands hc rfl]
    cases hu <;> exact ⟨_, rfl⟩
  obtain ⟨x, hx⟩ := hx
  have hr := hx
  unfold atMost at hr
  rw [relates_of_operands hc rfl] at hr
  rw [hx, Relation.onOperands_unplaced (.inl hu) hr]

end Value

/-! ## The best of the numbers with a place -/

variable {τ : Type}

/-- The states of a history whose costs have a place, oldest first. -/
def placed (history : List (State τ)) : List (State τ) :=
  history.filter fun s => !decide s.cost.Unplaced

theorem placed_append (history : List (State τ)) {s : State τ} (h : ¬ s.cost.Unplaced) :
    placed (history ++ [s]) = placed history ++ [s] := by
  simp [placed, List.filter_append, h]

theorem placed_append_unplaced (history : List (State τ)) {s : State τ} (h : s.cost.Unplaced) :
    placed (history ++ [s]) = placed history := by
  simp [placed, List.filter_append, h]

theorem placed_subset {history : List (State τ)} {s t : State τ} (h : t ∈ placed history) :
    t ∈ placed (history ++ [s]) := by
  simp only [placed, List.filter_append]
  exact List.mem_append_left _ h

theorem Comparable.mono {history more : List (State τ)} (h : Comparable more)
    (hs : ∀ {t}, t ∈ history → t ∈ more) : Comparable history :=
  fun t ht u hu => h t (hs ht) u (hs hu)

/-- Bookkeeping that has the point of a state for the best. -/
structure Bookkeeping.Holds (b : Bookkeeping τ) (s : State τ) : Prop where
  cost : b.bestCost = s.cost
  param : b.bestParam = s.param
  iteration : b.lastBestIteration = s.book.iteration

/-- What the best point of a history is. If the first cost has no place, it is
the first point for good; otherwise it is that of the first least of all costs
that have a place. -/
structure Overlooks (history : List (State τ)) (b : Bookkeeping τ) : Prop where
  hasBest : b.hasBest = true
  hidden : ∀ first, history.head? = some first → first.cost.Unplaced → b.Holds first
  seen : ∀ first, history.head? = some first → ¬ first.cost.Unplaced →
    ∃ i s, Leads (placed history) i s ∧ b.Holds s

/-- The costs of states are numbers, some of which may have no place. -/
def Numeric (history : List (State τ)) : Prop := ∀ s ∈ history, s.cost.place?.isSome = true

theorem Numeric.mono {history more : List (State τ)} (h : Numeric more)
    (hs : ∀ {t}, t ∈ history → t ∈ more) : Numeric history := fun t ht => h t (hs ht)

theorem overlooks_opening {b b' : Bookkeeping τ} {s : State τ} {improved : Bool}
    (hb : b.hasBest = false) (hs : s.book = b')
    (hr : b.recorded s.param s.cost = .ok (b', improved)) : Overlooks [s] b' := by
  rw [Bookkeeping.recorded_first hb] at hr
  cases hr
  have hholds : (b.improved s.param s.cost).Holds s := ⟨rfl, rfl, by rw [hs]; rfl⟩
  refine ⟨rfl, ?_, ?_⟩
  · intro first hf _
    cases hf
    exact hholds
  · intro first hf hp
    cases hf
    refine ⟨0, s, ?_, hholds⟩
    have h := placed_append [] hp
    rw [List.nil_append] at h
    rw [h]
    exact leads_single s

section Step

variable {history : List (State τ)} {b b' : Bookkeeping τ} {s : State τ}

/-- A cost that the order puts below the best one becomes the best one. Then both
have a place. -/
theorem Overlooks.overtaken (h : Overlooks history b) (hne : history ≠ [])
    (hn : Numeric (history ++ [s])) (hc : Comparable (placed (history ++ [s])))
    (hless : s.cost.less b.bestCost = .ok true) (hbest : b'.hasBest = true) (hnew : b'.Holds s) :
    Overlooks (history ++ [s]) b' := by
  have hlast : s ∈ history ++ [s] := by simp
  have hbefore {t : State τ} (ht : t ∈ history) : t ∈ history ++ [s] := List.mem_append_left _ ht
  refine ⟨hbest, ?_, ?_⟩
  all_goals rw [List.head?_append_of_ne_nil _ hne]
  · intro first hf hu
    have hmem := hbefore (List.mem_of_head? hf)
    rw [(h.hidden first hf hu).cost] at hless
    cases Value.less_unplaced (hn s hlast) (hn first hmem) (.inr hu) hless
  · intro first hf hp
    obtain ⟨i, t, hlead, ht⟩ := h.seen first hf hp
    have htmem : t ∈ history := (List.mem_filter.mp hlead.mem).1
    rw [ht.cost] at hless
    have hplaced : ¬ s.cost.Unplaced := by
      intro hu
      cases Value.less_unplaced (hn s hlast) (hn t (hbefore htmem)) (.inl hu) hless
    rw [placed_append history hplaced] at hc ⊢
    obtain ⟨better, hbetter, hbelow⟩ :=
      (hc s (by simp) t (List.mem_append_left _ hlead.mem)).less
    have htrue : better = true := Except.ok.inj (hbetter.symm.trans hless)
    exact ⟨_, s, hlead.overtaken hc (hbelow.mp htrue), hnew⟩

/-- A cost that the order does not put below the best one leaves it, whether or
not it has a place. -/
theorem Overlooks.kept (h : Overlooks history b) (hne : history ≠ [])
    (hc : Comparable (placed (history ++ [s]))) (hless : s.cost.less b.bestCost = .ok false)
    (hbest : b'.hasBest = true) (hkept : ∀ t, b.Holds t → b'.Holds t) :
    Overlooks (history ++ [s]) b' := by
  refine ⟨hbest, ?_, ?_⟩
  all_goals rw [List.head?_append_of_ne_nil _ hne]
  · intro first hf hu
    exact hkept first (h.hidden first hf hu)
  · intro first hf hp
    obtain ⟨i, t, hlead, ht⟩ := h.seen first hf hp
    refine ⟨i, t, ?_, hkept t ht⟩
    by_cases hu : s.cost.Unplaced
    · rw [placed_append_unplaced history hu]
      exact hlead
    · rw [placed_append history hu] at hc ⊢
      rw [ht.cost] at hless
      obtain ⟨better, hbetter, hbelow⟩ :=
        (hc s (by simp) t (List.mem_append_left _ hlead.mem)).less
      have hfalse : better = false := Except.ok.inj (hbetter.symm.trans hless)
      refine hlead.kept fun hlt => ?_
      rw [hbelow.mpr hlt] at hfalse
      cases hfalse

/-- A step puts its own point for the best only if both costs have a place. -/
theorem Overlooks.step {b₁ : Bookkeeping τ} {improved : Bool} (h : Overlooks history b)
    (hne : history ≠ []) (hn : Numeric (history ++ [s]))
    (hc : Comparable (placed (history ++ [s])))
    (hb : b₁ = { b with iteration := b₁.iteration, elapsed := b₁.elapsed }) (hs : s.book = b')
    (hr : b₁.recorded s.param s.cost = .ok (b', improved)) : Overlooks (history ++ [s]) b' := by
  have hbest : b₁.hasBest = true := by rw [hb]; exact h.hasBest
  have hcost : b₁.bestCost = b.bestCost := by rw [hb]
  rcases Bookkeeping.recorded_cases hr with ⟨_, hless, hbook⟩ | ⟨_, _, hless, hbook⟩
  · have hnew : b'.Holds s := by
      rw [hbook]
      refine ⟨rfl, rfl, ?_⟩
      rw [hs, hbook]
      rfl
    exact h.overtaken hne hn hc (hcost ▸ hless hbest) (by rw [hbook]; rfl) hnew
  · have hkept (t : State τ) (ht : b.Holds t) : b'.Holds t := by
      rw [hbook, hb]
      exact ⟨ht.cost, ht.param, ht.iteration⟩
    exact h.kept hne hc (hcost ▸ hless) (by rw [hbook]; exact hbest) hkept

end Step

variable [Clock τ]

namespace Engine

variable {g₀ g u : Engine τ} {kind : CallKind} {past : List (State τ)}

/-- After every iteration of a run, the best point is that of the history. -/
theorem Course.overlooks (hx : g₀.executor.solver.OnlyJudges)
    (hbest : g₀.executor.solver.LeavesBest) (hn : g₀.stored = .ok none)
    (hb : g₀.executor.state.book.hasBest = false) (hc : g₀.Course past g)
    (hnum : Numeric (past ++ [g.executor.state]))
    (hcomp : Comparable (placed (past ++ [g.executor.state]))) :
    Overlooks (past ++ [g.executor.state]) g.executor.state.book := by
  induction hc with
  | start hs =>
    rw [start_fresh hn] at hs
    obtain ⟨elapsed, hr⟩ := iterate_book (g := g₀.begun.settled) hx hs
    rw [kept_of_leavesBest (g := g₀.begun.settled) hbest] at hr
    apply overlooks_opening _ rfl hr
    exact hb
  | step hc hr hi ih =>
    have hsolver := (hc.keeps hn).1
    obtain ⟨elapsed, hrec⟩ := iterate_book (hsolver ▸ hx) hi
    rw [kept_of_leavesBest (hsolver ▸ hbest)] at hrec
    have hearlier := ih (hnum.mono fun ht => List.mem_append_left _ ht) (hcomp.mono placed_subset)
    exact hearlier.step (by simp) hnum hcomp rfl rfl hrec

/-- Where a target is set, a cost at or below it terminates the state, if it can
be held against the target and the best cost. -/
theorem advance_at_target {v : Engine τ} {started : τ} (hx : v.executor.solver.OnlyJudges)
    (ha : v.advance kind started = .ok g) {t : Float}
    (ht : v.executor.settings.criteria.targetCost = some t) {w : Value}
    (hw : Value.SeenAs t w)
    (hcomp : Value.Commensurable [w, g.executor.state.cost, g.executor.state.book.bestCost])
    (hmet : g.executor.state.cost.atMost (.float t) = .ok true) :
    g.executor.state.terminated = true := by
  obtain ⟨elapsed, hrec⟩ := advance_book hx ha
  cases hopen : g.executor.state.terminated with
  | true => rfl
  | false =>
    have hquiet := (advance_quiet hx ha hopen).target t ht
    have habove := hcomp.below hw hquiet (Bookkeeping.recorded_stands hrec)
    obtain ⟨met, hheld, hnot⟩ :=
      (hcomp.placed (a := g.executor.state.cost) (b := w) (by simp) (by simp)).atMost
    rw [hcomp.seen hw (by simp), hheld, hnot.mpr habove] at hmet
    cases hmet

/-- Only a first cost that has no place hides the others, if the solver changes
neither the best points in place nor the state when it is asked. Whenever an iteration
of a run from fresh bookkeeping is completed: if the first cost has no place,
the first point is still the best one, and its cost is at no target; otherwise
the best point is that of the first least of all costs that have a place, and a
cost at or below the target ends the run. -/
theorem only_the_first_cost_hides_the_others (hx : g₀.executor.solver.OnlyJudges)
    (hleaves : g₀.executor.solver.LeavesBest) (hp : g₀.executor.phase = .created)
    (hn : g₀.stored = .ok none) (hb : g₀.executor.state.book.hasBest = false)
    (hc : g₀.ComesTo kind past u) (ha : u.advance kind g₀.world.clock = .ok g)
    (hnum : Numeric (past ++ [g.executor.state]))
    (hcomp : Comparable (placed (past ++ [g.executor.state]))) :
    ∃ first, (past ++ [g.executor.state]).head? = some first ∧
      (first.cost.Unplaced → g.executor.state.book.Holds first ∧
        ∀ t, g.executor.state.book.bestCost.atMost (.float t) = .ok false) ∧
      (¬ first.cost.Unplaced →
        (∃ i s, Leads (placed (past ++ [g.executor.state])) i s ∧
          g.executor.state.book.Holds s) ∧
        ∀ t w, g₀.executor.settings.criteria.targetCost = some t → Value.SeenAs t w →
          Value.Commensurable [w, g.executor.state.cost, g.executor.state.book.bestCost] →
          g.executor.state.cost.atMost (.float t) = .ok true →
          ∃ h o, g₀.run past.length = .ok (some (h, o)) ∧ o.state = g.executor.state) := by
  have hbest : Overlooks (past ++ [g.executor.state]) g.executor.state.book := by
    have hsolver := (hc.keeps hn).1
    obtain ⟨elapsed, hrec⟩ := advance_book (hsolver ▸ hx) ha
    rw [kept_of_leavesBest (hsolver ▸ hleaves)] at hrec
    cases hc with
    | opening _ =>
      apply overlooks_opening _ rfl hrec
      exact hb
    | step hc hr =>
      have hbefore := hc.overlooks hx hleaves hn hb (hnum.mono fun ht => List.mem_append_left _ ht)
        (hcomp.mono placed_subset)
      exact hbefore.step (by simp) hnum hcomp rfl rfl hrec
  obtain ⟨first, hfirst⟩ : ∃ first, (past ++ [g.executor.state]).head? = some first := by
    cases past with
    | nil => exact ⟨_, rfl⟩
    | cons s rest => exact ⟨_, rfl⟩
  refine ⟨first, hfirst, ?_, ?_⟩
  · intro hu
    have hholds := hbest.hidden first hfirst hu
    refine ⟨hholds, fun t => ?_⟩
    rw [hholds.cost]
    exact Value.atMost_unplaced hu t
  · intro hu
    refine ⟨hbest.seen first hfirst hu, ?_⟩
    intro t w ht hw hcomp hmet
    have ht' : u.executor.settings.criteria.targetCost = some t := by
      rw [(hc.keeps hn).2]
      exact ht
    exact run_of_terminated hp hc ha (advance_at_target ((hc.keeps hn).1 ▸ hx) ha ht' hw hcomp hmet)

/-! ## Runs that aim at a target -/

section

variable {m : Nat} {costs : List Value}

/-- An engine with a target of two and a limit of iterations, whose solver
replays costs. -/
def aiming (m : Nat) (costs : List Value) : Engine Float where
  executor := { (underLimit (Sample.sequence costs) m none none (.start 0)).executor with
    settings := ⟨{ Criteria.unset with
      maxIters := some m, targetCost := some (Number.ofInt 2) }, false, none⟩ }
  world := .start 0

def noNumber : Float := Number.ofDatum .notNumber

theorem noNumber_unplaced : (Value.float noNumber).Unplaced := rfl

theorem less_noNumber (x : Float) : (Value.float x).less (.float noNumber) = .ok false := by
  have h : Number.less x noNumber = false :=
    Relation.onFloats_unplaced (r := .below) (.inr (Option.some.inj noNumber_unplaced))
  rw [Value.less_floats, h]

theorem noNumber_less (x : Float) : (Value.float noNumber).less (.float x) = .ok false := by
  have h : Number.less noNumber x = false :=
    Relation.onFloats_unplaced (r := .below) (y := x) (.inl (Option.some.inj noNumber_unplaced))
  rw [Value.less_floats, h]

def aimed (m : Nat) (i : Int) (met : Bool) : Option Reason :=
  if m ≤ i then some .maxItersReached else if met then some .targetCostReached else none

theorem check_of_aim {s : State Float} {met : Bool}
    (h : s.book.bestCost.atMost (.float (Number.ofInt 2)) = .ok met) :
    checkTermination (aiming m costs).executor.settings.criteria (some Sample.goOn) false s =
      .ok (aimed m s.book.iteration met) := by
  have htarget : (aiming m costs).executor.settings.criteria.targetIsMet s.book.bestCost =
      .ok met := h
  have hlimit : (aiming m costs).executor.settings.criteria.itersAreUp s.book.iteration =
      .ok (decide (m ≤ s.book.iteration)) := rfl
  unfold checkTermination Criteria.firing aimed
  rw [htarget, hlimit]
  by_cases hi : m ≤ s.book.iteration
  · simp only [hi, decide_true, if_true]
    rfl
  · simp only [hi, decide_false, if_false]
    cases met <;> rfl

/-- An engine that a run of that one comes to. -/
structure Aims (m : Nat) (costs : List Value) (e : Engine Float) : Prop where
  solver : e.executor.solver = Sample.sequence costs
  settings : e.executor.settings = (aiming m costs).executor.settings
  signal : e.executor.signal = none
  saves : e.SavesGoOn e.executor.solver

theorem Aims.iterate {e : Engine Float} (h : e.Aims m costs) {kind : CallKind}
    {cost : Value} {better met : Bool} {x y : Float} (hrun : e.executor.state.status = .running)
    (hturn : Sample.nth costs (Sample.turn costs kind e.executor.state.book.iteration) = .ok cost)
    (hb : e.executor.state.book.betters cost = .ok better) (hcost : cost.toFloat = .ok x)
    (hbest : (if better then cost else e.executor.state.book.bestCost).toFloat = .ok y)
    (hmet : (if better then cost else e.executor.state.book.bestCost).atMost
      (.float (Number.ofInt 2)) = .ok met) :
    ∃ u e', e.advance kind 0 = .ok u ∧ e.iterate kind 0 = .ok e' ∧ e'.Aims m costs ∧
      e'.executor.state = u.executor.state ∧
      e'.Reaches (kind.target e.executor.state.book.iteration) cost
        (if better then cost else e.executor.state.book.bestCost)
        (aimed m (kind.target e.executor.state.book.iteration) met) := by
  have hquiet : e.aborted = false := not_aborted h.signal
  have hcheck (s : State Float)
      (hi : s.book.iteration = kind.target e.executor.state.book.iteration)
      (hs : s.book.bestCost = (if better then cost else e.executor.state.book.bestCost)) :
      checkTermination e.executor.settings.criteria (some e.executor.solver.terminateEarly)
        e.aborted s = .ok (aimed m (kind.target e.executor.state.book.iteration) met) := by
    rw [h.settings, h.solver, hquiet, ← hi]
    exact check_of_aim (hs ▸ hmet)
  have hjudges : e.executor.solver.OnlyJudges := by
    rw [h.solver]
    exact fun _ => rfl
  obtain ⟨u, hu, _, _, hreaches⟩ :=
    advance_of_call hjudges (movesTo_of_sequence h.solver hturn) hrun hb hcost hbest hcheck 0
  obtain ⟨e', he', hstands, _, hgo⟩ := h.saves.iterate hu
  have hkeeps := iterate_keeps kind 0 e
  rw [he'] at hkeeps
  refine ⟨u, e', hu, he', ⟨hkeeps.solver.trans h.solver, hkeeps.settings.trans h.settings,
    hkeeps.signal.trans h.signal, hgo⟩, hstands.state, hreaches.stands hstands⟩

theorem aiming_comes {a b c : Float} {third met : Bool} (hm : 1 < m)
    (habove : (Value.float a).atMost (.float (Number.ofInt 2)) = .ok false)
    (hsecond : (Value.float b).less (.float a) = .ok false)
    (hthird : (Value.float c).less (.float a) = .ok third)
    (hmet : (if third then Value.float c else .float a).atMost (.float (Number.ofInt 2)) =
      .ok met) :
    ∃ e₀ e₁ u e₂ : Engine Float,
      (aiming m [.float a, .float b, .float c]).Course [e₀.executor.state] e₁ ∧
      e₁.advance .step 0 = .ok u ∧
      (aiming m [.float a, .float b, .float c]).Course [e₀.executor.state, e₁.executor.state] e₂ ∧
      e₂.SavesGoOn e₂.executor.solver ∧ e₂.executor.state = u.executor.state ∧
      e₀.Reaches 0 (.float a) (.float a) none ∧ e₁.Reaches 1 (.float b) (.float a) none ∧
      e₂.Reaches 2 (.float c) (if third then .float c else .float a) (aimed m 2 met) := by
  have hopen (i : Int) (hi : i < m) : aimed m i false = none := by
    unfold aimed
    rw [if_neg (by omega)]
    rfl
  have h : (aiming m [.float a, .float b, .float c]).begun.settled.Aims m
      [.float a, .float b, .float c] := ⟨rfl, rfl, rfl, fun _ hp => nomatch hp⟩
  -- the first cost is the best one whatever it is
  have hbegun : (aiming m [.float a, .float b, .float c]).begun.settled.executor.state.book.betters
      (.float a) = .ok true := rfl
  have hturn₀ : Sample.nth [.float a, .float b, .float c]
      (Sample.turn [.float a, .float b, .float c] .opening
        (aiming m [.float a, .float b, .float c]).begun.settled.executor.state.book.iteration) =
      .ok (.float a) := rfl
  obtain ⟨_, e₀, _, hi₀, ha₀, _, hr₀⟩ := h.iterate rfl hturn₀ hbegun rfl rfl habove
  have hzero : e₀.Reaches 0 (.float a) (.float a) none := by
    rw [← hopen 0 (by omega)]
    exact hr₀
  have hturn₁ : Sample.nth [.float a, .float b, .float c] (Sample.turn [.float a, .float b, .float c]
      .step e₀.executor.state.book.iteration) = .ok (.float b) := by
    rw [hzero.iteration]
    rfl
  obtain ⟨_, e₁, _, hi₁, ha₁, _, hr₁⟩ := ha₀.iterate hzero.status hturn₁ (hzero.betters hsecond) rfl
    (by rw [hzero.best]; rfl) (by rw [hzero.best]; exact habove)
  have hone : e₁.Reaches 1 (.float b) (.float a) none := by
    rw [hzero.best, hzero.iteration] at hr₁
    rw [← hopen 1 (by omega)]
    exact hr₁
  have hturn₂ : Sample.nth [.float a, .float b, .float c] (Sample.turn [.float a, .float b, .float c]
      .step e₁.executor.state.book.iteration) = .ok (.float c) := by
    rw [hone.iteration]
    rfl
  have hbest : (if third then Value.float c else e₁.executor.state.book.bestCost).toFloat =
      .ok (if third then c else a) := by
    rw [hone.best]
    cases third <;> rfl
  obtain ⟨u, e₂, hu, hi₂, ha₂, hstate, hr₂⟩ := ha₁.iterate hone.status hturn₂
    (hone.betters hthird) rfl hbest (by rw [hone.best]; exact hmet)
  rw [hone.best, hone.iteration] at hr₂
  have hfirst := Course.step (.start ((start_fresh rfl _).trans hi₀))
    (State.not_terminated_iff.mpr hzero.status) hi₁
  exact ⟨e₀, e₁, u, e₂, hfirst, hu, hfirst.step (State.not_terminated_iff.mpr hone.status) hi₂,
    ha₂.saves, hstate, hzero, hone, hr₂⟩

end

/-- The law where the second of three costs has no place: the third is the best
one, and the run ends at the target. -/
theorem a_later_cost_without_a_place_hides_nothing :
    ∃ past u g h o s, ComesTo (aiming 5 [.float (Number.ofInt 3), .float noNumber,
        .float (Number.ofInt 1)]) .step past u ∧ u.advance .step 0 = .ok g ∧
      past.length = 2 ∧ past[1]? = some s ∧ s.cost.Unplaced ∧
      (∃ i t, Leads (placed (past ++ [g.executor.state])) i t ∧
        g.executor.state.book.Holds t) ∧
      g.executor.state.cost = .float (Number.ofInt 1) ∧
      (aiming 5 [.float (Number.ofInt 3), .float noNumber, .float (Number.ofInt 1)]).run 2 =
        .ok (some (h, o)) ∧ o.state = g.executor.state := by
  have habove : (Value.float (Number.ofInt 3)).atMost (.float (Number.ofInt 2)) = .ok false := by
    rw [Value.atMost_floats, Number.atMost_whole (by decide) (by decide)]
    rfl
  have hbelow : (Value.float (Number.ofInt 1)).less (.float (Number.ofInt 3)) = .ok true := by
    rw [Value.less_floats, Number.less_whole (by decide) (by decide)]
    rfl
  have hmet : (Value.float (Number.ofInt 1)).atMost (.float (Number.ofInt 2)) = .ok true := by
    rw [Value.atMost_floats, Number.atMost_whole (by decide) (by decide)]
    rfl
  obtain ⟨e₀, e₁, u, e₂, hc, hu, _, _, hstate, hr₀, hr₁, hr₂⟩ :=
    aiming_comes (m := 5) (by omega) habove (noNumber_less _) hbelow hmet
  have hcost := hr₂.cost
  have hbest := hr₂.best
  rw [hstate] at hcost hbest
  -- of the costs, the first and the last have a place
  have hhistory : ∀ s ∈ [e₀.executor.state] ++ [e₁.executor.state] ++ [u.executor.state],
      ∃ x, s.cost = .float x := by
    intro s hs
    simp only [List.cons_append, List.nil_append, List.mem_cons, List.not_mem_nil,
      or_false] at hs
    rcases hs with rfl | rfl | rfl
    · exact ⟨_, hr₀.cost⟩
    · exact ⟨_, hr₁.cost⟩
    · exact ⟨_, hcost⟩
  have hnumeric : Numeric ([e₀.executor.state] ++ [e₁.executor.state] ++ [u.executor.state]) := by
    intro s hs
    obtain ⟨x, hx⟩ := hhistory s hs
    rw [hx]
    rfl
  have hranked : Comparable
      (placed ([e₀.executor.state] ++ [e₁.executor.state] ++ [u.executor.state])) := by
    apply Value.Commensurable.comparable
    apply Value.Commensurable.plain
    intro v hv
    obtain ⟨s, hs, rfl⟩ := List.mem_map.mp hv
    obtain ⟨hs, hp⟩ := List.mem_filter.mp hs
    obtain ⟨x, hx⟩ := hhistory s hs
    rw [hx] at hp ⊢
    exact Value.isRanked_of_placed (by simpa using hp)
  obtain ⟨first, hfirst, _, hseen⟩ :=
    only_the_first_cost_hides_the_others (fun _ => rfl) (sequence_leavesBest _) rfl rfl rfl
      (.step hc (State.not_terminated_iff.mpr hr₁.status)) hu hnumeric hranked
  cases hfirst
  rw [hr₀.cost] at hseen
  obtain ⟨hleads, htarget⟩ := hseen (by decide)
  have hpair : Value.Commensurable [.float (Number.ofInt 2), u.executor.state.cost,
      u.executor.state.book.bestCost] := by
    rw [hcost, hbest]
    apply Value.Commensurable.plain
    intro v hv
    simp only [if_true, List.mem_cons, List.not_mem_nil, or_false] at hv
    rcases hv with rfl | rfl | rfl <;> rfl
  obtain ⟨h, o, hrun, ho⟩ := htarget _ _ rfl .itself hpair (by rw [hcost]; exact hmet)
  refine ⟨_, e₁, u, h, o, e₁.executor.state, .step hc (State.not_terminated_iff.mpr hr₁.status),
    hu, rfl, rfl, ?_, hleads, hcost, hrun, ho⟩
  rw [hr₁.cost]
  exact noNumber_unplaced

/-- A first cost that has no place hides the others: the run goes on although a
cost is below the target, and ends at its limit with a best cost that is no
number. -/
theorem a_first_cost_without_a_place_hides_the_others :
    ∃ past h o s, (aiming 2 [.float noNumber, .float (Number.ofInt 1),
        .float (Number.ofQuotient false 1 2)]).run 2 = .ok (some (h, o)) ∧
      o.error = none ∧ o.reason? = some .maxItersReached ∧ o.iterations = 2 ∧
      (∃ g, Course (aiming 2 [.float noNumber, .float (Number.ofInt 1),
        .float (Number.ofQuotient false 1 2)]) past g ∧ g.executor.state = o.state) ∧
      past[1]? = some s ∧ s.cost = .float (Number.ofInt 1) ∧
      s.cost.atMost (.float (Number.ofInt 2)) = .ok true ∧
      o.state.book.bestCost.Unplaced := by
  have hnone : (Value.float noNumber).atMost (.float (Number.ofInt 2)) = .ok false :=
    Value.atMost_unplaced noNumber_unplaced _
  have hmet : (Value.float (Number.ofInt 1)).atMost (.float (Number.ofInt 2)) = .ok true := by
    rw [Value.atMost_floats, Number.atMost_whole (by decide) (by decide)]
    rfl
  obtain ⟨e₀, e₁, u, e₂, _, _, hc, hgo, _, _, hr₁, hr₂⟩ :=
    aiming_comes (m := 2) (by omega) hnone (less_noNumber _) (less_noNumber _) hnone
  obtain ⟨d, hd, hstands, _, _⟩ := hgo.save true
  have hrun := run_of_course rfl hc 0
  rw [onward_terminated _ _ (State.terminated_of_reason hr₂.status), hd] at hrun
  refine ⟨_, _, _, e₁.executor.state, hrun, rfl, ?_, ?_, ⟨e₂, hc, hstands.state.symm⟩, rfl,
    hr₁.cost, ?_, ?_⟩
  · exact congrArg Status.reason ((congrArg State.status hstands.state).trans hr₂.status)
  · exact (congrArg (fun s => s.book.iteration) hstands.state).trans hr₂.iteration
  · rw [hr₁.cost]
    exact hmet
  · show d.executor.state.book.bestCost.Unplaced
    rw [hstands.state, hr₂.best]
    exact noNumber_unplaced

end Engine

end Minimize
