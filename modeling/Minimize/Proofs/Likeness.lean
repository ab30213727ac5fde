-- States that a solver cannot tell apart: they agree in every field, and the
-- same fields hold the same value, under whatever marks. A state that was
-- stored and loaded again is such a state. A solver that hides nothing does
-- the same on states that it cannot tell apart, and changes nothing in place
-- that belongs to the problem; all that it goes by stands in the state.
import Minimize.Executor.Step

namespace Minimize

/-! ## Tables -/

namespace Table

variable {α β : Type}

theorem get?_erase (t : Table α) (k k' : String) :
    (t.erase k).get? k' = if k' = k then none else t.get? k' := by
  unfold get? erase
  dsimp only
  induction t.entries with
  | nil => simp
  | cons e es ih =>
    by_cases hk : e.1 = k
    · rw [List.filter_cons_of_neg (by simp [hk]), ih]
      by_cases h : k' = k
      · simp [h]
      · simp [h, hk, Ne.symm h]
    · rw [List.filter_cons_of_pos (by simp [hk])]
      by_cases he : e.1 = k'
      · simp [he, he ▸ hk]
      · simp only [List.find?_cons, he, decide_false, ih]

theorem get?_map (t : Table α) (f : α → β) (k : String) : (t.map f).get? k = (t.get? k).map f := by
  unfold get? map
  simp only [List.find?_map, Option.map_map, Function.comp_def]

theorem get?_insert_self (t : Table α) (k : String) (v : α) : (t.insert k v).get? k = some v := by
  unfold get? insert
  dsimp only
  induction t.entries with
  | nil => simp [put]
  | cons e es ih =>
    obtain ⟨k', v'⟩ := e
    by_cases h : k' = k
    · simp [put, h]
    · simp only [put, h, if_false, List.find?_cons, decide_false]
      exact ih

theorem get?_insert_ne (t : Table α) (v : α) {k k' : String} (hk : k' ≠ k) :
    (t.insert k v).get? k' = t.get? k' := by
  unfold get? insert
  dsimp only
  induction t.entries with
  | nil => simp [put, Ne.symm hk]
  | cons e es ih =>
    obtain ⟨k'', v''⟩ := e
    by_cases h : k'' = k
    · simp [put, h, Ne.symm hk]
    · by_cases h' : k'' = k'
      · simp [put, h', hk]
      · simp only [put, h, if_false, List.find?_cons, h', decide_false]
        exact ih

theorem erase_insert (t : Table α) (k : String) (v : α) : (t.insert k v).erase k = t.erase k := by
  apply ext
  unfold erase insert
  dsimp only
  induction t.entries with
  | nil => simp [put]
  | cons e es ih =>
    obtain ⟨k', v'⟩ := e
    by_cases h : k' = k
    · simp [put, h]
    · simp only [put, h, if_false]
      rw [List.filter_cons_of_pos (by simp [h]), List.filter_cons_of_pos (by simp [h]), ih]

end Table

/-- A record without some of its entries. -/
def Record.without (r : Record) (names : List String) : Record := names.foldl Table.erase r

variable {τ : Type}

/-! ## What a state tells -/

/-- An individual without its mark. -/
def Individual.unmarked (i : Individual) : Individual := { i with mark? := none }

/-- What a state tells, without some entries of its record: its fields, but
not which of them are the same value. -/
def State.told (names : List String) (s : State τ) : State τ :=
  { s with
    record := s.record.without names
    shape := s.shape.mapMembers (·.unmarked)
    sharing := .none }

/-- A place in a state that may hold a value in common with others. -/
inductive Spot where
  | field (name : String)
  | member (index : Nat)
  deriving DecidableEq

namespace State

/-- The mark of the value at a place. -/
def markAt? (s : State τ) : Spot → Option Mark
  | .field name => s.sharing.mark? name
  | .member i => ((s.shape.members?.getD [])[i]?.bind (·.mark?)).map .numbered

/-- Whether two places hold the same value. -/
def InCommon (s : State τ) (p q : Spot) : Prop := ∃ m, s.markAt? p = some m ∧ s.markAt? q = some m

/-- A state whose next number is free. -/
def Tidy (s : State τ) : Prop := ∀ p n, s.markAt? p = some (.numbered n) → n < s.sharing.next

/-- States that no solver can tell apart, if it does not look at some entries
of the record. -/
structure Alike (names : List String) (s t : State τ) : Prop where
  told : s.told names = t.told names
  common : ∀ p q, s.InCommon p q ↔ t.InCommon p q
  tidy : s.Tidy ∧ t.Tidy

variable {names : List String} {s t u s' t' : State τ}

theorem Alike.refl (h : s.Tidy) : s.Alike names s := ⟨rfl, fun _ _ => Iff.rfl, h, h⟩

theorem Alike.symm (h : s.Alike names t) : t.Alike names s :=
  ⟨h.told.symm, fun p q => (h.common p q).symm, h.tidy.2, h.tidy.1⟩

theorem Alike.trans (h : s.Alike names t) (h' : t.Alike names u) : s.Alike names u :=
  ⟨h.told.trans h'.told, fun p q => (h.common p q).trans (h'.common p q), h.tidy.1, h'.tidy.2⟩

section

variable (h : s.Alike names t)
include h

/-- What a state tells is the same of both. -/
theorem Alike.same {α : Type} (f : State τ → α) (hf : ∀ s : State τ, f (s.told names) = f s) :
    f s = f t := by
  rw [← hf s, h.told, hf]

theorem Alike.param : s.param = t.param := h.same State.param fun _ => rfl

theorem Alike.cost : s.cost = t.cost := h.same State.cost fun _ => rfl

theorem Alike.book : s.book = t.book := h.same State.book fun _ => rfl

theorem Alike.counts : s.counts = t.counts := h.same State.counts fun _ => rfl

theorem Alike.terminated : s.terminated = t.terminated := h.same State.terminated fun _ => rfl

end

theorem Alike.changed (h : s.Alike names t) (hs : s'.shape = s.shape ∧ s'.sharing = s.sharing)
    (ht : t'.shape = t.shape ∧ t'.sharing = t.sharing)
    (htold : s'.told names = t'.told names) : s'.Alike names t' := by
  have keeps : ∀ {a b : State τ}, b.shape = a.shape ∧ b.sharing = a.sharing →
      ∀ p, b.markAt? p = a.markAt? p := by
    intro a b hab p
    unfold markAt?
    rw [hab.1, hab.2]
  refine ⟨htold, fun p q => ?_, fun p n hn => ?_, fun p n hn => ?_⟩
  · unfold InCommon
    rw [keeps hs, keeps hs, keeps ht, keeps ht]
    exact h.common p q
  · rw [hs.2]
    exact h.tidy.1 p n (keeps hs p ▸ hn)
  · rw [ht.2]
    exact h.tidy.2 p n (keeps ht p ▸ hn)

theorem Alike.alter (h : s.Alike names t) (f F : State τ → State τ)
    (hf : ∀ s, (f s).shape = s.shape ∧ (f s).sharing = s.sharing)
    (hF : ∀ s, (f s).told names = F (s.told names)) : (f s).Alike names (f t) :=
  h.changed (hf s) (hf t) (by rw [hF, hF, h.told])

theorem Alike.noted (h : s.Alike names t) {r r' : Record}
    (hr : r.without names = r'.without names) :
    ({ s with record := r } : State τ).Alike names { t with record := r' } := by
  refine h.changed ⟨rfl, rfl⟩ ⟨rfl, rfl⟩ ?_
  calc ({ s with record := r } : State τ).told names
      = { s.told names with record := r.without names } := rfl
    _ = { t.told names with record := r'.without names } := by rw [h.told, hr]
    _ = ({ t with record := r' } : State τ).told names := rfl

/-! ## Storing and loading -/

theorem markAt?_renumbered (s : State τ) (base : Nat) (p : Spot) :
    (s.renumbered base).markAt? p = (s.markAt? p).map (·.renumbered base) := by
  cases p with
  | field name => exact Table.get?_map _ _ _
  | member i =>
    unfold markAt? renumbered Shape.mapMembers
    cases s.shape with
    | population ms =>
      simp only [Shape.members?, Option.getD_some, List.getElem?_map]
      cases ms[i]? with
      | none => rfl
      | some m => cases hm : m.mark? <;> simp [Individual.renumbered, hm, Mark.renumbered]
    | _ => rfl

theorem markAt?_settled (s : State τ) (p : Spot) :
    s.settled.markAt? p = (s.markAt? p).map (·.settled s.sharing.next) := by
  cases p with
  | field name => exact Table.get?_map _ _ _
  | member i =>
    unfold markAt? settled
    dsimp only
    cases (s.shape.members?.getD [])[i]?.bind (·.mark?) <;> rfl

theorem idxOf_lt (c : Capability) : Capability.all.idxOf c < Capability.all.length := by
  cases c <;> decide

theorem idxOf_inj {c d : Capability} (h : Capability.all.idxOf c = Capability.all.idxOf d) :
    c = d := by
  cases c <;> cases d <;> first | rfl | exact absurd h (by decide)

theorem Tidy.renumbered (h : s.Tidy) (base : Nat) : (s.renumbered base).Tidy := by
  intro p n hn
  rw [markAt?_renumbered] at hn
  obtain ⟨m, hm, hmn⟩ := Option.map_eq_some_iff.mp hn
  cases m with
  | numbered k =>
    cases hmn
    exact Nat.add_lt_add_left (h p k hm) base
  | constant c => cases hmn

theorem Tidy.settled (h : s.Tidy) : s.settled.Tidy := by
  intro p n hn
  rw [markAt?_settled] at hn
  obtain ⟨m, hm, hmn⟩ := Option.map_eq_some_iff.mp hn
  cases m with
  | numbered k =>
    cases hmn
    exact Nat.lt_add_right _ (h p n hm)
  | constant c =>
    cases hmn
    exact Nat.add_lt_add_left (idxOf_lt c) _

/-- Marks that stay apart leave the same places in common. -/
theorem inCommon_of_map {f : Mark → Mark} (hf : ∀ p q m n, s.markAt? p = some m →
    s.markAt? q = some n → f m = f n → m = n) (ht : ∀ p, t.markAt? p = (s.markAt? p).map f)
    (p q : Spot) : s.InCommon p q ↔ t.InCommon p q := by
  unfold InCommon
  rw [ht p, ht q]
  constructor
  · rintro ⟨m, hp, hq⟩
    exact ⟨f m, by rw [hp]; rfl, by rw [hq]; rfl⟩
  · rintro ⟨k, hp, hq⟩
    obtain ⟨m, hm, hmk⟩ := Option.map_eq_some_iff.mp hp
    obtain ⟨n, hn, hnk⟩ := Option.map_eq_some_iff.mp hq
    obtain rfl := hf p q m n hm hn (hmk.trans hnk.symm)
    exact ⟨m, hm, hn⟩

/-- Other numbers for the marks change nothing that a state tells. -/
theorem told_renumbered (s : State τ) (base : Nat) :
    (s.renumbered base).told names = s.told names := by
  unfold told renumbered Shape.mapMembers
  cases s.shape with
  | population ms => simp [Individual.unmarked, Individual.renumbered, Function.comp_def]
  | _ => rfl

theorem alike_renumbered (h : s.Tidy) (base : Nat) : s.Alike names (s.renumbered base) := by
  refine ⟨(s.told_renumbered base).symm, inCommon_of_map (fun _ _ m n _ _ hmn => ?_)
    (markAt?_renumbered s base), h, h.renumbered base⟩
  cases m <;> cases n <;> simp [Mark.renumbered] at hmn ⊢ <;> exact hmn

/-- No solver can tell that the values of a state are its own and no longer
those of the problem. -/
theorem alike_settled (h : s.Tidy) : s.Alike names s.settled := by
  refine ⟨rfl, inCommon_of_map (fun p q m n hm hn hmn => ?_) (markAt?_settled s), h, h.settled⟩
  cases m with
  | numbered i =>
    cases n with
    | numbered j => exact hmn
    | constant d =>
      have hi := h p i hm
      simp only [Mark.settled, Mark.numbered.injEq] at hmn
      omega
  | constant c =>
    cases n with
    | numbered j =>
      have hj := h q j hn
      simp only [Mark.settled, Mark.numbered.injEq] at hmn
      omega
    | constant d =>
      simp only [Mark.settled, Mark.numbered.injEq] at hmn
      rw [idxOf_inj (by omega : Capability.all.idxOf c = Capability.all.idxOf d)]

end State

/-! ## Calls -/

/-- A change in place that leaves a user's problem as it is. -/
def Change.Spares (u : UserProblem) (c : Change) : Prop :=
  ∀ n : Counts, (⟨u, n⟩ : Problem).after c = ⟨u, n⟩

/-- Answers that differ in nothing but marks. -/
inductive Answer.Alike (names : List String) : Answer τ → Answer τ → Prop
  | failed (f : Fault) : Alike names (.failed f) (.failed f)
  | malformed (typeName : String) : Alike names (.malformed typeName) (.malformed typeName)
  | same (record : Option Record) : Alike names (.same record) (.same record)
  | other {s t : State τ} (record : Option Record) (h : s.Alike names t) :
      Alike names (.other s record) (.other t record)

/-- Calls that ask the same and end alike, and change nothing in place that
belongs to a user's problem. What they change of the best points that are kept
is the same. -/
inductive Call.Alike (names : List String) (u : UserProblem) : Call τ → Call τ → Prop
  | done {s t : State τ} {a b : Answer τ} (hs : s.Alike names t) (ha : a.Alike names b) :
      Alike names u (.done s a) (.done t b)
  | evaluate {c : Capability} {args : List Value} {next next' : Origin → Except Fault Value → Call τ}
      (h : ∀ origin r, Alike names u (next origin r) (next' origin r)) :
      Alike names u (.evaluate c args next) (.evaluate c args next')
  | change {c d : Change} {next next' : Call τ} (hc : c.Spares u) (hd : d.Spares u)
      (hk : ∀ b : Bookkeeping τ, b.after c = b.after d) (h : Alike names u next next') :
      Alike names u (.change c next) (.change d next')
  | wait {d : τ} {next next' : Call τ} (h : Alike names u next next') :
      Alike names u (.wait d next) (.wait d next')
  | raise {signal : String} {next next' : Call τ} (h : Alike names u next next') :
      Alike names u (.raise signal next) (.raise signal next')

/-- A solver that goes by nothing but what its state tells, some entries of
the record apart. It does alike on states that tell the same, and keeps
nothing in a user's problem, nor in the counters that it is shown when it is
asked whether to stop. -/
structure Solver.HidesNothing (names : List String) (u : UserProblem) (x : Solver τ) : Prop where
  calls : ∀ (kind : CallKind) (s t : State τ), s.Alike names t →
    (x.call kind s).Alike names u (x.call kind t)
  early : ∀ s t : State τ, s.Alike names t → x.terminateEarly s = x.terminateEarly t
  revised : ∀ s t : State τ, s.Alike names t → (x.revised s).Alike names (x.revised t)
  counts : ∀ s : State τ, (x.revised s).counts = s.counts

variable {names : List String} {u : UserProblem}

/-- Alike calls, run on one problem in any two worlds, leave the problem and the
best points that are kept the same, and end alike. -/
theorem Call.Alike.run [Clock τ] {a b : Call τ} (h : a.Alike names u b) {p : Problem}
    (hp : p.user = u) (w w' : World τ) :
    (a.run p w).problem = (b.run p w').problem ∧ (a.run p w).problem.user = u ∧
      (a.run p w).left.Alike names (b.run p w').left ∧
      (a.run p w).answer.Alike names (b.run p w').answer ∧
      ∀ k : Bookkeeping τ, k.afterAll (a.run p w).changes = k.afterAll (b.run p w').changes := by
  induction h generalizing p w w' with
  | done hs ha => exact ⟨rfl, hp, hs, ha, fun _ => rfl⟩
  | @evaluate c args next next' _ ih =>
    have hu : (p.evaluate c args).1.user = u := by
      unfold Problem.evaluate
      cases p.user.function? c <;> exact hp
    exact ih _ _ hu _ _
  | @change c d next next' hc hd hk _ ih =>
    have hpc : p.after c = p := by
      obtain ⟨v, n⟩ := p
      cases hp
      exact hc n
    have hpd : p.after d = p := by
      obtain ⟨v, n⟩ := p
      cases hp
      exact hd n
    simp only [Call.run, hpc, hpd]
    obtain ⟨hproblem, huser, hleft, hanswer, hkept⟩ := ih hp w w'
    refine ⟨hproblem, huser, hleft, hanswer, fun k => ?_⟩
    show (k.after c).afterAll _ = (k.after d).afterAll _
    rw [hk, hkept]
  | wait _ ih => exact ih hp _ _
  | raise _ ih => exact ih hp _ _

/-! ## Returned states -/

/-- Returned states that differ in nothing but marks. -/
structure Returned.Alike (names : List String) (r r' : Returned τ) : Prop where
  state : r.state.Alike names r'.state
  inPlace : r.inPlace = r'.inPlace
  record : r.record = r'.record

theorem Answer.Alike.returned {a b : Answer τ} (h : a.Alike names b) {s t : State τ}
    (hs : s.Alike names t) (x : Solver τ) (kind : CallKind) :
    (∃ f, a.returned x kind s = .error f ∧ b.returned x kind t = .error f) ∨
    (∃ r r', a.returned x kind s = .ok r ∧ b.returned x kind t = .ok r' ∧ r.Alike names r') := by
  cases h with
  | failed f => exact .inl ⟨f, rfl, rfl⟩
  | malformed typeName => exact .inl ⟨_, rfl, rfl⟩
  | same record => exact .inr ⟨_, _, rfl, rfl, hs, rfl, rfl⟩
  | other record h => exact .inr ⟨_, _, rfl, rfl, h, rfl, rfl⟩

theorem Sharing.mark?_forget (s : Sharing) (name field : String) :
    (s.forget name).mark? field = if field = name then Option.none else s.mark? field :=
  Table.get?_erase s.held name field

namespace State

def apart (s : State τ) (name : String) : State τ := { s with sharing := s.sharing.forget name }

theorem markAt?_apart (s : State τ) (name : String) (p : Spot) :
    (s.apart name).markAt? p = if p = .field name then none else s.markAt? p := by
  cases p with
  | field f =>
    simp only [Spot.field.injEq]
    exact s.sharing.mark?_forget name f
  | member i => simp [markAt?, apart]

theorem Tidy.apart {s : State τ} (h : s.Tidy) (name : String) : (s.apart name).Tidy := by
  intro p n hn
  rw [markAt?_apart] at hn
  split at hn
  · cases hn
  · exact h p n hn

theorem Alike.apart {s t : State τ} (h : s.Alike names t) (name : String) :
    (s.apart name).Alike names (t.apart name) := by
  refine ⟨h.told, fun p q => ?_, h.tidy.1.apart name, h.tidy.2.apart name⟩
  have hcommon := h.common p q
  unfold InCommon at hcommon ⊢
  simp only [markAt?_apart]
  by_cases hp : p = .field name
  · simp [hp]
  · by_cases hq : q = .field name
    · simp [hq]
    · simp only [hp, hq, if_false]
      exact hcommon

end State

theorem Returned.Alike.placed {r r' : Returned τ} (h : r.Alike names r') {s t : State τ}
    (hst : s.Alike names t) (kind : CallKind) :
    (r.placed kind s).Alike names (r'.placed kind t) := by
  cases kind with
  | opening => exact h
  | step =>
    have happart := (h.state.apart "prev_param").apart "prev_cost"
    have hbehind := happart.alter
      (fun x => { x with prevParam := t.param, prevCost := t.cost })
      (fun x => { x with prevParam := t.param, prevCost := t.cost })
      (fun _ => ⟨rfl, rfl⟩) (fun _ => rfl)
    have hplaced : (r.placed .step s).state =
        { (r.state.apart "prev_param").apart "prev_cost" with
          prevParam := t.param, prevCost := t.cost } := by
      rw [← hst.param, ← hst.cost]
      rfl
    refine ⟨?_, h.inPlace, h.record⟩
    rw [hplaced]
    exact hbehind

end Minimize
