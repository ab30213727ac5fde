-- The best of a swarm. Sorting a population and taking its best individual agree
-- where costs are compared by where they stand on the line. A cost that has no
-- place there loses every comparison and wins none, so it is taken if it stands
-- first, whatever comes after it, and never from a later place.
import Minimize.Proofs.Arrangement
import Minimize.Proofs.Lossless
import Minimize.Proofs.Ownership
import Minimize.Proofs.Unplaced
import Minimize.State.Population

namespace Minimize

open Number

/-! ## The line of places -/

namespace Number.Place

theorem le_iff_not_lt {a b : Place} : a ≤ b ↔ ¬ b < a := iff_of_eq (Bool.not_eq_true _).symm

instance : LinearOrder Place where
  le_refl a := le_iff_not_lt.mpr (lt_irrefl a)
  le_trans a b c hab hbc := by
    rw [le_iff_not_lt] at hab hbc ⊢
    intro hca
    rcases lt_or_eq_or_gt a b with h | h | h
    · exact hbc (lt_trans hca h)
    · exact hbc (h ▸ hca)
    · exact hab h
  lt_iff_le_not_ge a b := by
    rw [le_iff_not_lt, le_iff_not_lt, not_not]
    exact ⟨fun h => ⟨fun h' => lt_irrefl a (lt_trans h h'), h⟩, fun h => h.2⟩
  le_antisymm a b hab hba := by
    rw [le_iff_not_lt] at hab hba
    rcases lt_or_eq_or_gt a b with h | h | h
    · exact absurd h hba
    · exact h
    · exact absurd h hab
  le_total a b := by
    rw [le_iff_not_lt, le_iff_not_lt]
    rcases lt_or_eq_or_gt a b with h | h | h
    · exact .inl fun h' => lt_irrefl a (lt_trans h h')
    · exact .inl (h ▸ lt_irrefl a)
    · exact .inr fun h' => lt_irrefl b (lt_trans h h')
  toDecidableLE := inferInstance

end Number.Place

/-! ## Individuals on the line -/

namespace Individual

/-- Where the cost of an individual stands on the line. -/
def place (m : Individual) : Place := m.cost.place?.join.getD .above

/-- The costs of individuals are compared by where they stand. -/
def Placed (ms : List Individual) : Prop := ∀ a ∈ ms, ∀ b ∈ ms, a.cost.Placed b.cost

/-- Those whose costs have a place there. -/
def standing (ms : List Individual) : List Individual :=
  ms.filter fun m => !decide m.cost.Unplaced

variable {ms : List Individual}

theorem mem_standing {m : Individual} : m ∈ standing ms ↔ m ∈ ms ∧ ¬ m.cost.Unplaced := by
  simp [standing]

theorem place_eq {m : Individual} {p : Place} (h : m.cost.place? = some (some p)) :
    m.place = p := by
  unfold place
  rw [h]
  rfl

theorem Placed.ranks (h : Placed ms) : Arrange.Ranks cheaper place (· ∈ ms) := by
  intro a b ha hb
  obtain ⟨p, q, hp, hq, hless⟩ := (h a ha b hb).compares
  rw [place_eq hp, place_eq hq]
  unfold cheaper
  rw [hless]
  exact congrArg Except.ok Bool.decide_eq_true.symm

/-- The order of the places is that of the costs. -/
theorem Placed.atMost (h : Placed ms) {a b : Individual} (ha : a ∈ ms) (hb : b ∈ ms)
    (hle : a.place ≤ b.place) : a.cost.atMost b.cost = .ok true := by
  obtain ⟨met, hmet, hbelow⟩ := (h a ha b hb).atMost
  cases met with
  | true => exact hmet
  | false =>
    obtain ⟨q, p, hq, hp, hlt⟩ := hbelow.mp rfl
    rw [place_eq hp, place_eq hq] at hle
    exact absurd hlt (not_lt.mpr hle)

/-- A cost without a place is below no other, and no other below it. -/
theorem cheaper_unplaced {a b : Individual} (ha : a.cost.IsNumber) (hb : b.cost.IsNumber)
    (hx : ∃ x, a.cost.toFloat = .ok x) (hy : ∃ y, b.cost.toFloat = .ok y)
    (h : a.cost.Unplaced ∨ b.cost.Unplaced) : a.cheaper b = .ok false := by
  obtain ⟨x, hx⟩ := hx
  obtain ⟨y, hy⟩ := hy
  obtain ⟨better, hbetter⟩ := ha.less hb hx hy
  show a.cost.less b.cost = _
  rw [hbetter, Value.less_unplaced ha.place hb.place h hbetter]

end Individual

/-! ## At an individual -/

namespace Table

variable {α : Type}

theorem erase_erase (t : Table α) (k : String) : (t.erase k).erase k = t.erase k := by
  apply ext
  unfold erase
  simp only [List.filter_filter, Bool.and_self]

theorem insert_insert (t : Table α) (k : String) (v : α) :
    (t.insert k v).insert k v = t.insert k v := by
  apply ext
  unfold insert
  dsimp only
  induction t.entries with
  | nil => simp [put]
  | cons e es ih =>
    obtain ⟨k', v'⟩ := e
    by_cases h : k' = k
    · simp [put, h]
    · simp only [put, h, if_false, ih]

theorem erase_insert_ne (t : Table α) (v : α) {k k' : String} (hk : k' ≠ k) :
    (t.insert k v).erase k' = (t.erase k').insert k v := by
  apply ext
  unfold insert erase
  dsimp only
  induction t.entries with
  | nil => simp [put, Ne.symm hk]
  | cons e es ih =>
    obtain ⟨k'', v''⟩ := e
    by_cases h : k'' = k
    · simp [put, h, Ne.symm hk]
    · by_cases h' : k'' = k'
      · simpa [put, h, h', hk] using ih
      · simpa [put, h, h'] using ih

end Table

variable {τ κ φ : Type}

namespace State

variable {s s' : State τ κ φ} {ms : List Individual} {m : Individual}

theorem atIndividual_again (s : State τ κ φ) (m : Individual) :
    (s.atIndividual m).atIndividual m = s.atIndividual m := by
  have hsharing : ((s.atIndividual m).atIndividual m).sharing = (s.atIndividual m).sharing := by
    unfold atIndividual
    dsimp only
    cases m.mark? with
    | some n =>
      unfold Sharing.hold Sharing.forget
      dsimp only
      rw [Table.erase_insert_ne _ _ (by decide), Table.erase_erase, Table.insert_insert]
    | none =>
      unfold Sharing.forget
      dsimp only
      rw [erase_comm, Table.erase_erase, erase_comm, Table.erase_erase]
  show { s.atIndividual m with sharing := ((s.atIndividual m).atIndividual m).sharing } = _
  rw [hsharing]

/-- A state that has taken its point and cost from one of its individuals; nothing
else has changed, and to take the best again changes nothing. -/
structure TakenFrom (s : State τ κ φ) (ms : List Individual) (m : Individual)
    (s' : State τ κ φ) : Prop where
  member : m ∈ ms
  others : s' = { s with param := m.param, cost := m.cost, sharing := s'.sharing }
  again : s'.takeBestIndividual = .ok (s', some m)

theorem take_of_best (hbest : s.bestIndividual? = .ok (some m)) :
    s.takeBestIndividual = .ok (s.atIndividual m, some m) := by
  unfold takeBestIndividual
  rw [hbest]
  rfl

theorem take_of_least {m₀ : Individual} (hshape : s.shape = .population (m₀ :: ms))
    (hm : Arrange.firstLeast Individual.cheaper m₀ ms = .ok m) :
    s.takeBestIndividual = .ok (s.atIndividual m, some m) := by
  apply take_of_best
  unfold bestIndividual?
  rw [hshape]
  dsimp only
  rw [hm]
  rfl

theorem taken (hshape : s.shape = .population ms) {best : Option Individual}
    (h : s.takeBestIndividual = .ok (s', best)) :
    (best = none ∧ ms = [] ∧ s' = s) ∨ ∃ m, best = some m ∧ s.TakenFrom ms m s' := by
  obtain ⟨found, hfound, htake⟩ := map_ok h
  have hbest := hfound
  unfold bestIndividual? at hfound
  rw [hshape] at hfound
  cases ms with
  | nil =>
    cases hfound
    cases htake
    exact .inl ⟨rfl, rfl, rfl⟩
  | cons m₀ ms =>
    obtain ⟨m, hm, rfl⟩ := map_ok hfound
    cases htake
    refine .inr ⟨m, rfl, Arrange.firstLeast_mem hm, rfl, ?_⟩
    have hagain : (s.atIndividual m).bestIndividual? = .ok (some m) := hbest
    rw [take_of_best hagain, atIndividual_again]

/-! ## Sorting and taking -/

theorem sort_perm (hshape : s.shape = .population ms) : ∃ sorted,
    s.sortPopulation.1 = { s with shape := .population sorted } ∧ sorted.Perm ms := by
  refine ⟨_, ?_, Arrange.arranged_perm Individual.cheaper (·.cost.isRanked) ms⟩
  unfold sortPopulation
  rw [hshape]

theorem sort_of_placed (hshape : s.shape = .population ms) (h : Individual.Placed ms) :
    ∃ sorted, s.sortPopulation = ({ s with shape := .population sorted }, .ok ()) ∧
      Arrange.Arranged Individual.place ms sorted := by
  obtain ⟨sorted, hsorted, harranged⟩ :=
    Arrange.arranged_eq h.ranks (fun _ hm => hm) (·.cost.isRanked)
  refine ⟨sorted, ?_, harranged⟩
  unfold sortPopulation
  rw [hshape]
  dsimp only
  rw [hsorted]

theorem take_of_placed {m₀ : Individual} (hshape : s.shape = .population (m₀ :: ms))
    (h : Individual.Placed (m₀ :: ms)) : ∃ m, Arrange.FirstLeast Individual.place (m₀ :: ms) m ∧
      s.takeBestIndividual = .ok (s.atIndividual m, some m) := by
  obtain ⟨m, hm, hleast⟩ := Arrange.firstLeast_eq h.ranks List.mem_cons_self
    fun _ hb => List.mem_cons_of_mem m₀ hb
  exact ⟨m, hleast, take_of_least hshape hm⟩

/-- Sorting keeps the individuals, and taking keeps the population and goes to one
of them, whatever the costs are. Where costs are compared by where they stand, the
sorted population is the one stable arrangement, and before sorting as after it
the individual at its head is taken, the first of those of the least cost. -/
theorem sorting_and_taking_agree (hshape : s.shape = .population ms) :
    (∃ sorted, s.sortPopulation.1 = { s with shape := .population sorted } ∧ sorted.Perm ms) ∧
    (∀ s' best, s.takeBestIndividual = .ok (s', best) →
      (best = none ∧ ms = [] ∧ s' = s) ∨ ∃ m, best = some m ∧ s.TakenFrom ms m s') ∧
    (Individual.Placed ms → ∃ (sorted : List Individual) (t : State τ κ φ),
      t = { s with shape := .population sorted } ∧
      s.sortPopulation = (t, .ok ()) ∧ t.sortPopulation = (t, .ok ()) ∧
      Arrange.Arranged Individual.place ms sorted ∧
      match sorted with
      | [] => ms = [] ∧ s.takeBestIndividual = .ok (s, none)
      | m :: _ => Arrange.FirstLeast Individual.place ms m ∧
        (∀ a ∈ ms, m.cost.atMost a.cost = .ok true) ∧
        s.takeBestIndividual = .ok (s.atIndividual m, some m) ∧
        t.takeBestIndividual = .ok (t.atIndividual m, some m)) := by
  refine ⟨sort_perm hshape, fun s' best => taken hshape, fun h => ?_⟩
  obtain ⟨sorted, hsort, harranged⟩ := sort_of_placed hshape h
  have hplaced : Individual.Placed sorted :=
    fun a ha b hb => h a (harranged.mem_iff.mp ha) b (harranged.mem_iff.mp hb)
  have hself : Arrange.Arranged Individual.place sorted sorted :=
    .of_ascending harranged.ascending
  refine ⟨sorted, _, rfl, hsort, ?_, harranged, ?_⟩
  · obtain ⟨sorted', hsort', harranged'⟩ :=
      sort_of_placed (s := { s with shape := .population sorted }) rfl hplaced
    rw [hsort', harranged'.unique hself]
  · cases sorted with
    | nil =>
      obtain rfl : ms = [] := by
        cases ms with
        | nil => rfl
        | cons m₀ ms => exact absurd (harranged.mem_iff.mpr List.mem_cons_self) List.not_mem_nil
      refine ⟨rfl, ?_⟩
      unfold takeBestIndividual bestIndividual?
      rw [hshape]
      rfl
    | cons m rest =>
      cases ms with
      | nil => exact absurd (harranged.mem_iff.mp List.mem_cons_self) List.not_mem_nil
      | cons m₀ ms =>
        obtain ⟨m', hleast, htake⟩ := take_of_placed hshape h
        obtain rfl : m = m' := Option.some.inj (hleast.head harranged)
        obtain ⟨m', hleast', htake'⟩ :=
          take_of_placed (s := { s with shape := .population (m :: rest) }) rfl hplaced
        obtain rfl : m = m' := Option.some.inj (hleast'.head hself)
        exact ⟨hleast, fun a ha => h.atMost hleast.mem ha (hleast.le a ha), htake, htake'⟩

/-! ## Costs without a place -/

/-- An individual whose cost has no place is taken if it stands first, whatever the
others cost. From any other place it hides nothing: the first of the least of the
other costs is taken. -/
theorem only_the_first_individual_hides_the_others {m₀ : Individual}
    (hshape : s.shape = .population (m₀ :: ms))
    (hnumber : ∀ m ∈ m₀ :: ms, m.cost.IsNumber ∧ ∃ x, m.cost.toFloat = .ok x)
    (hplaced : Individual.Placed (Individual.standing (m₀ :: ms))) :
    (m₀.cost.Unplaced → s.takeBestIndividual = .ok (s.atIndividual m₀, some m₀)) ∧
    (¬ m₀.cost.Unplaced → ∃ m, s.takeBestIndividual = .ok (s.atIndividual m, some m) ∧
      ¬ m.cost.Unplaced ∧ Arrange.FirstLeast Individual.place (Individual.standing (m₀ :: ms)) m ∧
      ∀ a ∈ m₀ :: ms, ¬ a.cost.Unplaced → m.cost.atMost a.cost = .ok true) := by
  have hnever : ∀ a ∈ m₀ :: ms, ∀ b ∈ m₀ :: ms, a.cost.Unplaced ∨ b.cost.Unplaced →
      a.cheaper b = .ok false := by
    intro a ha b hb
    obtain ⟨hna, hxa⟩ := hnumber a ha
    obtain ⟨hnb, hxb⟩ := hnumber b hb
    exact Individual.cheaper_unplaced hna hnb hxa hxb
  constructor
  · intro hfirst
    apply take_of_least hshape
    apply Arrange.firstLeast_stays
    exact fun b hb => hnever b (List.mem_cons_of_mem m₀ hb) m₀ List.mem_cons_self (.inr hfirst)
  · intro hfirst
    have hfilter : Individual.standing (m₀ :: ms) = m₀ :: Individual.standing ms :=
      List.filter_cons_of_pos (by simpa using hfirst)
    have hpass : Arrange.firstLeast Individual.cheaper m₀ ms =
        Arrange.firstLeast Individual.cheaper m₀ (Individual.standing ms) := by
      apply Arrange.firstLeast_filter
      intro b hb hunplaced c hc
      apply hnever b (List.mem_cons_of_mem m₀ hb) c hc
      exact .inl (by simpa using hunplaced)
    obtain ⟨m, hm, hleast⟩ := Arrange.firstLeast_eq (hfilter ▸ hplaced).ranks List.mem_cons_self
      fun _ hb => List.mem_cons_of_mem m₀ hb
    rw [← hfilter] at hleast
    refine ⟨m, take_of_least hshape (hpass.trans hm),
      (Individual.mem_standing.mp hleast.mem).2, hleast, fun a ha hplace => ?_⟩
    have ha' := Individual.mem_standing.mpr ⟨ha, hplace⟩
    exact hplaced.atMost hleast.mem ha' (hleast.le a ha')

end State

/-! ## Populations of numbers -/

section

open State

def Individual.costing (n : Int) (cost : Value) : Individual := ⟨.int n, cost, .dict [], none⟩

theorem Individual.place_costing (n : Int) {i : Int} (hi : i.natAbs < twoTo 53) :
    (costing n (.float (Number.ofInt i))).place = .ofInt i :=
  place_eq (congrArg some (place_whole hi))

def State.swarm (ms : List Individual) : State Float :=
  { State.fresh .population with shape := .population ms }

/-- Four individuals of which two have the least cost, and one an infinite one. -/
def tied : List Individual :=
  [.costing 0 (.float (Number.ofInt 2)), .costing 1 (.float (Number.ofInt 1)),
    .costing 2 (.float Number.infinity), .costing 3 (.float (Number.ofInt 1))]

/-- Of equals the first is taken. -/
theorem the_first_of_equals_is_taken :
    (State.swarm tied).shape = .population tied ∧ Individual.Placed tied ∧
      (State.swarm tied).takeBestIndividual =
        .ok ((State.swarm tied).atIndividual (.costing 1 (.float (Number.ofInt 1))),
          some (.costing 1 (.float (Number.ofInt 1)))) := by
  have hranked : ∀ m ∈ tied, m.cost.isRanked = true := by
    intro m hm
    simp only [tied, List.mem_cons, List.not_mem_nil, or_false] at hm
    rcases hm with rfl | rfl | rfl | rfl <;> rfl
  have hplaced : Individual.Placed tied :=
    fun a ha b hb => Value.placed_of_plain (hranked a ha) (hranked b hb)
  refine ⟨rfl, hplaced, ?_⟩
  obtain ⟨-, -, h⟩ := @sorting_and_taking_agree _ _ _ (State.swarm tied) tied rfl
  obtain ⟨sorted, t, -, -, -, harranged, htakes⟩ := h hplaced
  have hleast : Arrange.FirstLeast Individual.place tied
      (.costing 1 (.float (Number.ofInt 1))) := by
    have hone (n : Int) := Individual.place_costing n (i := 1) (by decide)
    have htwo (n : Int) := Individual.place_costing n (i := 2) (by decide)
    refine ⟨[.costing 0 (.float (Number.ofInt 2))],
      [.costing 2 (.float Number.infinity), .costing 3 (.float (Number.ofInt 1))], rfl, ?_, ?_⟩
    · intro a ha
      rw [List.mem_singleton.mp ha, hone, htwo]
      exact Place.ofInt_lt.mpr (by decide)
    · intro a ha
      simp only [List.mem_cons, List.not_mem_nil, or_false] at ha
      rcases ha with rfl | rfl
      · rw [hone]
        rfl
      · rw [hone, hone]
  have hhead := hleast.head harranged
  cases sorted with
  | nil => cases hhead
  | cons m rest =>
    cases hhead
    exact htakes.2.2.1

/-- A number a little above one. In single precision it is one. -/
def nearOne : Float := Number.ofQuotient false 10000000001 10000000000

def mixed : List Individual :=
  [.costing 0 (.float nearOne), .costing 1 (.cell (.single (Number.ofInt 1))),
    .costing 2 (.float (Number.ofInt 1))]

/-- Of these three, neighbours are not cheaper than one another, but the last is
cheaper than the first. -/
theorem mixed_cheaper :
    (Individual.costing 1 (.cell (.single (Number.ofInt 1)))).cheaper
        (.costing 0 (.float nearOne)) = .ok false ∧
      (Individual.costing 2 (.float (Number.ofInt 1))).cheaper
        (.costing 1 (.cell (.single (Number.ofInt 1)))) = .ok false ∧
      (Individual.costing 2 (.float (Number.ofInt 1))).cheaper (.costing 0 (.float nearOne)) =
        .ok true := by
  unfold Individual.cheaper
  refine ⟨?_, ?_, ?_⟩
  · have hrounded : Number.less (Number.single (Number.ofInt 1)) (Number.single nearOne) =
        false := by
      decide +kernel
    rw [Value.less_of_operands rfl rfl]
    exact congrArg Except.ok hrounded
  · have hrounded : Number.less (Number.single (Number.ofInt 1)) (Number.single (Number.ofInt 1)) =
        false := by
      decide +kernel
    rw [Value.less_of_operands rfl rfl]
    exact congrArg Except.ok hrounded
  · have hexact : Number.less (Number.ofInt 1) nearOne = true := by
      decide +kernel
    exact (Value.less_floats _ _).trans (congrArg Except.ok hexact)

theorem mixed_arranged :
    Arrange.arranged Individual.cheaper (·.cost.isRanked) mixed = (mixed, none) := by
  obtain ⟨hequal, hsame, -⟩ := mixed_cheaper
  have hranked : mixed.all (·.cost.isRanked) = false := by
    simp [mixed, Individual.costing, Value.isRanked]
  unfold Arrange.arranged
  rw [hranked]
  simp [mixed, Arrange.byRuns, Arrange.nextRun, Arrange.headRun, Arrange.rising, hequal, hsame,
    Arrange.placeAll, Arrange.pileRuns, Arrange.mergeAll, Arrange.Pile.items, bind, Except.bind,
    pure, Except.pure]

/-- A cost that is not below another in single precision is left behind it, and a
third one that is below that other is then not at the head. -/
theorem a_rounded_cost_parts_sorting_from_taking :
    (∀ m ∈ mixed, m.cost.IsNumber ∧ ¬ m.cost.Unplaced) ∧
      (State.swarm mixed).sortPopulation = (State.swarm mixed, .ok ()) ∧
      (State.swarm mixed).takeBestIndividual =
        .ok ((State.swarm mixed).atIndividual (.costing 2 (.float (Number.ofInt 1))),
          some (.costing 2 (.float (Number.ofInt 1)))) ∧
      (Value.float (Number.ofInt 1)).less (.float nearOne) = .ok true := by
  obtain ⟨hequal, -, hcheaper⟩ := mixed_cheaper
  have hshape : (State.swarm mixed).shape = .population mixed := rfl
  refine ⟨?_, ?_, take_of_least hshape ?_, hcheaper⟩
  · intro m hm
    simp only [mixed, List.mem_cons, List.not_mem_nil, or_false] at hm
    rcases hm with rfl | rfl | rfl
    · exact ⟨.float _, by decide⟩
    · exact ⟨.single _, by decide⟩
    · exact ⟨.float _, by decide⟩
  · unfold sortPopulation
    rw [hshape]
    dsimp only
    rw [mixed_arranged]
    rfl
  · simp [Arrange.firstLeast, hequal, hcheaper, bind, Except.bind]

/-- Three individuals, of which the cost of the second has no place. -/
def strayed : List Individual :=
  [.costing 0 (.float (Number.ofInt 2)), .costing 1 (.float Engine.noNumber),
    .costing 2 (.float (Number.ofInt 1))]

/-- The best individual is taken although one before it has a cost without a place. -/
theorem a_later_individual_without_a_place_hides_nothing :
    (State.swarm strayed).shape = .population strayed ∧
      (State.swarm strayed).takeBestIndividual =
        .ok ((State.swarm strayed).atIndividual (.costing 2 (.float (Number.ofInt 1))),
          some (.costing 2 (.float (Number.ofInt 1)))) := by
  have hnumber : ∀ m ∈ strayed, m.cost.IsNumber ∧ ∃ x, m.cost.toFloat = .ok x := by
    intro m hm
    simp only [strayed, List.mem_cons, List.not_mem_nil, or_false] at hm
    rcases hm with rfl | rfl | rfl <;> exact ⟨.float _, _, rfl⟩
  have hranked : ∀ m ∈ Individual.standing strayed, m.cost.isRanked = true := by
    intro m hm
    obtain ⟨hm, hplace⟩ := Individual.mem_standing.mp hm
    simp only [strayed, List.mem_cons, List.not_mem_nil, or_false] at hm
    rcases hm with rfl | rfl | rfl <;> exact Value.isRanked_of_placed hplace
  have hplaced : Individual.Placed (Individual.standing strayed) :=
    fun a ha b hb => Value.placed_of_plain (hranked a ha) (hranked b hb)
  have hfirst : ¬ (Value.float (Number.ofInt 2)).Unplaced := by decide
  obtain ⟨m, htake, hplace, hleast, -⟩ :=
    (only_the_first_individual_hides_the_others (s := State.swarm strayed) rfl hnumber hplaced).2
      hfirst
  have hmem := (Individual.mem_standing.mp hleast.mem).1
  simp only [List.mem_cons, List.not_mem_nil, or_false] at hmem
  rcases hmem with rfl | rfl | rfl
  · have hlast : Individual.costing 2 (.float (Number.ofInt 1)) ∈ Individual.standing strayed :=
      Individual.mem_standing.mpr ⟨by simp [strayed], by decide⟩
    have hle := hleast.le _ hlast
    rw [Individual.place_costing 0 (by decide), Individual.place_costing 2 (by decide)] at hle
    exact absurd (Place.ofInt_lt.mpr (show (1 : Int) < 2 by decide)) hle.not_gt
  · exact absurd Engine.noNumber_unplaced hplace
  · exact ⟨rfl, htake⟩

/-- Two individuals, of which the cost of the first has no place. -/
def hidden : List Individual :=
  [.costing 0 (.float Engine.noNumber), .costing 1 (.float (Number.ofInt 1))]

/-- The best individual is hidden by one in front of it whose cost has no place. -/
theorem a_first_individual_without_a_place_hides_the_best :
    (State.swarm hidden).shape = .population hidden ∧
      (∃ m ∈ hidden, ¬ m.cost.Unplaced) ∧
      ∃ m, (State.swarm hidden).takeBestIndividual =
          .ok ((State.swarm hidden).atIndividual m, some m) ∧
        m.cost.Unplaced := by
  refine ⟨rfl, ⟨.costing 1 (.float (Number.ofInt 1)), by simp [hidden], by decide⟩,
    .costing 0 (.float Engine.noNumber), take_of_least rfl ?_, Engine.noNumber_unplaced⟩
  apply Arrange.firstLeast_stays
  intro b hb
  rw [List.mem_singleton.mp hb]
  exact Engine.less_noNumber _

end

end Minimize
