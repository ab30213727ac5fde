-- Changes of settings by name. To change settings is to write them out, to lay
-- the changes over them and to read everything again. So what has been read
-- must be read again as what it is; then changes compose as tables do, and of
-- two values under a name the later one counts.
import Minimize.Executor.Basic
import Minimize.Proofs.Layers

namespace Minimize

/-! ## Reading what was read -/

/-- What was read and written out is read again as the same, and a reading never
makes another thing of what is written out. -/
structure Rereads {ε α : Type} (read : Value → Except ε α) (write : α → Value) : Prop where
  again : ∀ {v a}, read v = .ok a → read (write a) = .ok a
  faithful : ∀ {a b}, read (write a) = .ok b → b = a

namespace Rereads

variable {ε α : Type} {read : Value → Except ε α} {write : α → Value}

/-- A reading that takes everything that is written out for what it is. -/
theorem of_all (h : ∀ a, read (write a) = .ok a) : Rereads read write where
  again _ := h _
  faithful hb := by
    rw [h] at hb
    exact (Except.ok.inj hb).symm

theorem located {read : Value → Except Complaint α} (h : Rereads read write)
    (location : List String) : Rereads (fun v => Criteria.located location (read v)) write where
  again hv := by
    unfold Criteria.located at hv ⊢
    rw [h.again (mapError_ok hv)]
    rfl
  faithful hb := h.faithful (mapError_ok hb)

/-- What may be left open is read again as well, unless it is written out as
what stands for being open. -/
theorem optional {read : Value → Except Complaint α} (h : Rereads read write)
    (hnull : ∀ a, write a ≠ .null) :
    Rereads (Lax.optional read) (Criteria.optionValue write) := by
  have hsome : ∀ a, Lax.optional read (write a) = (read (write a)).map some := by
    intro a
    unfold Lax.optional
    split
    · rename_i hw
      exact absurd hw (hnull a)
    · rfl
  constructor
  · intro v a hv
    cases a with
    | none => rfl
    | some a =>
      unfold Lax.optional at hv
      split at hv
      · cases hv
      · cases hr : read v with
        | error e =>
          rw [hr] at hv
          cases hv
        | ok b =>
          rw [hr] at hv
          cases hv
          show Lax.optional read (write a) = .ok (some a)
          rw [hsome, h.again hr]
          rfl
  · intro a b hb
    cases a with
    | none => exact (Except.ok.inj hb).symm
    | some a =>
      have hb' : Lax.optional read (write a) = .ok b := hb
      rw [hsome] at hb'
      cases hr : read (write a) with
      | error e =>
        rw [hr] at hb'
        cases hb'
      | ok c =>
        rw [hr] at hb'
        cases hb'
        rw [h.faithful hr]

end Rereads

namespace Lax

theorem natural_rereads : Rereads natural (fun n => .int n) := .of_all fun _ => rfl

theorem float_rereads : Rereads float .float := .of_all fun _ => rfl

theorem text_rereads : Rereads text .text := .of_all fun _ => rfl

theorem truth_rereads : Rereads truth .bool := .of_all fun _ => rfl

theorem period_rereads : Rereads period (fun p => .int p.count) := by
  apply Rereads.of_all
  intro p
  have h : period (.int p.count) =
      if h : 0 < p.count then .ok ⟨p.count, h⟩ else .error .greaterThan := rfl
  rw [h, dif_pos p.positive]

/-- A span below zero is refused again, and any other is what it was. -/
theorem duration_float (x : Float) : duration (.float x) =
    if Number.atMost (Number.ofInt 0) x then .ok x else .error .greaterThanEqual := rfl

theorem duration_rereads : Rereads duration .float := by
  constructor
  · intro v x hv
    have hx : Number.atMost (Number.ofInt 0) x = true := by
      unfold duration at hv
      cases hr : float v with
      | error e =>
        rw [hr] at hv
        cases hv
      | ok y =>
        rw [hr] at hv
        by_cases hy : Number.atMost (Number.ofInt 0) y = true
        · simp [bind, Except.bind, hy] at hv
          rwa [← hv]
        · simp [bind, Except.bind, hy] at hv
    rw [duration_float, if_pos hx]
  · intro x y hy
    rw [duration_float] at hy
    split at hy
    · exact (Except.ok.inj hy).symm
    · cases hy

end Lax

namespace Criteria

/-! ## Budgets -/

/-- Positive limits are let through. -/
theorem positiveBudgets_counts (t : Table Period) :
    positiveBudgets (t.map Period.count) = .ok t := by
  have hread : ∀ es : List (String × Period),
      (es.map fun e => (e.1, e.2.count)).mapM (fun e : String × Int =>
        if h : 0 < e.2 then (.ok (e.1, ⟨e.2, h⟩) : Except (List Issue) (String × Period))
        else .error [⟨["max_evaluations"], .budgetNotPositive e.1⟩]) = .ok es := by
    intro es
    induction es with
    | nil => rfl
    | cons e es ih =>
      rw [List.map_cons, List.mapM_cons, ih, dif_pos e.2.positive]
      rfl
  unfold positiveBudgets Table.map
  dsimp only
  rw [hread]
  show Except.ok (Table.ofList t.entries) = _
  exact congrArg Except.ok (Table.ext (Table.entries_ofList t.distinct))

theorem budgets_rereads : Rereads readBudgets budgetsValue := by
  apply Rereads.of_all
  intro t
  unfold budgetsValue readBudgets
  have hread : (t.entries.map fun e => (Value.text e.1, Value.int e.2.count)).map readBudget =
      (t.entries.map fun e => (e.1, e.2.count)).map Except.ok := by
    rw [List.map_map, List.map_map]
    rfl
  have hissues : ((t.entries.map fun e => (e.1, e.2.count)).map
      (Except.ok (ε := List Issue))).flatMap issuesOf = [] := by
    rw [List.flatMap_eq_nil_iff]
    intro r hr
    obtain ⟨e, -, rfl⟩ := List.mem_map.mp hr
    rfl
  have hcounts : ((t.entries.map fun e => (e.1, e.2.count)).map
      (Except.ok (ε := List Issue))).filterMap Except.toOption =
        t.entries.map fun e => (e.1, e.2.count) := by
    rw [List.filterMap_map]
    exact List.filterMap_some
  dsimp only
  rw [hread, hissues, hcounts]
  have htable : Table.ofList (t.entries.map fun e => (e.1, e.2.count)) = t.map Period.count := by
    apply Table.ext
    exact Table.entries_ofList (t.map Period.count).distinct
  rw [htable]
  exact positiveBudgets_counts t

end Criteria
/-! ## Settings one by one -/

/-- One setting: its name, what is read if it is not named, how it is read and
written out, and where it stands among the settings. -/
structure Setting (α : Type) where
  name : String
  absent : Value
  read : Value → Except (List Issue) α
  write : α → Value
  get : Settings → α
  rereads : Rereads read write

namespace Setting

variable {α : Type}

/-- What named values give for the setting. -/
def within (x : Setting α) (t : Table Value) : Except (List Issue) α :=
  x.read ((t.get? x.name).getD x.absent)

/-- A setting that may be left open. -/
def optional (name : String) (read : Value → Except Complaint α) (write : α → Value)
    (get : Settings → Option α) (h : Rereads read write) (hnull : ∀ a, write a ≠ .null) :
    Setting (Option α) where
  name := name
  absent := .null
  read v := Criteria.located [name] (Lax.optional read v)
  write := Criteria.optionValue write
  get := get
  rereads := (h.optional hnull).located [name]

def maxIters : Setting (Option Nat) :=
  optional "max_iters" Lax.natural (fun n => .int n) (·.criteria.maxIters) Lax.natural_rereads
    fun _ => Value.noConfusion

def targetCost : Setting (Option Float) :=
  optional "target_cost" Lax.float .float (·.criteria.targetCost) Lax.float_rereads
    fun _ => Value.noConfusion

def maxTime : Setting (Option Float) :=
  optional "max_time" Lax.duration .float (·.criteria.maxTime) Lax.duration_rereads
    fun _ => Value.noConfusion

def noImprovementThreshold : Setting (Option Period) :=
  optional "no_improvement_threshold" Lax.period (fun p => .int p.count)
    (·.criteria.noImprovementThreshold) Lax.period_rereads fun _ => Value.noConfusion

def maxEvaluations : Setting (Table Period) where
  name := "max_evaluations"
  absent := .dict []
  read := Criteria.readBudgets
  write := Criteria.budgetsValue
  get := (·.criteria.maxEvaluations)
  rereads := Criteria.budgets_rereads

def timer : Setting Bool where
  name := "timer"
  absent := .bool true
  read v := Criteria.located ["timer"] (Lax.truth v)
  write := .bool
  get := (·.timer)
  rereads := Lax.truth_rereads.located ["timer"]

def runName : Setting (Option String) :=
  optional "run_name" Lax.text .text (·.runName) Lax.text_rereads fun _ => Value.noConfusion

def all : List (Σ α : Type, Setting α) :=
  [⟨_, maxIters⟩, ⟨_, targetCost⟩, ⟨_, maxTime⟩, ⟨_, noImprovementThreshold⟩,
    ⟨_, maxEvaluations⟩, ⟨_, timer⟩, ⟨_, runName⟩]

end Setting

namespace Settings

variable {c d : Settings} {t u : Table Value}

/-- The settings as named values, in order. -/
theorem entries_toSettings (c : Settings) : c.toSettings.entries =
    Setting.all.map fun x => (x.2.name, x.2.write (x.2.get c)) := by
  simp [toSettings, Criteria.toSettings, Table.ofList, Table.insert, Table.put, Table.empty,
    Setting.all, Setting.maxIters, Setting.targetCost, Setting.maxTime,
    Setting.noImprovementThreshold, Setting.maxEvaluations, Setting.timer, Setting.runName,
    Setting.optional]
  cases c.criteria.maxIters <;> rfl

theorem get?_toSettings (c : Settings) {x : Σ α : Type, Setting α} (hx : x ∈ Setting.all) :
    c.toSettings.get? x.2.name = some (x.2.write (x.2.get c)) := by
  unfold Table.get?
  rw [entries_toSettings]
  simp only [Setting.all, List.mem_cons, List.not_mem_nil, or_false] at hx
  rcases hx with rfl | rfl | rfl | rfl | rfl | rfl | rfl <;>
    simp [Setting.all, Setting.maxIters, Setting.targetCost, Setting.maxTime,
      Setting.noImprovementThreshold, Setting.maxEvaluations, Setting.timer, Setting.runName,
      Setting.optional]

/-! ## All settings at once -/

theorem entries_select (names : List String) (t : Table Value) :
    (select names t).entries = t.entries.filter fun e => names.contains e.1 :=
  Table.entries_ofList (t.distinct.sublist (List.filter_sublist.map _))

theorem get?_select {names : List String} {k : String} (hk : k ∈ names) (t : Table Value) :
    (select names t).get? k = t.get? k := by
  unfold Table.get?
  rw [entries_select, List.find?_filter]
  congr 2
  funext e
  by_cases he : e.1 = k
  · simp [he, hk]
  · simp [he]

theorem unknown_select (names : List String) (t : Table Value) :
    (select names t).keys.filter (fun k => !names.contains k) = [] := by
  unfold Table.keys
  rw [entries_select, List.filter_eq_nil_iff]
  intro k hk
  obtain ⟨e, he, rfl⟩ := List.mem_map.mp hk
  have hmem := (List.mem_filter.mp he).2
  rw [hmem]
  exact Bool.false_ne_true

/-- Named values that give the same for every setting. -/
def ReadAlike (t u : Table Value) : Prop := ∀ x ∈ Setting.all, x.2.within t = x.2.within u

/-- Settings that are what named values give for every one of them. -/
def ReadFrom (t : Table Value) (c : Settings) : Prop :=
  ∀ x ∈ Setting.all, x.2.within t = .ok (x.2.get c)

theorem readAlike_iff : ReadAlike t u ↔
    Setting.maxIters.within t = Setting.maxIters.within u ∧
    Setting.targetCost.within t = Setting.targetCost.within u ∧
    Setting.maxTime.within t = Setting.maxTime.within u ∧
    Setting.noImprovementThreshold.within t = Setting.noImprovementThreshold.within u ∧
    Setting.maxEvaluations.within t = Setting.maxEvaluations.within u ∧
    Setting.timer.within t = Setting.timer.within u ∧
    Setting.runName.within t = Setting.runName.within u := by
  simp [ReadAlike, Setting.all]

/-- The criteria that five readings give together: all of them, or every
complaint about them. -/
def gathered (a : Except (List Issue) (Option Nat)) (b c : Except (List Issue) (Option Float))
    (d : Except (List Issue) (Option Period)) (e : Except (List Issue) (Table Period)) :
    Except (List Issue) Criteria :=
  match a, b, c, d, e with
  | .ok a, .ok b, .ok c, .ok d, .ok e => .ok ⟨a, b, c, d, e⟩
  | a, b, c, d, e => .error (Criteria.issuesOf a ++ Criteria.issuesOf b ++ Criteria.issuesOf c ++
      Criteria.issuesOf d ++ Criteria.issuesOf e)

theorem gathered_eq_ok {a : Except (List Issue) (Option Nat)}
    {b c : Except (List Issue) (Option Float)} {d : Except (List Issue) (Option Period)}
    {e : Except (List Issue) (Table Period)} {k : Criteria} : gathered a b c d e = .ok k ↔
      a = .ok k.maxIters ∧ b = .ok k.targetCost ∧ c = .ok k.maxTime ∧
        d = .ok k.noImprovementThreshold ∧ e = .ok k.maxEvaluations := by
  constructor
  · intro h
    unfold gathered at h
    split at h
    · cases h
      simp
    · cases h
  · rintro ⟨rfl, rfl, rfl, rfl, rfl⟩
    rfl

/-- The criteria are gathered setting by setting. -/
theorem criteria_eq (t : Table Value) :
    Criteria.ofSettings (select Criteria.settingNames t) =
      gathered (Setting.maxIters.within t) (Setting.targetCost.within t)
        (Setting.maxTime.within t) (Setting.noImprovementThreshold.within t)
        (Setting.maxEvaluations.within t) := by
  have hget : ∀ k ∈ Criteria.settingNames,
      (select Criteria.settingNames t).get? k = t.get? k := fun k hk => get?_select hk t
  unfold Criteria.ofSettings
  dsimp only
  rw [unknown_select, hget "max_iters" (by simp [Criteria.settingNames]),
    hget "target_cost" (by simp [Criteria.settingNames]),
    hget "max_time" (by simp [Criteria.settingNames]),
    hget "no_improvement_threshold" (by simp [Criteria.settingNames]),
    hget "max_evaluations" (by simp [Criteria.settingNames]), List.map_nil, List.append_nil]
  show _ = gathered
    (Criteria.located ["max_iters"] (Lax.optional Lax.natural ((t.get? "max_iters").getD .null)))
    (Criteria.located ["target_cost"] (Lax.optional Lax.float ((t.get? "target_cost").getD .null)))
    (Criteria.located ["max_time"] (Lax.optional Lax.duration ((t.get? "max_time").getD .null)))
    (Criteria.located ["no_improvement_threshold"]
      (Lax.optional Lax.period ((t.get? "no_improvement_threshold").getD .null)))
    (Criteria.readBudgets ((t.get? "max_evaluations").getD (.dict [])))
  unfold gathered
  split
  · rename_i h1 h2 h3 h4 h5 _
    rw [h1, h2, h3, h4, h5]
  · rename_i h
    split
    · rename_i h1 h2 h3 h4 h5
      exact absurd rfl (h _ _ _ _ _ h1 h2 h3 h4 h5)
    · rfl

/-- What is read depends on nothing but what is given for every setting. -/
theorem ofSettings_congr (h : ReadAlike t u) : ofSettings t = ofSettings u := by
  obtain ⟨h1, h2, h3, h4, h5, h6, h7⟩ := readAlike_iff.mp h
  have hcriteria : Criteria.ofSettings (select Criteria.settingNames t) =
      Criteria.ofSettings (select Criteria.settingNames u) := by
    rw [criteria_eq, criteria_eq, h1, h2, h3, h4, h5]
  unfold ofSettings
  rw [hcriteria]
  have htimer : Criteria.located ["timer"] (Lax.truth ((t.get? "timer").getD (.bool true))) =
      Criteria.located ["timer"] (Lax.truth ((u.get? "timer").getD (.bool true))) := h6
  have hname : Criteria.located ["run_name"]
      (Lax.optional Lax.text ((t.get? "run_name").getD .null)) =
        Criteria.located ["run_name"]
          (Lax.optional Lax.text ((u.get? "run_name").getD .null)) := h7
  rw [htimer, hname]

theorem readFrom_iff : ReadFrom t c ↔
    Setting.maxIters.within t = .ok c.criteria.maxIters ∧
    Setting.targetCost.within t = .ok c.criteria.targetCost ∧
    Setting.maxTime.within t = .ok c.criteria.maxTime ∧
    Setting.noImprovementThreshold.within t = .ok c.criteria.noImprovementThreshold ∧
    Setting.maxEvaluations.within t = .ok c.criteria.maxEvaluations ∧
    Setting.timer.within t = .ok c.timer ∧
    Setting.runName.within t = .ok c.runName := by
  simp only [ReadFrom, Setting.all, List.forall_mem_cons, List.not_mem_nil, false_implies,
    implies_true, and_true]
  rfl

/-- Reading gives the settings that are given one by one, if all of them are. -/
theorem ofSettings_eq_ok : ofSettings t = .ok c ↔ ReadFrom t c := by
  have htimer : Setting.timer.within t =
    Criteria.located ["timer"] (Lax.truth ((t.get? "timer").getD (.bool true))) := rfl
  have hname : Setting.runName.within t = Criteria.located ["run_name"]
    (Lax.optional Lax.text ((t.get? "run_name").getD .null)) := rfl
  rw [readFrom_iff, htimer, hname]
  unfold ofSettings
  constructor
  · intro h
    cases hk : Criteria.ofSettings (select Criteria.settingNames t) with
    | error is =>
      rw [hk] at h
      cases h
    | ok k =>
      rw [hk] at h
      rw [criteria_eq, gathered_eq_ok] at hk
      dsimp only [bind, Except.bind] at h
      split at h
      · rename_i ha hb
        cases h
        exact ⟨hk.1, hk.2.1, hk.2.2.1, hk.2.2.2.1, hk.2.2.2.2, ha, hb⟩
      · cases h
  · rintro ⟨h1, h2, h3, h4, h5, h6, h7⟩
    have hk : Criteria.ofSettings (select Criteria.settingNames t) = .ok c.criteria := by
      rw [criteria_eq, gathered_eq_ok]
      exact ⟨h1, h2, h3, h4, h5⟩
    rw [hk, h6, h7]
    rfl

/-! ## Changes over changes -/

/-- A value that is named anew counts, and what is not named stays as given. -/
theorem within_merge {α : Type} (x : Setting α) (t u : Table Value) :
    x.within (t.merge u) = match u.get? x.name with
      | some v => x.read v
      | none => x.within t := by
  unfold Setting.within
  rw [Table.get?_merge]
  cases u.get? x.name <;> rfl

theorem ReadAlike.merge (h : ReadAlike t u) (s : Table Value) :
    ReadAlike (t.merge s) (u.merge s) := by
  intro x hx
  rw [within_merge, within_merge, h x hx]

/-- It does not matter which of three layers are put together first. -/
theorem readAlike_assoc (s t u : Table Value) :
    ReadAlike ((s.merge t).merge u) (s.merge (t.merge u)) := by
  intro x _
  unfold Setting.within
  rw [Table.get?_merge, Table.get?_merge, Table.get?_merge, Table.get?_merge, Option.or_assoc]

/-- Layers without a name in common can change places. -/
theorem readAlike_swap (c : Table Value) (h : ∀ k ∈ t.keys, k ∉ u.keys) :
    ReadAlike (c.merge (t.merge u)) (c.merge (u.merge t)) := by
  intro x _
  unfold Setting.within
  simp only [Table.get?_merge]
  by_cases ht : x.2.name ∈ t.keys
  · have hu : u.get? x.2.name = none := by
      simpa [Table.mem_keys] using h _ ht
    rw [hu, Option.none_or, Option.or_none]
  · have hnone : t.get? x.2.name = none := by
      simpa [Table.mem_keys] using ht
    rw [hnone, Option.or_none, Option.none_or]

theorem ReadFrom.again (h : ReadFrom t c) : ReadFrom c.toSettings c := by
  intro x hx
  unfold Setting.within
  rw [get?_toSettings c hx]
  exact x.2.rereads.again (h x hx)

theorem ReadFrom.readAlike (h : ReadFrom t c) : ReadAlike c.toSettings t := by
  intro x hx
  rw [h.again x hx, h x hx]

/-! ## Changes of settings -/

/-- The names of all changes are those of settings. -/
def Known (t : Table Value) : Prop := ∀ k ∈ t.keys, isKnown k = true

theorem Known.merge (ht : Known t) (hu : Known u) : Known (t.merge u) := by
  intro k hk
  rw [Table.keys_merge] at hk
  rcases List.mem_append.mp hk with h | h
  · exact ht k h
  · exact hu k (List.mem_filter.mp h).1

theorem Known.self (h : Known t) : t.contains "self" = false := by
  by_contra hself
  rw [Bool.not_eq_false, Table.contains_eq, ← Table.mem_keys] at hself
  have hknown := h "self" hself
  simp [isKnown, Criteria.settingNames, ownNames] at hknown

theorem Known.find (h : Known t) : t.keys.find? (fun k => !isKnown k) = none := by
  rw [List.find?_eq_none]
  intro k hk
  simp [h k hk]

theorem updated_known (h : Known t) (c : Settings) : c.updated t =
    (ofSettings (c.toSettings.merge t)).mapError fun is => .configuration (.refused is) := by
  simp [updated, h.self, h.find]

/-- Changes are accepted if their names are known and everything can be read. -/
theorem updated_eq_ok : c.updated t = .ok d ↔ Known t ∧ ReadFrom (c.toSettings.merge t) d := by
  constructor
  · intro h
    have hknown : Known t := by
      intro k hk
      by_contra hunknown
      unfold updated at h
      split at h
      · cases h
      · split at h
        · cases h
        · rename_i hnone
          rw [List.find?_eq_none] at hnone
          exact hnone k hk (by simpa using hunknown)
    rw [updated_known hknown] at h
    exact ⟨hknown, ofSettings_eq_ok.mp (mapError_ok h)⟩
  · rintro ⟨hknown, hread⟩
    rw [updated_known hknown, ofSettings_eq_ok.mpr hread]
    rfl

theorem known_of_updated (h : c.updated t = .ok d) : Known t := (updated_eq_ok.mp h).1

theorem readFrom_of_updated (h : c.updated t = .ok d) : ReadFrom (c.toSettings.merge t) d :=
  (updated_eq_ok.mp h).2

/-- Changes over accepted changes come to the same as both at once, also where
they are refused. -/
theorem updated_updated (h : c.updated t = .ok d) (u : Table Value) :
    d.updated u = c.updated (t.merge u) := by
  have hknown := known_of_updated h
  have hread := readFrom_of_updated h
  have hself : (t.merge u).contains "self" = u.contains "self" := by
    have hnone : t.get? "self" = none := by
      have hself := hknown.self
      rw [Table.contains_eq] at hself
      simpa using hself
    rw [Table.contains_eq, Table.contains_eq, Table.get?_merge, hnone, Option.or_none]
  have hfind : (t.merge u).keys.find? (fun k => !isKnown k) =
      u.keys.find? fun k => !isKnown k := by
    rw [Table.keys_merge, List.find?_append, hknown.find, Option.none_or, List.find?_filter]
    congr 1
    funext k
    by_cases hk : isKnown k = true
    · simp [hk]
    · have hnew : k ∉ t.keys := fun hmem => hk (hknown k hmem)
      simp [hk, hnew]
  have hsame : ofSettings (d.toSettings.merge u) = ofSettings (c.toSettings.merge (t.merge u)) := by
    rw [ofSettings_congr (hread.readAlike.merge u), ofSettings_congr (readAlike_assoc _ _ _)]
  unfold updated
  rw [hself, hfind, hsame]

/-- Settings as they can come about: they were read. -/
def Proper (c : Settings) : Prop := ∃ t, ofSettings t = .ok c

theorem Proper.readFrom (h : c.Proper) : ReadFrom c.toSettings c := by
  obtain ⟨t, ht⟩ := h
  exact (ofSettings_eq_ok.mp ht).again

theorem proper_of_updated (h : c.updated t = .ok d) : d.Proper :=
  ⟨_, ofSettings_eq_ok.mpr (readFrom_of_updated h)⟩

theorem standard_proper : standard.Proper := ⟨.empty, rfl⟩

theorem exists_readFrom (h : ∀ x ∈ Setting.all, ∃ a, x.2.within t = .ok a) :
    ∃ c, ReadFrom t c := by
  simp only [Setting.all, List.forall_mem_cons, List.not_mem_nil, false_implies, implies_true,
    and_true] at h
  obtain ⟨⟨a1, h1⟩, ⟨a2, h2⟩, ⟨a3, h3⟩, ⟨a4, h4⟩, ⟨a5, h5⟩, ⟨a6, h6⟩, ⟨a7, h7⟩⟩ := h
  exact ⟨⟨⟨a1, a2, a3, a4, a5⟩, a6, a7⟩, readFrom_iff.mpr ⟨h1, h2, h3, h4, h5, h6, h7⟩⟩

/-- What is accepted over other changes is accepted without them. -/
theorem accepted_apart {e : Settings} (hc : c.Proper) (hd : d.updated u = .ok e) :
    ∃ e', c.updated u = .ok e' := by
  have hknown := known_of_updated hd
  have hread := readFrom_of_updated hd
  obtain ⟨e', he'⟩ : ∃ e', ReadFrom (c.toSettings.merge u) e' := by
    apply exists_readFrom
    intro x hx
    have hgiven := hread x hx
    rw [within_merge] at hgiven ⊢
    cases hu : u.get? x.2.name with
    | some v =>
      rw [hu] at hgiven
      exact ⟨_, hgiven⟩
    | none => exact ⟨_, hc.readFrom x hx⟩
  exact ⟨e', updated_eq_ok.mpr ⟨hknown, he'⟩⟩

theorem get_of_named (h : c.updated t = .ok d) {x : Σ α : Type, Setting α}
    (hx : x ∈ Setting.all) {v : Value} (hv : t.get? x.2.name = some v) :
    x.2.read v = .ok (x.2.get d) := by
  have hread := readFrom_of_updated h x hx
  rw [within_merge, hv] at hread
  exact hread

/-- A setting that is not named keeps its value. -/
theorem get_of_unnamed (h : c.updated t = .ok d) {x : Σ α : Type, Setting α}
    (hx : x ∈ Setting.all) (hname : x.2.name ∉ t.keys) : x.2.get d = x.2.get c := by
  have hread := readFrom_of_updated h x hx
  have hnone : t.get? x.2.name = none := by
    simpa [Table.mem_keys] using hname
  rw [within_merge, hnone] at hread
  unfold Setting.within at hread
  rw [get?_toSettings c hx] at hread
  exact x.2.rereads.faithful hread

theorem toSettings_of_unnamed (h : c.updated t = .ok d) {name : String} (hname : name ∉ t.keys) :
    d.toSettings.get? name = c.toSettings.get? name := by
  by_cases hx : ∃ x ∈ Setting.all, x.2.name = name
  · obtain ⟨x, hx, rfl⟩ := hx
    rw [get?_toSettings d hx, get?_toSettings c hx, get_of_unnamed h hx hname]
  · have hno : ∀ c : Settings, c.toSettings.get? name = none := by
      intro c
      have hmem : name ∉ c.toSettings.keys := by
        intro hmem
        unfold Table.keys at hmem
        rw [entries_toSettings, List.map_map] at hmem
        obtain ⟨x, hmem, hsame⟩ := List.mem_map.mp hmem
        exact hx ⟨x, hmem, hsame⟩
      simpa [Table.mem_keys] using hmem
    rw [hno, hno]

/-! ## The laws -/

/-- Changes by name, of anything that has settings: what has been changed by `s`,
from `c` to `d`, can be changed on as if all changes were made at once, in
either order if they have no name in common, and not at all by the same changes
again. What `s` names is what was read there, and all else is as before. -/
structure Amended {σ : Type} (change : σ → Table Value → Except Fault σ) (settings : σ → Settings)
    (c d : σ) (s : Table Value) : Prop where
  upon : ∀ t, change d t = change c (s.merge t)
  either : ∀ t e, (∀ k ∈ s.keys, k ∉ t.keys) →
    (change d t = .ok e ↔ ∃ d', change c t = .ok d' ∧ change d' s = .ok e)
  again : change d s = .ok d
  named : ∀ x ∈ Setting.all, ∀ v, s.get? x.2.name = some v → x.2.read v = .ok (x.2.get (settings d))
  unnamed : ∀ name, name ∉ s.keys →
    (settings d).toSettings.get? name = (settings c).toSettings.get? name

/-- Changes over themselves are the same changes. -/
theorem readAlike_self (c t : Table Value) : ReadAlike (c.merge (t.merge t)) (c.merge t) := by
  intro x _
  unfold Setting.within
  simp [Table.get?_merge]

theorem amended (hc : c.Proper) (h : c.updated t = .ok d) : Amended updated id c d t where
  upon := updated_updated h
  either := by
    intro u e hapart
    have hknown := known_of_updated h
    have hswap : Known u → c.updated (t.merge u) = c.updated (u.merge t) := by
      intro hu
      rw [updated_known (hknown.merge hu), updated_known (hu.merge hknown),
        ofSettings_congr (readAlike_swap _ hapart)]
    constructor
    · intro he
      obtain ⟨d', hd'⟩ := accepted_apart hc he
      refine ⟨d', hd', ?_⟩
      rw [updated_updated hd', ← hswap (known_of_updated hd'), ← updated_updated h]
      exact he
    · rintro ⟨d', hd', he⟩
      rw [updated_updated h, hswap (known_of_updated hd'), ← updated_updated hd']
      exact he
  again := by
    have hknown := known_of_updated h
    rw [updated_updated h, updated_known (hknown.merge hknown),
      ofSettings_congr (readAlike_self _ t), ← updated_known hknown, h]
  named _ hx _ hv := get_of_named h hx hv
  unnamed _ hname := toSettings_of_unnamed h hname

end Settings

variable {τ : Type}

theorem Executor.configure_created {x : Executor τ} (hx : x.phase = .created) (t : Table Value) :
    x.configure t = (x.settings.updated t).map fun s => { x with settings := s } := by
  unfold Executor.configure Executor.require
  rw [if_pos hx]
  cases x.settings.updated t <;> rfl

/-- The laws of the settings are those of the executor that has them. -/
theorem Executor.amended {x : Executor τ} {d : Settings} {t : Table Value}
    (hx : x.phase = .created) (h : Settings.Amended Settings.updated id x.settings d t) :
    Settings.Amended Executor.configure Executor.settings x { x with settings := d } t where
  upon u := by
    rw [configure_created hx, configure_created (x := { x with settings := d }) hx]
    exact congrArg (Except.map _) (h.upon u)
  either := by
    intro u y hapart
    have hconfigure : ∀ (s : Settings) (v : Table Value),
        ({ x with settings := s } : Executor τ).configure v = .ok y ↔
          ∃ e, s.updated v = .ok e ∧ ({ x with settings := e } : Executor τ) = y := by
      intro s v
      rw [configure_created (x := { x with settings := s }) hx]
      cases s.updated v <;> simp [Except.map]
    rw [hconfigure]
    constructor
    · rintro ⟨e, he, rfl⟩
      obtain ⟨d', hd', he'⟩ := (h.either u e hapart).mp he
      refine ⟨{ x with settings := d' }, ?_, ?_⟩
      · rw [configure_created hx, hd']
        rfl
      · exact (hconfigure d' t).mpr ⟨e, he', rfl⟩
    · rintro ⟨y', hy', hy⟩
      rw [configure_created hx] at hy'
      cases hd' : x.settings.updated u with
      | error f =>
        rw [hd'] at hy'
        cases hy'
      | ok d' =>
        rw [hd'] at hy'
        cases hy'
        obtain ⟨e, he, rfl⟩ := (hconfigure d' t).mp hy
        exact ⟨e, (h.either u e hapart).mpr ⟨d', hd', he⟩, rfl⟩
  again := by
    rw [configure_created (x := { x with settings := d }) hx]
    exact congrArg (Except.map _) h.again
  named := h.named
  unnamed := h.unnamed

namespace Settings

/-- The last writer wins. Once changes have been accepted, all further changes
come to the same as both at once, the later over the earlier, also where they
are refused; so accepted changes without a name in common can change places,
the same changes again change nothing, and what is not named stays as it is.
The same holds of an executor that is configured before it runs. -/
theorem the_last_writer_wins {c d : Settings} {s : Table Value} (hc : c.Proper)
    (h : c.updated s = .ok d) :
    d.Proper ∧ Amended updated id c d s ∧
      ∀ x : Executor τ, x.phase = .created → x.settings = c →
        x.configure s = .ok { x with settings := d } ∧
          Amended Executor.configure Executor.settings x { x with settings := d } s := by
  refine ⟨proper_of_updated h, amended hc h, ?_⟩
  rintro x hx rfl
  refine ⟨?_, Executor.amended hx (amended hc h)⟩
  rw [Executor.configure_created hx, h]
  rfl

/-- The law where a numeral, a truth value and a dictionary of limits are
laid over the standard settings. -/
theorem the_last_writer_wins_over_the_standard :
    ∃ d, standard.updated (.ofList [("max_iters", .text " +05.0 "), ("timer", .int 0),
        ("max_evaluations", .dict [(.text "cost_count", .bool true)])]) = .ok d ∧
      d.criteria.maxIters = some 5 ∧ d.timer = false ∧
      Amended updated id standard d (.ofList [("max_iters", .text " +05.0 "), ("timer", .int 0),
        ("max_evaluations", .dict [(.text "cost_count", .bool true)])]) := by
  refine ⟨⟨⟨some 5, none, none, none, .ofList [("cost_count", ⟨1, by decide⟩)]⟩, false, none⟩,
    ?_, rfl, rfl, ?_⟩
  · rfl
  · exact (the_last_writer_wins (τ := Float) standard_proper rfl).2.1

end Settings

end Minimize
