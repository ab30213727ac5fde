-- A table: values under distinct names, in the order in which the names
-- first came. To insert under a name that stands keeps its place. The keys
-- are distinct by construction, so the order of a table is its only freedom.

namespace Minimize

universe u v

/-- Values under distinct names, in order. -/
structure Table (α : Type u) where
  entries : List (String × α)
  distinct : (entries.map (·.1)).Nodup

namespace Table

variable {α : Type u} {β : Type v}

/-- The entries with `value` under `key`: in place if the key stands, at
the end if not. -/
def put (key : String) (value : α) : List (String × α) → List (String × α)
  | [] => [(key, value)]
  | (k, v) :: rest => if k = key then (k, value) :: rest else (k, v) :: put key value rest

theorem mem_keys_put {key k : String} {value : α} {es : List (String × α)} :
    k ∈ (put key value es).map (·.1) ↔ k = key ∨ k ∈ es.map (·.1) := by
  induction es with
  | nil => simp [put]
  | cons e rest ih =>
    obtain ⟨k', v⟩ := e
    by_cases h : k' = key
    · subst h
      simp [put]
    · simp only [put, h, if_false, List.map_cons, List.mem_cons, ih]
      constructor
      · rintro (h1 | h1 | h1) <;> simp [h1]
      · rintro (h1 | h1 | h1) <;> simp [h1]

theorem nodup_put (key : String) (value : α) {es : List (String × α)}
    (h : (es.map (·.1)).Nodup) : ((put key value es).map (·.1)).Nodup := by
  induction es with
  | nil => simp [put]
  | cons e rest ih =>
    obtain ⟨k, v⟩ := e
    simp only [List.map_cons, List.nodup_cons] at h
    by_cases hk : k = key
    · simp only [put, hk, if_true, List.map_cons, List.nodup_cons]
      exact ⟨hk ▸ h.1, h.2⟩
    · simp only [put, hk, if_false, List.map_cons, List.nodup_cons]
      refine ⟨fun hm => ?_, ih h.2⟩
      rcases mem_keys_put.mp hm with h1 | h1
      · exact hk h1
      · exact h.1 h1

theorem put_append {key : String} {es : List (String × α)} (h : key ∉ es.map (·.1)) (value : α) :
    put key value es = es ++ [(key, value)] := by
  induction es with
  | nil => rfl
  | cons e rest ih =>
    simp only [List.map_cons, List.mem_cons, not_or] at h
    unfold put
    rw [if_neg (Ne.symm h.1), ih h.2]
    rfl

/-- No value at all. -/
def empty : Table α := ⟨[], List.nodup_nil⟩

instance : Inhabited (Table α) := ⟨empty⟩

@[ext] theorem ext {s t : Table α} (h : s.entries = t.entries) : s = t := by
  cases s
  cases t
  cases h
  rfl

instance [DecidableEq α] : DecidableEq (Table α) := fun s t =>
  if h : s.entries = t.entries then isTrue (ext h)
  else isFalse fun e => h (congrArg entries e)

def size (t : Table α) : Nat := t.entries.length

def keys (t : Table α) : List String := t.entries.map (·.1)

/-- The value under a key. -/
def get? (t : Table α) (key : String) : Option α :=
  (t.entries.find? (fun e => e.1 = key)).map (·.2)

def contains (t : Table α) (key : String) : Bool := t.entries.any (fun e => e.1 = key)

def insert (t : Table α) (key : String) (value : α) : Table α :=
  ⟨put key value t.entries, nodup_put key value t.distinct⟩

/-- The table without a key. -/
def erase (t : Table α) (key : String) : Table α :=
  ⟨t.entries.filter (fun e => e.1 ≠ key),
    t.distinct.sublist (List.filter_sublist.map _)⟩

/-- The entries of `more` over those of `t`. -/
def merge (t more : Table α) : Table α :=
  more.entries.foldl (fun s e => s.insert e.1 e.2) t

def ofList (es : List (String × α)) : Table α :=
  es.foldl (fun s e => s.insert e.1 e.2) empty

/-- The same keys with changed values. -/
def map (f : α → β) (t : Table α) : Table β :=
  ⟨t.entries.map (fun e => (e.1, f e.2)), by
    have h := t.distinct
    rwa [show (t.entries.map (fun e => (e.1, f e.2))).map (·.1) = t.entries.map (·.1) by
      simp [List.map_map, Function.comp_def]]⟩

end Table

end Minimize
