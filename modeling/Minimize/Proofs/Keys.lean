-- Which texts are keys. A key is a plain name: of letters, digits and three
-- marks, and not one of the two names that every directory has. But a line feed
-- at the end is passed over, even behind those two names.
import Minimize.Checkpoint.Policy
import Minimize.Proofs.Filing

namespace Minimize.Checkpoint

variable {τ : Type}

/-! ## Plain names -/

/-- A character that may stand in a name: an ASCII letter, a digit, or one of
three marks. -/
def Permitted (c : Char) : Prop := c.isAlphanum = true ∨ c = '_' ∨ c = '.' ∨ c = '-'

/-- A name as it is meant to be: permitted characters, at least one, and neither
the folder itself nor the one above it. -/
structure Plain (s : String) : Prop where
  nonempty : s ≠ ""
  permitted : ∀ c ∈ s.toList, Permitted c
  notHere : s ≠ "."
  notAbove : s ≠ ".."

/-- A name that passes: a plain one, or permitted characters, at least one, with
a line feed behind them. -/
def Passes (s : String) : Prop :=
  Plain s ∨ ∃ row, s = row ++ "\n" ∧ row ≠ "" ∧ ∀ c ∈ row.toList, Permitted c

theorem isKeyChar_iff (c : Char) : isKeyChar c = true ↔ Permitted c := by
  unfold isKeyChar Permitted Char.isAlphanum Char.isAlpha Char.isUpper Char.isLower Char.isDigit
  simp only [Bool.or_eq_true, Bool.and_eq_true, decide_eq_true_eq, beq_iff_eq,
    UInt32.le_iff_toNat_le, ge_iff_le]
  change (((((65 ≤ c.toNat ∧ c.toNat ≤ 90) ∨ (97 ≤ c.toNat ∧ c.toNat ≤ 122)) ∨
      (48 ≤ c.toNat ∧ c.toNat ≤ 57)) ∨ c = '_') ∨ c = '.') ∨ c = '-' ↔
    (((65 ≤ c.toNat ∧ c.toNat ≤ 90) ∨ (97 ≤ c.toNat ∧ c.toNat ≤ 122)) ∨
      (48 ≤ c.toNat ∧ c.toNat ≤ 57)) ∨ c = '_' ∨ c = '.' ∨ c = '-'
  rw [or_assoc, or_assoc]

theorem not_permitted_feed : ¬ Permitted '\n' := by
  rw [← isKeyChar_iff]
  decide

/-! ## The line feed at the end -/

/-- A line feed at the end is dropped, and nothing else is. -/
theorem withoutLineEnd_cases (cs : List Char) :
    (∃ row, cs = row ++ ['\n'] ∧ withoutLineEnd cs = row) ∨
      (cs.getLast? ≠ some '\n' ∧ withoutLineEnd cs = cs) := by
  unfold withoutLineEnd
  split
  · rename_i hlast
    obtain ⟨row, rfl⟩ := List.getLast?_eq_some_iff.mp hlast
    exact .inl ⟨row, rfl, by simp⟩
  · rename_i hlast
    exact .inr ⟨hlast, rfl⟩

theorem isKey_of_row {s : String} {row : List Char} (hrow : withoutLineEnd s.toList = row) :
    isKey s = true ↔ row ≠ [] ∧ (∀ c ∈ row, Permitted c) ∧ s ≠ "." ∧ s ≠ ".." := by
  unfold isKey
  simp only [hrow, Bool.and_eq_true, Bool.not_eq_true', List.isEmpty_eq_false_iff,
    List.all_eq_true, isKeyChar_iff, bne_iff_ne]
  tauto

theorem Plain.getLast?_ne {s : String} (h : Plain s) : s.toList.getLast? ≠ some '\n' :=
  fun hlast => not_permitted_feed (h.permitted _ (List.mem_of_getLast? hlast))

/-- The check of keys lets exactly the names pass that are said to pass. -/
theorem isKey_iff (s : String) : isKey s = true ↔ Passes s := by
  rcases withoutLineEnd_cases s.toList with ⟨row, hs, hrow⟩ | ⟨hlast, hrow⟩
  · rw [isKey_of_row hrow]
    constructor
    · rintro ⟨hne, hall, -, -⟩
      refine .inr ⟨String.ofList row, ?_, by simpa using hne, by simpa using hall⟩
      rw [← String.toList_inj, hs]
      simp
    · rintro (hplain | ⟨text, rfl, hne, hall⟩)
      · exact absurd (by rw [hs]; simp) hplain.getLast?_ne
      · obtain rfl : text.toList = row := by simpa using hs
        have hapart (name : String) (hname : name.toList.getLast? ≠ some '\n') :
            text ++ "\n" ≠ name := by
          rintro rfl
          simp at hname
        exact ⟨by simpa using hne, hall, hapart "." (by decide), hapart ".." (by decide)⟩
  · rw [isKey_of_row hrow]
    constructor
    · rintro ⟨hne, hall, hhere, habove⟩
      exact .inl ⟨by simpa using hne, hall, hhere, habove⟩
    · rintro (hplain | ⟨text, rfl, -, -⟩)
      · exact ⟨by simpa using hplain.nonempty, hplain.permitted, hplain.notHere, hplain.notAbove⟩
      · exact absurd (by simp) hlast

/-! ## The law -/

theorem validateKey_of_passes {v : Value} {k : String} (hv : v.text? = some k) (hk : Passes k) :
    validateKey v = .ok k := by
  unfold validateKey
  rw [hv]
  exact if_pos ((isKey_iff k).mpr hk)

theorem validateKey_of_not_passes {v : Value} (h : ∀ k, v.text? = some k → ¬ Passes k) :
    validateKey v = .error (.configuration (.badKey v.shown)) := by
  unfold validateKey
  cases hv : v.text? with
  | none => rfl
  | some k => exact if_neg fun hkey => h k hv ((isKey_iff k).mp hkey)

/-- A value is taken for a key if it is a text that passes: a plain name, or any
row of permitted characters with a line feed behind it. Then a policy for the run
has it as its key, and a store in memory saves under it. Every other text and
every value that is no text is refused as a configuration; the refusal shows the
value, there is no policy, and nothing is saved. -/
theorem a_key_is_plain_or_ends_its_line (v : Value) (cabinet : String) (x : Store τ)
    (frequency : Frequency) (fatal resume : Bool) (s : Snapshot τ) (c : Cabinet τ) :
    (∃ k, v.text? = some k ∧ Passes k ∧ validateKey v = .ok k ∧
      Policy.create cabinet (.proper x) v frequency fatal resume =
        .ok ⟨cabinet, x, k, frequency, fatal, resume, none⟩ ∧
      Memory.save v s c = (match s.serialized k with
        | .ok p => (Memory.put k p c, .ok ())
        | .error f => (c, .error f))) ∨
    ((∀ k, v.text? = some k → ¬ Passes k) ∧
      validateKey v = .error (.configuration (.badKey v.shown)) ∧
      Policy.create cabinet (.proper x) v frequency fatal resume =
        .error (.configuration (.badKey v.shown)) ∧
      Memory.save v s c = (c, .error (.configuration (.badKey v.shown)))) := by
  by_cases h : ∃ k, v.text? = some k ∧ Passes k
  · obtain ⟨k, hv, hk⟩ := h
    have hvalid := validateKey_of_passes hv hk
    refine .inl ⟨k, hv, hk, hvalid, ?_, ?_⟩
    · unfold Policy.create
      rw [hvalid]
      rfl
    · unfold Memory.save
      rw [hvalid]
      dsimp only [bind, Except.bind]
      cases s.serialized k <;> rfl
  · have hnone : ∀ k, v.text? = some k → ¬ Passes k := fun k hv hk => h ⟨k, hv, hk⟩
    have hrefused := validateKey_of_not_passes hnone
    refine .inr ⟨hnone, hrefused, ?_, ?_⟩
    · unfold Policy.create
      rw [hrefused]
      rfl
    · unfold Memory.save
      rw [hrefused]
      rfl

/-- A line feed at the end passes, though it is no character of a name. -/
theorem a_line_feed_can_end_a_key :
    validateKey (.text "k\n") = .ok "k\n" ∧ ¬ Plain "k\n" := by
  refine ⟨by decide, fun h => h.getLast?_ne (by decide)⟩

end Minimize.Checkpoint
