-- A store in a folder answers as a store in memory does, but for one save. What
-- stands in the one under a key stands in the other, and beside each payload stands
-- the information about it; every operation keeps it so. But if the iteration of a
-- snapshot has too many digits, the payload is put in its place and the information
-- stays what it was. So the information that is read is that of the last snapshot
-- that could be described.
import Mathlib
import Minimize.Checkpoint.Memory
import Minimize.Proofs.Folders
import Minimize.Proofs.Written
import Minimize.Sample.Solver

namespace Minimize

variable {τ : Type}

/-- A best cost that is a number, and that is read back if it is finite. -/
def Snapshot.Tellable (s : Snapshot τ) : Prop :=
  ∃ x, s.state.book.bestCost.toFloat = .ok x ∧
    (Number.isFinite x = true → JsonValue.ReadsBack (.float x))

/-- Whether a snapshot can be written out and described: its iteration has not too
many digits. -/
def Snapshot.isDescribable (s : Snapshot τ) : Bool :=
  s.solver.unserializable.isNone && Text.isWritable s.state.book.iteration

namespace Checkpoint

/-! ## Operations -/

/-- What a store is asked for. -/
inductive Operation (τ : Type) where
  | save (key : Value) (s : Snapshot τ)
  | load (key : Value)
  | holds (key : Value)
  | delete (key : Value)
  | keys

inductive Reply (τ : Type) where
  | done
  | snapshot (s : Snapshot τ)
  | truth (b : Bool)
  | names (keys : List String)

/-- What an operation leaves, and its reply or its failure. -/
def Operation.on (store : Store τ) (c : Cabinet τ) :
    Operation τ → Cabinet τ × Except Fault (Reply τ)
  | .save key s => ((store.save key s c).1, (store.save key s c).2.map fun _ => .done)
  | .load key => (c, (store.load key c).map .snapshot)
  | .holds key => (c, (store.holds key c).map .truth)
  | .delete key => ((store.delete key c).1, (store.delete key c).2.map fun _ => .done)
  | .keys => (c, .ok (.names (store.keys c)))

/-- Operations one after the other, each with the time at which it is done:
the replies, and what is left. -/
def answers (store : String → Store τ) :
    List (String × Operation τ) → Cabinet τ → List (Except Fault (Reply τ)) × Cabinet τ
  | [], c => ([], c)
  | (stamp, o) :: os, c =>
    let (c', r) := o.on (store stamp) c
    let (rs, last) := answers store os c'
    (r :: rs, last)

/-- An operation with a key that is one, on a snapshot whose best cost can be
told. -/
def Operation.Fits : Operation τ → Prop
  | .save key s => (∃ k, validateKey key = .ok k) ∧ s.Tellable
  | .load key => ∃ k, validateKey key = .ok k
  | .holds key => ∃ k, validateKey key = .ok k
  | .delete key => ∃ k, validateKey key = .ok k
  | .keys => True

/-- The same reply, or failures of the same kind. -/
inductive SameReply : Except Fault (Reply τ) → Except Fault (Reply τ) → Prop
  | reply (r : Reply τ) : SameReply (.ok r) (.ok r)
  | failure {f f' : Fault} : f.kind = f'.kind → SameReply (.error f) (.error f')

/-- A save of a snapshot that can be written out and cannot be described. -/
def Operation.Undescribed : Operation τ → Prop
  | .save _ s => s.solver.unserializable = none ∧ s.isDescribable = false
  | _ => False

/-- What memory and a folder answer to an operation: the same; but a snapshot that
cannot be described is taken by memory and refused by the folder. -/
inductive Answered (o : Operation τ) :
    Except Fault (Reply τ) → Except Fault (Reply τ) → Prop
  | same {r r' : Except Fault (Reply τ)} (ho : ¬ o.Undescribed) (h : SameReply r r') :
      Answered o r r'
  | refused (ho : o.Undescribed) : Answered o (.ok .done) (.error (.slip .tooManyDigits))

/-- What an operation makes of the snapshot that the information under a key is
about, with the time at which it was saved: the one that it saves under that key, if
it can be described, and none if it deletes the key. -/
def Operation.described (stamp k : String) (t : Option (Snapshot τ × String)) :
    Operation τ → Option (Snapshot τ × String)
  | .save key s => if key.plain = k ∧ s.isDescribable = true then some (s, stamp) else t
  | .delete key => if key.plain = k then none else t
  | _ => t

/-- The snapshot that the information under a key is about after some operations. -/
def lastDescribed (k : String) :
    List (String × Operation τ) → Option (Snapshot τ × String) → Option (Snapshot τ × String)
  | [], t => t
  | (stamp, o) :: os, t => lastDescribed k os (o.described stamp k t)

/-! ## In memory -/

namespace Memory

variable {key : Value} {k : String} {s : Snapshot τ} {c : Cabinet τ}

theorem find_eq (hk : validateKey key = .ok k) : find key c = .ok (c.memory.get? k) := by
  obtain ⟨rfl | rfl, _⟩ := validateKey_cases hk <;> rfl

theorem save_serializable (hk : validateKey key = .ok k) (hs : s.solver.unserializable = none) :
    save key s c = (put k (.pair s) c, .ok ()) := by
  have hserialized : s.serialized k = .ok (.pair s) := by
    unfold Snapshot.serialized
    rw [hs]
  unfold save
  rw [hk]
  dsimp only [bind, Except.bind]
  rw [hserialized]
  rfl

theorem save_unserializable (hk : validateKey key = .ok k) {f : Fault}
    (hs : s.solver.unserializable = some f) :
    save key s c = (c, .error (serializationFault k f)) := by
  have hserialized : s.serialized k = .error (serializationFault k f) := by
    unfold Snapshot.serialized
    rw [hs]
  unfold save
  rw [hk]
  dsimp only [bind, Except.bind]
  rw [hserialized]

theorem delete_eq (hk : validateKey key = .ok k) :
    delete key c = ({ c with memory := c.memory.erase k }, .ok ()) := by
  unfold delete
  rw [find_eq hk]
  obtain ⟨rfl | rfl, _⟩ := validateKey_cases hk <;> rfl

end Memory

namespace Directory

variable {base stamp : String} {key : Value} {k : String} {s : Snapshot τ} {i : Info}
  {c : Cabinet τ} {d e : Folder τ} {m : Table (Payload τ)}
  {t : String → Option (Snapshot τ × String)}

theorem describe_of_validateKey (hk : validateKey key = .ok k) (s : Snapshot τ) (stamp : String) :
    Info.describe key s stamp = Info.describe (.text k) s stamp := by
  unfold Info.describe
  rw [plain_of_validateKey hk]
  rfl

theorem describe_of_tellable (hs : s.Tellable) (key : Value) (stamp : String) :
    ∃ i, Info.describe key s stamp = .ok i := by
  obtain ⟨x, hx, _⟩ := hs
  unfold Info.describe
  rw [hx]
  exact ⟨_, rfl⟩

theorem save_unserializable (hk : validateKey key = .ok k) {f : Fault}
    (hs : s.solver.unserializable = some f) :
    save base stamp key s c = (c, .error (serializationFault k f)) := by
  have hserialized : s.serialized key.plain = .error (serializationFault k f) := by
    unfold Snapshot.serialized
    rw [hs, plain_of_validateKey hk]
  unfold save
  dsimp only [bind, Except.bind]
  rw [hserialized]

theorem eq_of_describe (h : Info.describe key s stamp = .ok i) {x : Float}
    (hx : s.state.book.bestCost.toFloat = .ok x) :
    i = ⟨.text key.plain, .int s.state.book.iteration, .float x, .text s.solver.displayName,
      .text s.state.typeName, .text stamp⟩ := by
  unfold Info.describe at h
  rw [hx] at h
  exact (Except.ok.inj h).symm

/-- Of a description only the iteration may not be written. -/
theorem isWritable_of_describe (h : Info.describe key s stamp = .ok i) :
    i.isWritable = Text.isWritable s.state.book.iteration := by
  obtain ⟨x, _, hi⟩ := bind_ok h
  cases hi
  simp only [Info.isWritable, Info.named, List.all_cons, List.all_nil, JsonValue.isWritable,
    Bool.and_true, Bool.true_and]

/-- The information about a snapshot is read as it was written. -/
theorem ofText_of_describe (h : Info.describe key s stamp = .ok i) (hs : s.Tellable)
    (hw : i.isWritable = true) : Info.ofText i.text = .ok i := by
  obtain ⟨x, hx, hback⟩ := hs
  have hfits : s.state.book.iteration.natAbs < 10 ^ Text.digitLimit :=
    Text.isWritable_iff.mp ((isWritable_of_describe h).symm.trans hw)
  have hfloat : JsonValue.ReadsBack (.float x) := by
    cases hfinite : Number.isFinite x with
    | true => exact hback hfinite
    | false => exact JsonValue.readsBack_of_not_finite hfinite
  apply Info.ofText_text
  rw [eq_of_describe h hx]
  intro m hm
  simp only [Info.named, List.mem_cons, List.not_mem_nil, or_false] at hm
  rcases hm with rfl | rfl | rfl | rfl | rfl | rfl
  · exact JsonValue.legible_text _
  · exact (JsonValue.readsBack_int hfits).legible rfl
  · exact hfloat.legible rfl
  · exact JsonValue.legible_text _
  · exact JsonValue.legible_text _
  · exact JsonValue.legible_text _

/-! ## What stands under a key -/

/-- What stands in memory under a key, and in a folder as its payload and the
information, with the snapshot that the information is about. That is the one that
stands there, if that can be described. -/
inductive Stands (k : String) : Option (Payload τ) → Option (FileBody τ) → Option (FileBody τ) →
    Option (Snapshot τ × String) → Prop
  | absent : Stands k none none none none
  | bare {s : Snapshot τ} (hs : s.Tellable) (hw : s.isDescribable = false) :
      Stands k (some (.pair s)) (some (.payload (.pair s))) none none
  | pair {s t : Snapshot τ} {stamp : String} {i : Info} (hs : s.Tellable) (ht : t.Tellable)
      (hi : Info.describe (.text k) t stamp = .ok i) (hw : i.isWritable = true)
      (hlast : s.isDescribable = true → t = s) :
      Stands k (some (.pair s)) (some (.payload (.pair s))) (some (.text i.text))
        (some (t, stamp))

/-- A folder that keeps what a memory has, with information about some snapshots. -/
structure Mirrors (m : Table (Payload τ)) (d : Folder τ)
    (t : String → Option (Snapshot τ × String)) : Prop where
  sound : d.Sound
  stands : ∀ k, Stands k (m.get? k) (payloadAt d k) (infoAt d k) (t k)
  keys : ∀ k, (m.get? k).isSome = true → isKey k = true

theorem Mirrors.of_matches (h : Mirrors m d t) (hm : d.Matches e) : Mirrors m e t := by
  refine ⟨hm.sound h.sound, fun k => ?_, h.keys⟩
  rw [payloadAt_of_matches hm, infoAt_of_matches hm]
  exact h.stands k

theorem Mirrors.keys_insert (h : Mirrors m d t) (hk : isKey k = true) (p : Payload τ) (k' : String)
    (hk' : ((m.insert k p).get? k').isSome = true) : isKey k' = true := by
  rw [Table.get?_insert] at hk'
  split at hk'
  · rename_i heq
    rw [heq]
    exact hk
  · exact h.keys k' hk'

theorem Mirrors.filed (h : Mirrors m d t) (hk : validateKey key = .ok k) (ht : s.Tellable)
    (hs : s.isDescribable = true) (hi : Info.describe (.text k) s stamp = .ok i) :
    Mirrors (m.insert k (.pair s)) (withBoth k s i d)
      (fun k' => (Operation.save key s).described stamp k' (t k')) := by
  obtain ⟨_, hw⟩ := Bool.and_eq_true_iff.mp hs
  refine ⟨⟨h.sound.present, h.sound.free⟩, fun k' => ?_,
    h.keys_insert (validateKey_cases hk).2 (.pair s)⟩
  rw [Table.get?_insert, payloadAt_withBoth, infoAt_withBoth]
  dsimp only [Operation.described]
  rw [plain_of_validateKey hk]
  by_cases hkey : k' = k
  · subst hkey
    rw [if_pos rfl, if_pos rfl, if_pos rfl, if_pos ⟨rfl, hs⟩]
    exact .pair ht ht hi ((isWritable_of_describe hi).trans hw) fun _ => rfl
  · rw [if_neg hkey, if_neg hkey, if_neg hkey, if_neg fun hboth => hkey hboth.1.symm]
    exact h.stands k'

theorem Mirrors.filed_bare (h : Mirrors m d t) (hk : validateKey key = .ok k) (ht : s.Tellable)
    (hs : s.isDescribable = false) (stamp : String) :
    Mirrors (m.insert k (.pair s)) (withPayload k s d)
      (fun k' => (Operation.save key s).described stamp k' (t k')) := by
  refine ⟨⟨h.sound.present, h.sound.free⟩, fun k' => ?_,
    h.keys_insert (validateKey_cases hk).2 (.pair s)⟩
  have hnone : (Operation.save key s).described stamp k' (t k') = t k' :=
    if_neg fun hboth => Bool.eq_false_iff.mp hs hboth.2
  rw [hnone, Table.get?_insert, payloadAt_withPayload, infoAt_withPayload]
  by_cases hkey : k' = k
  · subst hkey
    rw [if_pos rfl, if_pos rfl]
    have hstands := h.stands k'
    generalize m.get? k' = x, payloadAt d k' = y, infoAt d k' = z, t k' = u at hstands
    cases hstands with
    | absent => exact .bare ht hs
    | bare _ _ => exact .bare ht hs
    | pair _ ht' hi hw _ => exact .pair ht ht' hi hw fun hd => absurd hd (Bool.eq_false_iff.mp hs)
  · rw [if_neg hkey, if_neg hkey]
    exact h.stands k'

theorem Mirrors.cleared (h : Mirrors m d t) (hk : validateKey key = .ok k) (stamp : String) :
    Mirrors (m.erase k) (withoutBoth k d)
      (fun k' => (Operation.delete key).described stamp k' (t k')) := by
  refine ⟨⟨h.sound.present, h.sound.free⟩, fun k' => ?_, fun k' hk' => ?_⟩
  · rw [Table.get?_erase, payloadAt_withoutBoth, infoAt_withoutBoth]
    dsimp only [Operation.described]
    rw [plain_of_validateKey hk]
    by_cases hkey : k' = k
    · subst hkey
      rw [if_pos rfl, if_pos rfl, if_pos rfl, if_pos rfl]
      exact .absent
    · rw [if_neg hkey, if_neg hkey, if_neg hkey, if_neg (Ne.symm hkey)]
      exact h.stands k'
  · rw [Table.get?_erase] at hk'
    split at hk'
    · cases hk'
    · exact h.keys k' hk'

theorem Mirrors.not_folder (h : Mirrors m d t) (k : String) :
    d.isFolder (payloadName k) = false ∧ d.isFolder (infoName k) = false := by
  have hstands := h.stands k
  have hpayload : d.files.get? (payloadName k) = payloadAt d k := rfl
  have hinfo : d.files.get? (infoName k) = infoAt d k := rfl
  unfold Folder.isFolder
  rw [hpayload, hinfo]
  generalize m.get? k = x, payloadAt d k = y, infoAt d k = z, t k = u at hstands
  cases hstands <;> exact ⟨rfl, rfl⟩

/-! ## The operations -/

/-- On a sound folder both files are written, if there are words for the
information. -/
theorem writeBoth_sound (h : Mirrors m d t) (base k : String) (s : Snapshot τ)
    (hw : i.isWritable = true) :
    ∃ d', writeBoth base k (.pair s) i d = (d', .ok ()) ∧ (withBoth k s i d).Matches d' := by
  obtain ⟨hpayload, hinfo⟩ := h.not_folder k
  obtain ⟨d1, h1, hm1⟩ := h.sound.writeAtomic (not_passing_payloadName k) hpayload
    (.payload (.pair s))
  have hinfo' : d1.isFolder (infoName k) = false :=
    (hm1.isFolder (not_passing_infoName k)).trans
      ((Folder.isFolder_put (payloadName_ne_infoName k k).symm d _).trans hinfo)
  obtain ⟨d2, h2, hm2⟩ := (hm1.sound (h.sound.put _ _)).writeAtomic (not_passing_infoName k) hinfo'
    (.text i.text)
  refine ⟨d2, ?_, (hm1.put _ _).trans hm2⟩
  unfold writeBoth
  dsimp only
  rw [h1, hw]
  dsimp only
  rw [h2]
  rfl

/-- If there are none, the payload is written alone. -/
theorem writeBoth_bare (h : Mirrors m d t) (base k : String) (s : Snapshot τ)
    (hw : i.isWritable = false) :
    ∃ d', writeBoth base k (.pair s) i d = (d', .error (.slip .tooManyDigits)) ∧
      (withPayload k s d).Matches d' := by
  obtain ⟨d1, h1, hm1⟩ := h.sound.writeAtomic (not_passing_payloadName k) (h.not_folder k).1
    (.payload (.pair s))
  refine ⟨d1, ?_, hm1⟩
  unfold writeBoth
  dsimp only
  rw [h1, hw]
  rfl

theorem delete_sound (h : Mirrors m c.folder t) (hk : validateKey key = .ok k) :
    ∃ d', delete key c = (withFolder c d', .ok ()) ∧ (withoutBoth k c.folder).Matches d' := by
  obtain ⟨hpayload, hinfo⟩ := h.not_folder k
  obtain ⟨d1, h1, hm1⟩ := h.sound.unlink hpayload
  have hinfo' : d1.isFolder (infoName k) = false :=
    (hm1.isFolder (not_passing_infoName k)).trans
      ((Folder.isFolder_remove (payloadName_ne_infoName k k).symm c.folder).trans hinfo)
  obtain ⟨d2, h2, hm2⟩ := (hm1.sound (h.sound.remove _)).unlink hinfo'
  refine ⟨d2, ?_, (hm1.remove _).trans hm2⟩
  unfold delete
  rw [hk]
  dsimp only
  rw [h1]
  dsimp only
  rw [h2]

/-- A snapshot is saved in both or in neither, and the folder fails as memory does
but where it cannot describe what it has saved. -/
theorem Mirrors.on_save {a b : Cabinet τ} (h : Mirrors a.memory b.folder t)
    (hk : validateKey key = .ok k) (ht : s.Tellable) (base stamp : String) :
    Mirrors (Memory.save key s a).1.memory (save base stamp key s b).1.folder
        (fun k' => (Operation.save key s).described stamp k' (t k')) ∧
      Answered (.save key s) ((Memory.save key s a).2.map fun _ => .done)
        ((save base stamp key s b).2.map fun _ => .done) := by
  cases hx : s.solver.unserializable with
  | some f =>
    have hbare : s.isDescribable = false := by
      unfold Snapshot.isDescribable
      rw [hx]
      rfl
    have hstays (k' : String) : (Operation.save key s).described stamp k' (t k') = t k' :=
      if_neg fun hboth => Bool.eq_false_iff.mp hbare hboth.2
    rw [Memory.save_unserializable hk hx, save_unserializable hk hx, funext hstays]
    exact ⟨h, .same (fun hu => nomatch hx.symm.trans hu.1) (.failure rfl)⟩
  | none =>
    obtain ⟨i, hi⟩ := describe_of_tellable ht key stamp
    have hsame : s.isDescribable = i.isWritable := by
      unfold Snapshot.isDescribable
      rw [hx, isWritable_of_describe hi]
      rfl
    rw [Memory.save_serializable hk hx, save_prepared ⟨hk, hx, hi⟩]
    cases hw : i.isWritable with
    | true =>
      obtain ⟨d, hd, hm⟩ := writeBoth_sound h base k s hw
      rw [hd]
      rw [describe_of_validateKey hk] at hi
      refine ⟨(h.filed hk ht (hsame.trans hw) hi).of_matches hm, .same (fun hu => ?_) (.reply _)⟩
      cases (hsame.trans hw).symm.trans hu.2
    | false =>
      obtain ⟨d, hd, hm⟩ := writeBoth_bare h base k s hw
      rw [hd]
      exact ⟨(h.filed_bare hk ht (hsame.trans hw) stamp).of_matches hm,
        .refused ⟨hx, hsame.trans hw⟩⟩

theorem Mirrors.on_delete {a b : Cabinet τ} (h : Mirrors a.memory b.folder t)
    (hk : validateKey key = .ok k) (stamp : String) :
    Mirrors (Memory.delete key a).1.memory (delete key b).1.folder
        (fun k' => (Operation.delete key).described stamp k' (t k')) ∧
      (Memory.delete key a).2 = .ok () ∧ (delete key b).2 = .ok () := by
  obtain ⟨d, hd, hm⟩ := delete_sound h hk
  rw [Memory.delete_eq hk, hd]
  exact ⟨(h.cleared hk stamp).of_matches hm, rfl, rfl⟩

theorem Mirrors.on_load {a b : Cabinet τ} (h : Mirrors a.memory b.folder t)
    (hk : validateKey key = .ok k) (base : String) :
    (∃ s, Memory.load key a = .ok s ∧ load base key b = .ok s) ∨
      ∃ f f', Memory.load key a = .error f ∧ load base key b = .error f' ∧ f.kind = f'.kind := by
  have hstands := h.stands k
  unfold Memory.load
  rw [Memory.find_eq hk, load_eq hk h.sound.present]
  generalize a.memory.get? k = x, payloadAt b.folder k = y, infoAt b.folder k = z,
    t k = u at hstands
  cases hstands with
  | absent => exact .inr ⟨_, _, rfl, rfl, rfl⟩
  | _ => exact .inl ⟨_, rfl, rfl⟩

theorem Mirrors.on_holds {a b : Cabinet τ} (h : Mirrors a.memory b.folder t)
    (hk : validateKey key = .ok k) : Memory.holds key a = holds key b := by
  have hstands := h.stands k
  unfold Memory.holds
  rw [Memory.find_eq hk, holds_eq hk h.sound.present]
  generalize a.memory.get? k = x, payloadAt b.folder k = y, infoAt b.folder k = z,
    t k = u at hstands
  cases hstands <;> rfl

/-! ## The keys -/

theorem sortedNames_perm (names : List String) : (sortedNames names).Perm names :=
  List.mergeSort_perm _ _

theorem sortedNames_pairwise (names : List String) : (sortedNames names).Pairwise (· ≤ ·) := by
  have hsorted := @List.pairwise_mergeSort String (fun a b => decide (a ≤ b))
    (fun a b c hab hbc => decide_eq_true
      (String.le_trans (of_decide_eq_true hab) (of_decide_eq_true hbc)))
    (fun a b => by simpa using String.le_total a b) names
  exact hsorted.imp of_decide_eq_true

theorem sortedNames_congr {xs ys : List String} (hx : xs.Nodup) (hy : ys.Nodup)
    (h : ∀ a, a ∈ xs ↔ a ∈ ys) : sortedNames xs = sortedNames ys := by
  refine List.Perm.eq_of_pairwise (fun _ _ _ _ => String.le_antisymm) (sortedNames_pairwise xs)
    (sortedNames_pairwise ys) ?_
  exact (sortedNames_perm xs).trans (((List.perm_ext_iff_of_nodup hx hy).mpr h).trans
    (sortedNames_perm ys).symm)

/-- Names without repetition stand in strictly rising order. -/
theorem sortedNames_strict {xs : List String} (hx : xs.Nodup) :
    (sortedNames xs).Pairwise (· < ·) := by
  have hnodup : (sortedNames xs).Nodup := (sortedNames_perm xs).nodup_iff.mpr hx
  refine (sortedNames_pairwise xs).imp₂ (fun a b hle hne => ?_) hnodup
  exact String.not_le.mp fun hge => hne (String.le_antisymm hle hge)

theorem Mirrors.payloadAt_isSome (h : Mirrors m d t) (k : String) :
    (payloadAt d k).isSome = (m.get? k).isSome := by
  have hstands := h.stands k
  generalize m.get? k = x, payloadAt d k = y, infoAt d k = z, t k = u at hstands
  cases hstands <;> rfl

/-- No file is a payload of no key. -/
theorem Mirrors.not_bare (h : Mirrors m d t) : ".ckpt" ∉ d.files.keys := by
  intro hmem
  have hsome : (payloadAt d "").isSome = true := Table.mem_keys.mp hmem
  rw [h.payloadAt_isSome] at hsome
  cases h.keys "" hsome

/-- The keys that are read off the names are those that have a payload. -/
theorem Mirrors.mem_keys (h : Mirrors m d t) (k : String) :
    k ∈ d.files.keys.filterMap keyOfName? ↔ (m.get? k).isSome = true := by
  rw [List.mem_filterMap, ← h.payloadAt_isSome]
  constructor
  · rintro ⟨name, hname, hkey⟩
    rcases keyOfName?_eq_some.mp hkey with ⟨rfl, _⟩ | ⟨rfl, _⟩
    · exact (h.not_bare hname).elim
    · exact Table.mem_keys.mp hname
  · intro hk
    refine ⟨payloadName k, Table.mem_keys.mpr hk, ?_⟩
    rw [h.payloadAt_isSome] at hk
    exact keyOfName?_eq_some.mpr (.inr ⟨rfl, ne_empty_of_isKey (h.keys k hk)⟩)

theorem Mirrors.nodup_keys (h : Mirrors m d t) : (d.files.keys.filterMap keyOfName?).Nodup := by
  -- two names of one key can only be its payload and a file that is not there
  let f (name : String) : Option String := if name = ".ckpt" then none else keyOfName? name
  have hsame : d.files.keys.filterMap keyOfName? = d.files.keys.filterMap f := by
    refine List.filterMap_congr fun name hname => ?_
    have hne : name ≠ ".ckpt" := fun heq => h.not_bare (heq ▸ hname)
    exact (if_neg hne).symm
  have hpayload {name k : String} (hk : f name = some k) : name = payloadName k := by
    by_cases hname : name = ".ckpt"
    · rw [show f name = none from if_pos hname] at hk
      cases hk
    · rw [show f name = keyOfName? name from if_neg hname] at hk
      rcases keyOfName?_eq_some.mp hk with ⟨heq, _⟩ | ⟨heq, _⟩
      · exact (hname heq).elim
      · exact heq
  rw [hsame]
  refine List.Nodup.filterMap (fun name name' k hk hk' => ?_) d.files.distinct
  exact (hpayload hk).trans (hpayload hk').symm

theorem Mirrors.on_keys {a b : Cabinet τ} (h : Mirrors a.memory b.folder t)
    (base stamp : String) :
    Memory.store.keys a = (store base stamp).keys b :=
  sortedNames_congr a.memory.distinct h.nodup_keys fun k => by
    rw [h.mem_keys]
    exact Table.mem_keys

/-! ## Runs of operations -/

/-- Every operation comes to the same in both, and what it leaves is the same. -/
theorem Mirrors.on {a b : Cabinet τ} (h : Mirrors a.memory b.folder t) {o : Operation τ}
    (ho : o.Fits) (base stamp : String) :
    Mirrors (o.on Memory.store a).1.memory (o.on (store base stamp) b).1.folder
        (fun k => o.described stamp k (t k)) ∧
      Answered o (o.on Memory.store a).2 (o.on (store base stamp) b).2 := by
  cases o with
  | save key s =>
    obtain ⟨⟨k, hk⟩, ht⟩ := ho
    exact h.on_save hk ht base stamp
  | load key =>
    obtain ⟨k, hk⟩ := ho
    refine ⟨h, .same id ?_⟩
    show SameReply ((Memory.load key a).map _) ((Directory.load base key b).map _)
    rcases h.on_load hk base with ⟨s, hr, hr'⟩ | ⟨f, f', hr, hr', hf⟩
    · rw [hr, hr']
      exact .reply _
    · rw [hr, hr']
      exact .failure hf
  | holds key =>
    obtain ⟨k, hk⟩ := ho
    refine ⟨h, .same id ?_⟩
    show SameReply ((Memory.holds key a).map _) ((Directory.holds key b).map _)
    rw [h.on_holds hk, holds_eq hk h.sound.present]
    exact .reply _
  | delete key =>
    obtain ⟨k, hk⟩ := ho
    obtain ⟨hm, hr, hr'⟩ := h.on_delete hk stamp
    refine ⟨hm, .same id ?_⟩
    show SameReply ((Memory.delete key a).2.map _) ((Directory.delete key b).2.map _)
    rw [hr, hr']
    exact .reply _
  | keys =>
    refine ⟨h, .same id ?_⟩
    show SameReply (.ok (.names (Memory.store.keys a))) (.ok (.names ((store base stamp).keys b)))
    rw [h.on_keys base stamp]
    exact .reply _

/-- Any run of operations comes to the same in both. -/
theorem Mirrors.answers (base : String) {os : List (String × Operation τ)} :
    ∀ {a b : Cabinet τ} {t : String → Option (Snapshot τ × String)},
      Mirrors a.memory b.folder t → (∀ o ∈ os, o.2.Fits) →
      Mirrors (answers (fun _ => Memory.store) os a).2.memory (answers (store base) os b).2.folder
          (fun k => lastDescribed k os (t k)) ∧
        List.Forall₂ (fun o r => Answered o.2 r.1 r.2) os
          ((answers (fun _ => Memory.store) os a).1.zip (answers (store base) os b).1) := by
  induction os with
  | nil => exact fun h _ => ⟨h, .nil⟩
  | cons o os ih =>
    intro a b t h ho
    obtain ⟨stamp, o⟩ := o
    obtain ⟨hnext, hreply⟩ := h.on (ho _ List.mem_cons_self) base stamp
    obtain ⟨hlast, hrest⟩ := ih hnext fun o' ho' => ho o' (List.mem_cons_of_mem _ ho')
    exact ⟨hlast, .cons hreply hrest⟩

/-! ## The information -/

/-- What a store in a folder tells under a key: nothing at all; a snapshot that
cannot be described, and no information; or a snapshot and the information about
one. That is about the snapshot that is loaded, if that can be described. -/
inductive Tells (base : String) (key : Value) (k : String) (c : Cabinet τ) :
    Option (Snapshot τ × String) → Prop
  | nothing (hholds : holds key c = .ok false) (hload : ∃ f, load base key c = .error f)
      (hinfo : info key c = .ok none) : Tells base key k c none
  | bare (s : Snapshot τ) (hs : s.isDescribable = false) (hholds : holds key c = .ok true)
      (hload : load base key c = .ok s) (hinfo : info key c = .ok none) : Tells base key k c none
  | snapshot (s t : Snapshot τ) (x : Float) (stamp : String) (hs : s.isDescribable = true → t = s)
      (hholds : holds key c = .ok true) (hload : load base key c = .ok s)
      (hx : t.state.book.bestCost.toFloat = .ok x)
      (hinfo : info key c = .ok (some ⟨.text k, .int t.state.book.iteration, .float x,
        .text t.solver.displayName, .text t.state.typeName, .text stamp⟩)) :
      Tells base key k c (some (t, stamp))

theorem Mirrors.tells {c : Cabinet τ} (h : Mirrors m c.folder t) (hk : validateKey key = .ok k)
    (base : String) : Tells base key k c (t k) := by
  have hpresent := h.sound.present
  have hstands := h.stands k
  have hsome {s : Snapshot τ} (hy : payloadAt c.folder k = some (.payload (.pair s))) :
      holds key c = .ok true := by
    rw [holds_eq hk hpresent, hy]
    rfl
  generalize hx : m.get? k = x, hy : payloadAt c.folder k = y, hz : infoAt c.folder k = z,
    t k = u at hstands
  cases hstands with
  | absent =>
    refine .nothing ?_ ?_ (info_absent hk hpresent hz)
    · rw [holds_eq hk hpresent, hy]
      rfl
    · rw [load_eq hk hpresent, hy]
      exact ⟨_, rfl⟩
  | @bare s _ hw =>
    exact .bare s hw (hsome hy) (load_pair hk hpresent hy) (info_absent hk hpresent hz)
  | @pair s t stamp i _ ht hi hw hlast =>
    have ⟨x, hx', _⟩ := ht
    refine .snapshot s t x stamp hlast (hsome hy) (load_pair hk hpresent hy) hx' ?_
    rw [info_text hk hpresent hz, ofText_of_describe hi ht hw, eq_of_describe hi hx']
    rfl

/-! ## The law -/

/-- A store in a folder that nobody else touches answers any run of operations as a
store in memory does: with the same reply, or with a failure of the same kind. But a
save of a snapshot that cannot be described is refused by the folder alone, with the
snapshot in its place. Under every key the folder tells the snapshot that it loads,
if that can be described, and else the last one that could be since the key was
deleted last; it tells nothing where there is none. And it lists the keys that it
holds in order. -/
theorem a_folder_answers_as_memory_does_but_for_one_save (base : String) {a b : Cabinet τ}
    (ha : a.memory = .empty) (hb : b.folder.Sound) (hfiles : b.folder.files = .empty)
    {os : List (String × Operation τ)} (hos : ∀ o ∈ os, o.2.Fits) :
    List.Forall₂ (fun o r => Answered o.2 r.1 r.2) os
        ((answers (fun _ => Memory.store) os a).1.zip (answers (store base) os b).1) ∧
      (∀ key k, validateKey key = .ok k →
        Tells base key k (answers (store base) os b).2 (lastDescribed k os none)) ∧
      ∀ stamp, ((store base stamp).keys (answers (store base) os b).2).Pairwise (· < ·) ∧
        ∀ k, k ∈ (store base stamp).keys (answers (store base) os b).2 ↔
          isKey k = true ∧ holds (.text k) (answers (store base) os b).2 = .ok true := by
  have hstart : Mirrors a.memory b.folder (fun _ => none) := by
    refine ⟨hb, fun k => ?_, fun k hk => ?_⟩
    · unfold payloadAt infoAt
      rw [ha, hfiles]
      exact .absent
    · rw [ha] at hk
      cases hk
  obtain ⟨hlast, hreplies⟩ := hstart.answers base hos
  refine ⟨hreplies, fun key k hk => hlast.tells hk base, fun stamp => ⟨?_, fun k => ?_⟩⟩
  · exact sortedNames_strict hlast.nodup_keys
  · show k ∈ sortedNames _ ↔ _
    rw [(sortedNames_perm _).mem_iff, hlast.mem_keys]
    have hholds (hkey : isKey k = true) : holds (.text k) (answers (store base) os b).2 =
        .ok ((answers (fun _ => Memory.store) os a).2.memory.get? k).isSome := by
      have hvalid : validateKey (.text k) = .ok k := if_pos hkey
      rw [holds_eq hvalid hlast.sound.present, hlast.payloadAt_isSome]
    constructor
    · intro hk
      have hkey := hlast.keys k hk
      exact ⟨hkey, (hholds hkey).trans (congrArg Except.ok hk)⟩
    · rintro ⟨hkey, htrue⟩
      exact Except.ok.inj ((hholds hkey).symm.trans htrue)

def beforehand (unserializable : Option Fault) : Snapshot Float :=
  ⟨{ Sample.sequence [] with unserializable }, .fresh .point⟩

theorem tellable_beforehand (x : Option Fault) : (beforehand x).Tellable :=
  ⟨Number.infinity, rfl, fun h => absurd h (by decide +kernel)⟩

/-- Saves under two keys of which one is the name of the other's payload, a
save that fails, and a deletion. -/
def errands : List (String × Operation Float) :=
  [("08:00", .save (.text "a") (beforehand none)),
    ("08:01", .save (.text "a.ckpt") (beforehand none)),
    ("08:02", .save (.text "a") (beforehand (some (.slip .wrongType)))),
    ("08:03", .delete (.text "a.ckpt")), ("08:04", .keys)]

/-- The law for these operations: the deletion of the second key leaves the
first. -/
theorem errands_are_answered_alike :
    (answers (fun _ => Memory.store) errands .empty).1 = [.ok .done, .ok .done,
        .error (serializationFault "a" (.slip .wrongType)), .ok .done, .ok (.names ["a"])] ∧
      List.Forall₂ (fun o r => Answered o.2 r.1 r.2) errands
        ((answers (fun _ => Memory.store) errands .empty).1.zip
          (answers (store "store") errands .empty).1) ∧
      Tells "store" (.text "a") "a" (answers (store "store") errands .empty).2
        (some (beforehand none, "08:00")) := by
  have hfits : ∀ o ∈ errands, o.2.Fits := by
    intro o ho
    simp only [errands, List.mem_cons, List.not_mem_nil, or_false] at ho
    rcases ho with rfl | rfl | rfl | rfl | rfl
    · exact ⟨⟨_, rfl⟩, tellable_beforehand _⟩
    · exact ⟨⟨_, rfl⟩, tellable_beforehand _⟩
    · exact ⟨⟨_, rfl⟩, tellable_beforehand _⟩
    · exact ⟨_, rfl⟩
    · trivial
  obtain ⟨hreplies, htells, _⟩ := a_folder_answers_as_memory_does_but_for_one_save "store"
    (a := .empty) (b := .empty) rfl ⟨rfl, fun _ => rfl⟩ rfl hfits
  have hsorted : sortedNames ["a"] = ["a"] := List.mergeSort_singleton _
  have hdescribed : (beforehand none).isDescribable = true :=
    (Text.isWritable_of_digit (by decide) : Text.isWritable 0 = true)
  have hlast : lastDescribed "a" errands none = some (beforehand none, "08:00") := by
    have hlost : (beforehand (some (.slip .wrongType))).isDescribable = false := rfl
    simp [lastDescribed, errands, Operation.described, hdescribed, hlost, Value.plain]
  refine ⟨?_, hreplies, hlast ▸ htells _ _ rfl⟩
  conv => rhs; rw [← hsorted]
  rfl

/-- A snapshot at an iteration with too many digits. -/
def distant : Snapshot Float :=
  let s := beforehand none
  { s with state := { s.state with book := { s.state.book with iteration := vast } } }

/-- A folder can refuse a snapshot that memory takes, and keep it without a word
about it. -/
theorem a_folder_can_refuse_what_memory_takes :
    distant.Tellable ∧ (save "store" "08:00" (.text "k") distant .empty).2 =
        .error (.slip .tooManyDigits) ∧
      (Memory.save (.text "k") distant .empty).2 = .ok () ∧
      load "store" (.text "k") (save "store" "08:00" (.text "k") distant .empty).1 = .ok distant ∧
      holds (.text "k") (save "store" "08:00" (.text "k") distant .empty).1 = .ok true ∧
      info (.text "k") (save "store" "08:00" (.text "k") distant .empty).1 = .ok none := by
  have hk : validateKey (.text "k") = .ok "k" := rfl
  have hempty : Mirrors (τ := Float) .empty Folder.empty (fun _ => none) :=
    ⟨⟨rfl, fun _ => rfl⟩, fun _ => .absent, fun _ h => nomatch h⟩
  have htellable : distant.Tellable := tellable_beforehand none
  obtain ⟨i, hi⟩ := describe_of_tellable htellable (.text "k") "08:00"
  have hw : i.isWritable = false := (isWritable_of_describe hi).trans vast_unwritable
  obtain ⟨d, hd, hm⟩ := writeBoth_bare hempty "store" "k" distant hw
  have hsaved : save "store" "08:00" (.text "k") distant .empty =
      (withFolder .empty d, .error (.slip .tooManyDigits)) := by
    rw [save_prepared ⟨hk, rfl, hi⟩]
    exact congrArg (fun r => (withFolder _ r.1, r.2)) hd
  have hpresent : d.isPresent = true := hm.present
  have hpayload : payloadAt d "k" = some (.payload (.pair distant)) := by
    rw [payloadAt_of_matches hm, payloadAt_withPayload, if_pos rfl]
  have hinfo : infoAt d "k" = none := by
    rw [infoAt_of_matches hm, infoAt_withPayload]
    rfl
  rw [hsaved]
  refine ⟨htellable, rfl, rfl, load_pair hk hpresent hpayload, ?_,
    info_absent hk hpresent hinfo⟩
  rw [holds_eq hk hpresent]
  exact congrArg (fun y => Except.ok (Option.isSome y)) hpayload

end Directory

end Checkpoint

end Minimize
