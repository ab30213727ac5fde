-- What executors may share and still have nothing in common. Under each key a
-- store goes by a part of its cabinet that no save under another key touches; and
-- an observer that gathers what it is told goes by its own outlet alone.
import Minimize.Observer.Capture
import Minimize.Proofs.Filing
import Minimize.Proofs.Sight

namespace Minimize

variable {τ : Type}

/-! ## Stores -/

/-- A store that keeps what is under one key apart from what is under another. -/
structure Store.Keyed (x : Store τ) (parts : String → Semblance (Cabinet τ)) : Prop where
  heeds : ∀ key, x.Heeds (.text key) (parts key)
  apart : ∀ key key', key' ≠ key → x.Unseen (.text key') (parts key)

namespace Store.Keyed

variable {x : Store τ} {parts : String → Semblance (Cabinet τ)}

/-- A store that also notes its saves keeps the keys apart as well, if the notes make no
difference. -/
theorem noting (h : x.Keyed parts) (name : String)
    (hnotes : ∀ key c c' notes notes', (parts key).r c c' →
      (parts key).r { c with saved := notes } { c' with saved := notes' }) :
    (x.noting name).Keyed parts := by
  refine ⟨fun key => ⟨(h.heeds key).holds, (h.heeds key).load, ?_⟩, ?_⟩
  · intro snapshot c c' hc
    obtain ⟨hresult, hcabinet⟩ := (h.heeds key).save snapshot c c' hc
    unfold Store.noting
    dsimp only
    generalize x.save (.text key) snapshot c = a at hresult hcabinet ⊢
    generalize x.save (.text key) snapshot c' = b at hresult hcabinet ⊢
    obtain ⟨d, result⟩ := a
    obtain ⟨d', result'⟩ := b
    cases hresult
    cases result with
    | ok u => exact ⟨rfl, hnotes key _ _ _ _ hcabinet⟩
    | error f => exact ⟨rfl, hcabinet⟩
  · intro key key' hne snapshot c hc
    have hcabinet := h.apart key key' hne snapshot c hc
    unfold Store.noting
    dsimp only
    generalize x.save (.text key') snapshot c = a at hcabinet ⊢
    obtain ⟨d, result⟩ := a
    cases result with
    | ok u => exact hnotes key c _ c.saved _ hcabinet
    | error f => exact hcabinet

end Store.Keyed

namespace Checkpoint

/-! ## A store in memory -/

namespace Memory

/-- What a store in memory has under a key. -/
def part (key : String) : Semblance (Cabinet τ) where
  r c c' := c'.memory.get? key = c.memory.get? key
  symm := Eq.symm
  trans h h' := h'.trans h

/-- A save puts a snapshot under its key, or leaves everything. -/
theorem save_cases (key : String) (s : Snapshot τ) :
    (∃ f, ∀ c, save (.text key) s c = (c, .error f)) ∨
      ∃ p, ∀ c, save (.text key) s c = (put key p c, .ok ()) := by
  cases hk : validateKey (.text key) with
  | error f =>
    refine .inl ⟨f, fun c => ?_⟩
    unfold save
    rw [hk]
    rfl
  | ok k =>
    obtain rfl : key = k := plain_of_validateKey hk
    cases hs : s.solver.unserializable with
    | some f => exact .inl ⟨_, fun c => save_unserializable hk hs⟩
    | none => exact .inr ⟨_, fun c => save_serializable hk hs⟩

theorem keyed : (store : Store τ).Keyed part := by
  refine ⟨fun key => ⟨?_, ?_, ?_⟩, ?_⟩
  · intro c c' hc
    show (find (.text key) c').map _ = (find (.text key) c).map _
    rw [show find (.text key) c' = find (.text key) c from congrArg Except.ok hc]
  · intro c c' hc
    show load (.text key) c' = load (.text key) c
    unfold load
    rw [show find (.text key) c' = find (.text key) c from congrArg Except.ok hc]
  · intro s c c' hc
    show (save (.text key) s c').2 = (save (.text key) s c).2 ∧
      (part key).r (save (.text key) s c).1 (save (.text key) s c').1
    rcases save_cases key s with ⟨f, hf⟩ | ⟨p, hp⟩
    · rw [hf, hf]
      exact ⟨rfl, hc⟩
    · rw [hp, hp]
      exact ⟨rfl, (Table.get?_insert_self _ _ _).trans (Table.get?_insert_self _ _ _).symm⟩
  · intro key key' hne s c hc
    show (part key).r c (save (.text key') s c).1
    rcases save_cases key' s with ⟨f, hf⟩ | ⟨p, hp⟩
    · rw [hf]
      exact hc
    · rw [hp]
      exact Table.get?_insert_ne _ _ hne.symm

end Memory

end Checkpoint

/-! ## A store in a folder -/

namespace Folder

variable {d e : Folder τ} {name : String}

theorem writeAtomic_folder (hname : ¬ Passing name) (hf : d.isFolder name = true)
    (b : FileBody τ) : (d.writeAtomic name b).2 = false := by
  have hwritten := matches_writePassing d (passing_passingName d name) b
  unfold writeAtomic
  dsimp only
  split
  · rfl
  · rename_i d1 heq
    rw [heq] at hwritten
    split
    · rename_i d2 heq'
      have hstill := (hwritten.1.trans (matches_of_attempt heq')).isFolder hname
      rw [hstill, hf]
      rfl
    · rfl

/-- Whether a sound folder takes a file depends on what stands there. -/
theorem Sound.written (hs : d.Sound) (hname : ¬ Passing name) (b : FileBody τ) :
    (d.writeAtomic name b).2 = !d.isFolder name ∧
      (bif d.isFolder name then d else d.put name b).Matches (d.writeAtomic name b).1 := by
  cases hf : d.isFolder name with
  | false =>
    obtain ⟨d', hd, hm⟩ := hs.writeAtomic hname hf b
    rw [hd]
    exact ⟨rfl, hm⟩
  | true =>
    have hrefused := writeAtomic_folder hname hf b
    rcases d.writeAtomic_cases name b with ⟨hdone, _⟩ | ⟨_, hm⟩
    · exact nomatch hdone.symm.trans hrefused
    · exact ⟨hrefused, hm⟩

/-- Sound folders in which the same stands under some names, none of them
passing. -/
structure Agrees (names : List String) (d e : Folder τ) : Prop where
  sound : d.Sound ∧ e.Sound
  files : ∀ name ∈ names, ¬ Passing name ∧ e.files.get? name = d.files.get? name

theorem Agrees.written {names : List String} (h : d.Agrees names e) (hname : name ∈ names)
    (b : FileBody τ) :
    (e.writeAtomic name b).2 = (d.writeAtomic name b).2 ∧
      (d.writeAtomic name b).1.Agrees names (e.writeAtomic name b).1 := by
  obtain ⟨hpassing, hget⟩ := h.files name hname
  have hfolder : e.isFolder name = d.isFolder name := by
    unfold isFolder
    rw [hget]
  obtain ⟨hd, hmd⟩ := h.sound.1.written hpassing b
  obtain ⟨he, hme⟩ := h.sound.2.written hpassing b
  rw [hfolder] at he hme
  refine ⟨he.trans hd.symm, ?_⟩
  cases hf : d.isFolder name with
  | true =>
    rw [hf] at hmd hme
    refine ⟨⟨hmd.sound h.sound.1, hme.sound h.sound.2⟩, fun n hn => ?_⟩
    obtain ⟨hn', hsame⟩ := h.files n hn
    exact ⟨hn', (hme.files n hn').trans (hsame.trans (hmd.files n hn').symm)⟩
  | false =>
    rw [hf] at hmd hme
    refine ⟨⟨hmd.sound (h.sound.1.put _ _), hme.sound (h.sound.2.put _ _)⟩, fun n hn => ?_⟩
    obtain ⟨hn', hsame⟩ := h.files n hn
    have hput : (e.put name b).files.get? n = (d.put name b).files.get? n := by
      show (e.files.insert name b).get? n = (d.files.insert name b).get? n
      rw [Table.get?_insert, Table.get?_insert, hsame]
    exact ⟨hn', (hme.files n hn').trans (hput.trans (hmd.files n hn').symm)⟩

end Folder

namespace Checkpoint.Directory

variable {key : String} {c c' : Cabinet τ} {d e : Folder τ}

/-- The names of the files of a key. -/
def fileNames (key : String) : List String := [payloadName key, infoName key]

/-- What a store in a sound folder has under a key. -/
def part (key : String) : Semblance (Cabinet τ) where
  r c c' := c.folder.Agrees (fileNames key) c'.folder
  symm h := ⟨⟨h.sound.2, h.sound.1⟩, fun n hn => ⟨(h.files n hn).1, (h.files n hn).2.symm⟩⟩
  trans h h' := ⟨⟨h.sound.1, h'.sound.2⟩, fun n hn =>
    ⟨(h.files n hn).1, (h'.files n hn).2.trans (h.files n hn).2⟩⟩

theorem payloadName_mem (key : String) : payloadName key ∈ fileNames key := List.mem_cons_self

theorem infoName_mem (key : String) : infoName key ∈ fileNames key :=
  List.mem_cons_of_mem _ List.mem_cons_self

theorem payloadAt_of_agrees (h : d.Agrees (fileNames key) e) : payloadAt e key = payloadAt d key :=
  (h.files _ (payloadName_mem key)).2

theorem writeBoth_agrees (h : d.Agrees (fileNames key) e) (base : String) (p : Payload τ)
    (i : Info) :
    (writeBoth base key p i e).2 = (writeBoth base key p i d).2 ∧
      (writeBoth base key p i d).1.Agrees (fileNames key) (writeBoth base key p i e).1 := by
  obtain ⟨hpayload, hfirst⟩ := h.written (payloadName_mem key) (.payload p)
  unfold writeBoth
  dsimp only
  generalize d.writeAtomic (payloadName key) (.payload p) = a at hpayload hfirst ⊢
  generalize e.writeAtomic (payloadName key) (.payload p) = b at hpayload hfirst ⊢
  obtain ⟨d1, done⟩ := a
  obtain ⟨e1, done'⟩ := b
  cases hpayload
  cases done with
  | false => exact ⟨rfl, hfirst⟩
  | true =>
    cases i.isWritable with
    | false => exact ⟨rfl, hfirst⟩
    | true =>
      obtain ⟨hinfo, hboth⟩ := hfirst.written (infoName_mem key) (.text i.text)
      dsimp only [Bool.not_true] at hinfo hboth ⊢
      generalize d1.writeAtomic (infoName key) (.text i.text) = a at hinfo hboth ⊢
      generalize e1.writeAtomic (infoName key) (.text i.text) = b at hinfo hboth ⊢
      obtain ⟨d2, done⟩ := a
      obtain ⟨e2, done'⟩ := b
      cases hinfo
      cases done <;> exact ⟨rfl, hboth⟩

/-- What is written under another key stands apart. -/
theorem agrees_of_save {key' : String} (hne : key' ≠ key) (base stamp : String) (s : Snapshot τ)
    (h : c.folder.Agrees (fileNames key) c.folder) :
    c.folder.Agrees (fileNames key) (save base stamp (.text key') s c).1.folder := by
  have hkept {d : Folder τ} (hm : d.Matches (save base stamp (.text key') s c).1.folder)
      (hs : d.Sound) (hpayload : payloadAt d key = payloadAt c.folder key)
      (hinfo : infoAt d key = infoAt c.folder key) :
      c.folder.Agrees (fileNames key) (save base stamp (.text key') s c).1.folder := by
    refine ⟨⟨h.sound.1, hm.sound hs⟩, fun n hn => ⟨(h.files n hn).1, ?_⟩⟩
    rw [hm.files n (h.files n hn).1]
    simp only [fileNames, List.mem_cons, List.not_mem_nil, or_false] at hn
    rcases hn with rfl | rfl
    · exact hpayload
    · exact hinfo
  have hapart {k : String} {i : Info} (hp : Prepares stamp (.text key') s k i) : key ≠ k := by
    rintro rfl
    exact hne (plain_of_validateKey hp.valid)
  rcases save_cases base stamp (.text key') s c with
    ⟨k, i, hp, _, _, hm⟩ | ⟨_, _, ⟨k, i, hp, hm⟩ | hm⟩
  · exact hkept hm ((h.sound.1.put _ _).put _ _) (by rw [payloadAt_withBoth, if_neg (hapart hp)])
      (by rw [infoAt_withBoth, if_neg (hapart hp)])
  · exact hkept hm (h.sound.1.put _ _) (by rw [payloadAt_withPayload, if_neg (hapart hp)])
      (infoAt_withPayload _ _ _ _)
  · exact hkept hm h.sound.1 rfl rfl

theorem keyed (base stamp : String) : (store base stamp : Store τ).Keyed part := by
  refine ⟨fun key => ⟨?_, ?_, ?_⟩, fun key key' hne s c hc => agrees_of_save hne base stamp s hc⟩
  · intro c c' hc
    show holds (.text key) c' = holds (.text key) c
    cases hk : validateKey (.text key) with
    | error f =>
      unfold holds
      rw [hk]
      rfl
    | ok k =>
      obtain rfl : key = k := plain_of_validateKey hk
      rw [holds_eq hk hc.sound.1.present, holds_eq hk hc.sound.2.present, payloadAt_of_agrees hc]
  · intro c c' hc
    refine load_congr hc.sound.1.present hc.sound.2.present fun k hk => ?_
    obtain rfl : key = k := plain_of_validateKey hk
    exact payloadAt_of_agrees hc
  · intro s c c' hc
    show (save base stamp (.text key) s c').2 = (save base stamp (.text key) s c).2 ∧
      (part key).r (save base stamp (.text key) s c).1 (save base stamp (.text key) s c').1
    by_cases hprepared : ∃ k i, Prepares stamp (.text key) s k i
    · obtain ⟨k, i, hp⟩ := hprepared
      obtain rfl : key = k := plain_of_validateKey hp.valid
      rw [save_prepared hp, save_prepared hp]
      exact writeBoth_agrees hc base _ i
    · obtain ⟨f, hf⟩ := save_unprepared base fun k i hp => hprepared ⟨k, i, hp⟩
      rw [hf, hf]
      exact ⟨rfl, hc⟩

end Checkpoint.Directory

/-! ## Outlets -/

def Outlets.slot (n : Nat) : Semblance Outlets where
  r o o' := o'.slots[n]? = o.slots[n]?
  symm := Eq.symm
  trans h h' := h'.trans h

namespace Capture

theorem heeds_of_update {n : Nat} (f : Outlet → Outlet) :
    Heeds (Outlets.slot n) fun o => .done (o.update n f) := by
  intro o o' ho
  refine ⟨?_, rfl, rfl⟩
  show (o'.slots.modify n f)[n]? = (o.slots.modify n f)[n]?
  rw [List.getElem?_modify_eq, List.getElem?_modify_eq, show o'.slots[n]? = o.slots[n]? from ho]

theorem misses_of_update {s : Sight τ} {n m : Nat} (hs : s.outlets = Outlets.slot m) (hne : n ≠ m)
    (f : Outlet → Outlet) : s.Misses fun o => .done (o.update n f) := by
  intro o ho
  refine ⟨?_, fun _ hname => absurd hname List.not_mem_nil⟩
  rw [hs]
  show (o.slots.modify n f)[m]? = o.slots[m]?
  exact List.getElem?_modify_ne f o.slots hne

/-- An observer that captures records goes by its outlet. -/
theorem observer_heeds (n : Nat) : (observer n : Observer τ).Heeds (Outlets.slot n) := by
  refine ⟨fun _ => heeds_of_update _, ?_⟩
  rintro hook ⟨rfl⟩ _
  exact heeds_of_update _

theorem observer_unseen {s : Sight τ} {n m : Nat} (hs : s.outlets = Outlets.slot m) (hne : n ≠ m) :
    (observer n : Observer τ).Unseen s := by
  refine ⟨fun _ => misses_of_update hs hne _, ?_⟩
  rintro hook ⟨rfl⟩ _
  exact misses_of_update hs hne _

end Capture

end Minimize
