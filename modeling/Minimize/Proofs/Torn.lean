-- A store in a folder on a disk that may refuse any operation. A save that
-- fails leaves everything, or it leaves the new payload beside the old
-- information: the payload is in its place before the information is
-- written. So the information is about the snapshot that is loaded unless
-- that snapshot was put there by a save that failed.
import Minimize.Proofs.Filing

namespace Minimize.Checkpoint.Directory

variable {τ : Type} {base stamp : String} {key key' : Value} {k : String} {s : Snapshot τ}
  {i : Info} {c c' c₀ : Cabinet τ} {d : Folder τ}

/-! ## What a save leaves -/

/-- What is read under a key is the same in two cabinets. -/
def ReadsSame (base : String) (key : Value) (c c' : Cabinet τ) : Prop :=
  load base key c' = load base key c ∧ info key c' = info key c

/-- What is read after a save, against what was read before: the new snapshot
with its information; all as it was; or the new snapshot with the information
as it was. -/
inductive Leaves (base stamp : String) (key : Value) (s : Snapshot τ) (c c' : Cabinet τ) :
    Except Fault Unit → Prop
  | saved (i : Info) (hi : Info.describe key s stamp = .ok i)
      (hload : load base key c' = .ok s) (hinfo : s.Tellable → info key c' = .ok (some i))
      (hothers : ∀ key', validateKey key' ≠ validateKey key → ReadsSame base key' c c') :
      Leaves base stamp key s c c' (.ok ())
  | whole (f : Fault) (hsame : ∀ key', ReadsSame base key' c c') :
      Leaves base stamp key s c c' (.error f)
  | torn (f : Fault) (hload : load base key c' = .ok s) (hinfo : info key c' = info key c)
      (hothers : ∀ key', validateKey key' ≠ validateKey key → ReadsSame base key' c c') :
      Leaves base stamp key s c c' (.error f)

theorem readsSame_of_apart (hpresent : c.folder.isPresent = true)
    (hpresent' : c'.folder.isPresent = true) (hk : validateKey key = .ok k)
    (hpayload : ∀ k', k' ≠ k → payloadAt c'.folder k' = payloadAt c.folder k')
    (hinfo : ∀ k', k' ≠ k → infoAt c'.folder k' = infoAt c.folder k')
    (hkey : validateKey key' ≠ validateKey key) : ReadsSame base key' c c' := by
  have hne {k' : String} (hk' : validateKey key' = .ok k') : k' ≠ k := by
    rintro rfl
    exact hkey (hk'.trans hk.symm)
  exact ⟨load_congr hpresent hpresent' fun k' hk' => hpayload k' (hne hk'),
    info_congr hpresent hpresent' fun k' hk' => hinfo k' (hne hk')⟩

/-- A save leaves one of these three, whatever the disk refuses. -/
theorem save_leaves (hpresent : c.folder.isPresent = true) (base stamp : String) (key : Value)
    (s : Snapshot τ) :
    Leaves base stamp key s c (save base stamp key s c).1 (save base stamp key s c).2 := by
  rcases save_cases base stamp key s c with ⟨k, i, hp, hw, hr, hm⟩ | ⟨f, hr, ⟨k, i, hp, hm⟩ | hm⟩
  · have hpresent' := hm.present.trans hpresent
    have hpayload (k' : String) := payloadAt_of_matches hm k'
    have hinfo (k' : String) := infoAt_of_matches hm k'
    simp only [payloadAt_withBoth, infoAt_withBoth] at hpayload hinfo
    rw [hr]
    refine .saved i hp.describes ?_ (fun hs => ?_) fun key' hkey => ?_
    · exact load_pair hp.valid hpresent' ((hpayload k).trans (if_pos rfl))
    · rw [info_text hp.valid hpresent' ((hinfo k).trans (if_pos rfl)),
        ofText_of_describe hp.describes hs hw]
      rfl
    · exact readsSame_of_apart hpresent hpresent' hp.valid
        (fun k' hk' => (hpayload k').trans (if_neg hk'))
        (fun k' hk' => (hinfo k').trans (if_neg hk')) hkey
  · have hpresent' := hm.present.trans hpresent
    have hpayload (k' : String) := payloadAt_of_matches hm k'
    have hinfo (k' : String) := infoAt_of_matches hm k'
    simp only [payloadAt_withPayload, infoAt_withPayload] at hpayload hinfo
    rw [hr]
    refine .torn f ?_ ?_ fun key' hkey => ?_
    · exact load_pair hp.valid hpresent' ((hpayload k).trans (if_pos rfl))
    · exact info_congr hpresent hpresent' fun k' _ => hinfo k'
    · exact readsSame_of_apart hpresent hpresent' hp.valid
        (fun k' hk' => (hpayload k').trans (if_neg hk')) (fun k' _ => hinfo k') hkey
  · have hpresent' := hm.present.trans hpresent
    rw [hr]
    exact .whole f fun key' =>
      ⟨load_congr hpresent hpresent' fun k' _ => payloadAt_of_matches hm k',
        info_congr hpresent hpresent' fun k' _ => infoAt_of_matches hm k'⟩

/-! ## Histories -/

/-- A save at a time, or a deletion. -/
inductive Deed (τ : Type) where
  | save (stamp : String) (key : Value) (s : Snapshot τ)
  | delete (key : Value)

/-- The key of a deed, as it was given. -/
def Deed.keyValue : Deed τ → Value
  | .save _ key _ => key
  | .delete key => key

def Deed.on (base : String) (c : Cabinet τ) : Deed τ → Cabinet τ × Except Fault Unit
  | .save stamp key s => Directory.save base stamp key s c
  | .delete key => Directory.delete key c

/-- The deeds that were done since the start, each with what it came to, and the
cabinet that they left. -/
inductive History (base : String) (c₀ : Cabinet τ) :
    List (Deed τ × Except Fault Unit) → Cabinet τ → Prop
  | start : History base c₀ [] c₀
  | next {past : List (Deed τ × Except Fault Unit)} {c : Cabinet τ} (o : Deed τ)
      (h : History base c₀ past c) :
      History base c₀ (past ++ [(o, (o.on base c).2)]) (o.on base c).1

theorem History.save {past : List (Deed τ × Except Fault Unit)} {r : Except Fault Unit}
    (h : History base c₀ past c) (hs : save base stamp key s c = (c', r)) :
    History base c₀ (past ++ [(.save stamp key s, r)]) c' := by
  have hnext := h.next (.save stamp key s)
  rwa [show (Deed.save stamp key s).on base c = (c', r) from hs] at hnext

variable {past : List (Deed τ × Except Fault Unit)} {e : Deed τ × Except Fault Unit}

/-- Whether a deed went well under a key. -/
def Settles (k : String) (e : Deed τ × Except Fault Unit) : Prop :=
  e.2 = .ok () ∧ validateKey e.1.keyValue = .ok k

/-- A save of a snapshot under a key has failed, and nothing has gone well
under that key since. -/
def Failed (past : List (Deed τ × Except Fault Unit)) (k : String) (s : Snapshot τ) : Prop :=
  ∃ before stamp key f after, past = before ++ (.save stamp key s, .error f) :: after ∧
    validateKey key = .ok k ∧ ∀ e ∈ after, ¬ Settles k e

/-- What may stand as the payload of a key and the information about it: no
payload; a snapshot with its information; or a snapshot of a save that failed
with anything. -/
inductive Filed (past : List (Deed τ × Except Fault Unit)) (k : String) :
    Option (FileBody τ) → Option (FileBody τ) → Prop
  | gone (z : Option (FileBody τ)) : Filed past k none z
  | whole {s : Snapshot τ} {stamp : String} {i : Info}
      (hi : Info.describe (.text k) s stamp = .ok i) (hw : i.isWritable = true) :
      Filed past k (some (.payload (.pair s))) (some (.text i.text))
  | torn {s : Snapshot τ} (z : Option (FileBody τ)) (h : Failed past k s) :
      Filed past k (some (.payload (.pair s))) z

/-- A deed that does not go well under a key settles nothing there. -/
theorem Filed.later {y z : Option (FileBody τ)} (h : Filed past k y z) (he : ¬ Settles k e) :
    Filed (past ++ [e]) k y z := by
  cases h with
  | gone z => exact .gone z
  | whole hi hw => exact .whole hi hw
  | torn z h =>
    obtain ⟨before, stamp, key, f, after, rfl, hk, hafter⟩ := h
    refine .torn z ⟨before, stamp, key, f, after ++ [e], ?_, hk, fun e' he' => ?_⟩
    · rw [List.append_assoc]
      rfl
    · rcases List.mem_append.mp he' with he' | he'
      · exact hafter e' he'
      · exact List.mem_singleton.mp he' ▸ he

/-- A folder that is there, with files of these kinds under every key. -/
structure Kept (past : List (Deed τ × Except Fault Unit)) (d : Folder τ) : Prop where
  present : d.isPresent = true
  filed : ∀ k, Filed past k (payloadAt d k) (infoAt d k)

theorem Kept.of_matches {d' : Folder τ} (h : Kept past d) (hm : d.Matches d') : Kept past d' := by
  refine ⟨hm.present.trans h.present, fun k => ?_⟩
  rw [payloadAt_of_matches hm, infoAt_of_matches hm]
  exact h.filed k

theorem Kept.unchanged (h : Kept past d) (o : Deed τ) (f : Fault) :
    Kept (past ++ [(o, .error f)]) d :=
  ⟨h.present, fun k => (h.filed k).later fun hs => nomatch hs.1⟩

theorem Kept.saved (h : Kept past d) (hp : Prepares stamp key s k i) (hw : i.isWritable = true) :
    Kept (past ++ [(.save stamp key s, .ok ())]) (withBoth k s i d) := by
  refine ⟨h.present, fun k' => ?_⟩
  rw [payloadAt_withBoth, infoAt_withBoth]
  split
  · rename_i heq
    rw [heq]
    exact .whole ((describe_of_validateKey hp.valid s stamp).symm.trans hp.describes) hw
  · rename_i hne
    exact (h.filed k').later fun hs => hne (Except.ok.inj (hs.2.symm.trans hp.valid))

theorem Kept.torn (h : Kept past d) (hk : validateKey key = .ok k) (stamp : String)
    (s : Snapshot τ) (f : Fault) :
    Kept (past ++ [(.save stamp key s, .error f)]) (withPayload k s d) := by
  refine ⟨h.present, fun k' => ?_⟩
  rw [payloadAt_withPayload, infoAt_withPayload]
  split
  · rename_i heq
    rw [heq]
    exact .torn _ ⟨past, stamp, key, f, [], rfl, hk, fun _ he => nomatch he⟩
  · exact (h.filed k').later fun hs => nomatch hs.1

theorem Kept.deleted (h : Kept past d) (hk : validateKey key = .ok k) :
    Kept (past ++ [(.delete key, .ok ())]) (withoutBoth k d) := by
  refine ⟨h.present, fun k' => ?_⟩
  rw [payloadAt_withoutBoth, infoAt_withoutBoth]
  split
  · exact .gone _
  · rename_i hne
    exact (h.filed k').later fun hs => hne (Except.ok.inj (hs.2.symm.trans hk))

theorem Kept.half_deleted (h : Kept past d) (k : String) (key : Value) (f : Fault) :
    Kept (past ++ [(.delete key, .error f)]) (withoutPayload k d) := by
  refine ⟨h.present, fun k' => ?_⟩
  rw [payloadAt_withoutPayload, infoAt_withoutPayload]
  split
  · exact .gone _
  · exact (h.filed k').later fun hs => nomatch hs.1

theorem Kept.on (h : Kept past c.folder) (base : String) (o : Deed τ) :
    Kept (past ++ [(o, (o.on base c).2)]) (o.on base c).1.folder := by
  cases o with
  | save stamp key s =>
    show Kept (past ++ [(.save stamp key s, (Directory.save base stamp key s c).2)])
      (Directory.save base stamp key s c).1.folder
    rcases save_cases base stamp key s c with
      ⟨k, i, hp, hw, hr, hm⟩ | ⟨f, hr, ⟨k, i, hp, hm⟩ | hm⟩
    · rw [hr]
      exact (h.saved hp hw).of_matches hm
    · rw [hr]
      exact (h.torn hp.valid stamp s f).of_matches hm
    · rw [hr]
      exact (h.unchanged _ f).of_matches hm
  | delete key =>
    show Kept (past ++ [(.delete key, (Directory.delete key c).2)])
      (Directory.delete key c).1.folder
    rcases delete_cases key h.present with ⟨k, hk, hr, hm⟩ | ⟨f, hr, ⟨k, _, hm⟩ | hm⟩
    · rw [hr]
      exact (h.deleted hk).of_matches hm
    · rw [hr]
      exact (h.half_deleted k key f).of_matches hm
    · rw [hr]
      exact (h.unchanged _ f).of_matches hm

theorem History.kept (h : History base c₀ past c) (hpresent : c₀.folder.isPresent = true)
    (hfiles : c₀.folder.files = .empty) : Kept past c.folder := by
  induction h with
  | start =>
    refine ⟨hpresent, fun k => ?_⟩
    unfold payloadAt
    rw [hfiles]
    exact .gone _
  | next o _ ih => exact ih.on base o

/-! ## The law -/

/-- After any history of saves and deletions, of which the disk may refuse any
operation, a save leaves the new snapshot with its information, or fails and
leaves all as it was but for the new snapshot at most. What the information
says is true of the snapshot that is loaded, unless a save of that snapshot
failed. -/
theorem a_failed_save_leaves_no_more_than_its_payload (hpresent : c₀.folder.isPresent = true)
    (hfiles : c₀.folder.files = .empty) (h : History base c₀ past c) :
    (∀ stamp key s,
      Leaves base stamp key s c (save base stamp key s c).1 (save base stamp key s c).2) ∧
      ∀ key k s i, validateKey key = .ok k → load base key c = .ok s → s.Tellable →
        info key c = .ok (some i) →
          (∃ stamp, Info.describe key s stamp = .ok i) ∨ Failed past k s := by
  have hkept := h.kept hpresent hfiles
  refine ⟨save_leaves hkept.present base, fun key k s i hk hload hs hinfo => ?_⟩
  have hfiled := hkept.filed k
  have hread : load base key c = _ := load_eq hk hkept.present
  have hreadInfo := info_eq hk hkept.present
  rw [hload] at hread
  rw [hinfo] at hreadInfo
  generalize payloadAt c.folder k = y, infoAt c.folder k = z at hfiled hread hreadInfo
  cases hfiled with
  | gone z => cases hread
  | @whole t stamp j hi hw =>
    obtain rfl : s = t := Except.ok.inj hread
    have htext : Info.ofText j.text = .ok j := ofText_of_describe hi hs hw
    dsimp only at hreadInfo
    rw [htext] at hreadInfo
    obtain rfl : i = j := Option.some.inj (Except.ok.inj hreadInfo)
    exact .inl ⟨stamp, (describe_of_validateKey hk s stamp).trans hi⟩
  | @torn t z hfailed =>
    obtain rfl : s = t := Except.ok.inj hread
    exact .inr hfailed

/-- A cabinet with a folder on a disk that refuses its tenth operation. -/
def brittle : Cabinet Float :=
  { Cabinet.empty with folder := { Folder.empty with refuses := fun n => n == 9 } }

def afterwards : Snapshot Float :=
  let s := beforehand none
  { s with state := { s.state with book := { s.state.book with iteration := 1 } } }

def noted (iteration : Int) (stamp : String) : Info :=
  ⟨.text "a", .int iteration, .float Number.infinity, .text "SequenceSolver", .text "IterState",
    .text stamp⟩

/-- A save of a snapshot whose description can be written comes to two writes. -/
theorem save_written (hp : Prepares stamp key s k i) (hw : i.isWritable = true)
    (c : Cabinet τ) : save base stamp key s c =
      match c.folder.writeAtomic (payloadName k) (.payload (.pair s)) with
      | (d, false) => (withFolder c d, .error (.checkpoint k (.unwritable base)))
      | (d, true) =>
        match d.writeAtomic (infoName k) (.text i.text) with
        | (d', false) => (withFolder c d', .error (.checkpoint k (.unwritable base)))
        | (d', true) => (withFolder c d', .ok ()) := by
  rw [save_prepared hp]
  unfold writeBoth
  dsimp only
  rw [hw]
  generalize c.folder.writeAtomic (payloadName k) (.payload (.pair s)) = x
  obtain ⟨d, _ | _⟩ := x
  · rfl
  · dsimp only [Bool.not_true]
    generalize d.writeAtomic (infoName k) (.text i.text) = y
    obtain ⟨d', _ | _⟩ := y <;> rfl

theorem brittle_saves : ∃ c c',
    save "store" "08:00" (.text "a") (beforehand none) brittle = (c, .ok ()) ∧
      save "store" "08:01" (.text "a") afterwards c =
        (c', .error (.checkpoint "a" (.unwritable "store"))) ∧
      load "store" (.text "a") c = .ok (beforehand none) ∧
      load "store" (.text "a") c' = .ok afterwards ∧
      info (.text "a") c = .ok (some (noted 0 "08:00")) ∧
      info (.text "a") c' = .ok (some (noted 0 "08:00")) := by
  have hi : Info.describe (.text "a") (beforehand none) "08:00" = .ok (noted 0 "08:00") := rfl
  have hi' : Info.describe (.text "a") afterwards "08:01" = .ok (noted 1 "08:01") := rfl
  have hw : (noted 0 "08:00").isWritable = true :=
    (isWritable_of_describe hi).trans (Text.isWritable_of_digit (by decide))
  have hw' : (noted 1 "08:01").isWritable = true :=
    (isWritable_of_describe hi').trans (Text.isWritable_of_digit (by decide))
  have hread {c : Cabinet Float} (hpresent : c.folder.isPresent = true)
      (h : infoAt c.folder "a" = some (.text (noted 0 "08:00").text)) :
      info (.text "a") c = .ok (some (noted 0 "08:00")) := by
    rw [info_text rfl hpresent h, ofText_of_describe hi (tellable_beforehand none) hw]
    rfl
  exact ⟨_, _, (save_written ⟨rfl, rfl, hi⟩ hw _).trans rfl,
    (save_written ⟨rfl, rfl, hi'⟩ hw' _).trans rfl, rfl, rfl, hread rfl rfl, hread rfl rfl⟩

/-- The law for these saves: the information is not about the snapshot that is
loaded in the end, so the save of that has failed. -/
theorem a_brittle_folder_keeps_the_law : ∃ past c, History "store" brittle past c ∧
    load "store" (.text "a") c = .ok afterwards ∧ Failed past "a" afterwards := by
  obtain ⟨c, c', hsave, hsave', _, hload, _, hinfo⟩ := brittle_saves
  have hpast := (History.start.save hsave).save hsave'
  obtain ⟨_, hlaw⟩ := a_failed_save_leaves_no_more_than_its_payload rfl rfl hpast
  refine ⟨_, c', hpast, hload, ?_⟩
  rcases hlaw _ "a" _ _ rfl hload (tellable_beforehand none) hinfo with ⟨stamp, hi⟩ | hfailed
  · cases hi
  · exact hfailed

/-- The second save fails and leaves another snapshot than the one before, and
the information is still about that one. -/
theorem a_failed_save_can_leave_a_snapshot_undescribed : ∃ c c' f,
    save "store" "08:00" (.text "a") (beforehand none) brittle = (c, .ok ()) ∧
      save "store" "08:01" (.text "a") afterwards c = (c', .error f) ∧
      load "store" (.text "a") c = .ok (beforehand none) ∧
      load "store" (.text "a") c' = .ok afterwards ∧
      info (.text "a") c' = .ok (some (noted 0 "08:00")) ∧
      (beforehand none).state.book.iteration = 0 ∧ afterwards.state.book.iteration = 1 ∧
      (noted 0 "08:00").iteration = .int 0 := by
  obtain ⟨c, c', hsave, hsave', hload, hload', _, hinfo⟩ := brittle_saves
  exact ⟨c, c', _, hsave, hsave', hload, hload', hinfo, rfl, rfl, rfl⟩

end Minimize.Checkpoint.Directory
