-- Executors of which nothing is seen by a sight. Every part of their runs leaves
-- a world as it looks, and an executor of which nothing is seen.
import Minimize.Proofs.Course
import Minimize.Proofs.Sight

namespace Minimize

variable {τ : Type}

/-! ## Executors -/

/-- That nothing is seen of what an executor does. -/
structure Sight.Ignores (s : Sight τ) (solver : Solver τ) (observers : Registry τ)
    (policy : Option (Policy τ)) : Prop where
  solver : ∀ kind st, (solver.call kind st).Unseen s
  observers : ∀ e ∈ observers.entries, e.2.observer.Unseen s
  policy : ∀ p, policy = some p → p.store.Unseen (.text p.key) (s.cabinets p.cabinet)

/-- An executor of which nothing is seen. -/
def Executor.Unseen (s : Sight τ) (e : Executor τ) : Prop :=
  s.Ignores e.solver e.observers e.policy

namespace Engine

variable [Clock τ] {s : Sight τ} {g g' h : Engine τ}

/-! ## Engines -/

/-- A later moment of an engine. If nothing is seen of what its executor does,
this is so later on, and the world looks as it did. -/
structure Hides (s : Sight τ) (g h : Engine τ) : Prop where
  executor : g.executor.Unseen s → h.executor.Unseen s
  world : g.executor.Unseen s → s.Alike g.world g.world → s.Alike g.world h.world

omit [Clock τ] in
theorem Hides.refl (s : Sight τ) (g : Engine τ) : g.Hides s g := ⟨id, fun _ => id⟩

omit [Clock τ] in
theorem Hides.trans (hs : g.Hides s g') (hs' : g'.Hides s h) : g.Hides s h :=
  ⟨fun hg => hs'.executor (hs.executor hg), fun hg hw =>
    (hs.world hg hw).trans (hs'.world (hs.executor hg) (hs.world hg hw).right)⟩

omit [Clock τ] in
theorem Hides.bind {x : Attempt τ} {f : Engine τ → Attempt τ} (h : g.Hides s x.left)
    (hf : ∀ g' : Engine τ, g'.Hides s (f g').left) :
    g.Hides s (Attempt.left (Except.bind x f)) := by
  cases x with
  | error e => exact h
  | ok g' => exact h.trans (hf g')

/-! ## Parts of a run -/

omit [Clock τ] in
theorem note_hides (g : Engine τ) (e : Event τ) : g.Hides s (g.note e) :=
  ⟨id, fun _ hw => hw.noted e⟩

theorem consult_hides (kind : CallKind) (g : Engine τ) :
    g.Hides s (Attempt.left ((g.consult kind).map (·.1))) := by
  have hworld : g.executor.Unseen s → s.Alike g.world g.world →
      s.Alike g.world (g.asked kind).world := fun hg hw =>
    (hw.noted _).trans (Call.run_unseen (hg.solver _ _) _ (hw.noted _).right)
  unfold consult
  dsimp only
  split
  · exact ⟨id, hworld⟩
  · exact ⟨id, hworld⟩

theorem merge_hides (g : Engine τ) (r : Returned τ) (book : Bookkeeping τ) (i : Int)
    (started : τ) : g.Hides s (Attempt.left (g.merge r book i started)) := by
  unfold merge
  dsimp only
  split
  · split
    · exact ⟨id, fun _ => id⟩
    · exact .refl s g
  · split
    · exact ⟨id, fun _ => id⟩
    · exact ⟨id, fun _ => id⟩

theorem judge_hides (g : Engine τ) : g.Hides s (Attempt.left g.judge) := by
  obtain ⟨t, ht⟩ := judge_left g
  rw [ht]
  exact ⟨id, fun _ => id⟩

theorem complete_hides (g : Engine τ) (record : Option Record) :
    g.Hides s (Attempt.left (g.complete record)) := by
  unfold complete
  dsimp only
  split
  · exact .refl s g
  · exact ⟨id, fun _ hw => hw.noted _⟩

omit [Clock τ] in
theorem afterSave_hides (g : Engine τ) (p : Policy τ) (r : SaveResult) :
    g.Hides s (Attempt.left (g.afterSave p r)) := by
  cases r with
  | notDue => exact .refl s g
  | saved => exact note_hides g _
  | failed f =>
    unfold afterSave
    dsimp only
    split
    · exact .refl s g
    · exact ⟨id, fun _ hw => hw.noted _⟩

omit [Clock τ] in
theorem save_hides (g : Engine τ) (final : Bool) : g.Hides s (Attempt.left (g.save final)) := by
  cases hp : g.executor.policy with
  | none =>
    unfold save
    rw [hp]
    exact .refl s g
  | some p =>
    rw [save_eq hp]
    dsimp only
    refine Hides.trans ?_ (afterSave_hides _ p _)
    obtain ⟨i, hi⟩ := p.maybeSave_tried ⟨g.executor.solver, g.executor.state⟩ final
      ((if p.isDue g.executor.state.book.iteration final then
        g.world.note (.attempted p.key g.executor.state.book.iteration)
        else g.world).cabinet p.cabinet)
    rw [hi]
    refine ⟨fun hg => ⟨hg.solver, hg.observers, ?_⟩, fun hg hw => ?_⟩
    · rintro _ ⟨rfl⟩
      exact hg.policy p hp
    · have hattempted : s.Alike g.world
          (if p.isDue g.executor.state.book.iteration final then
            g.world.note (.attempted p.key g.executor.state.book.iteration) else g.world) := by
        split
        · exact hw.noted _
        · exact hw
      exact hattempted.trans (Sight.unseen_putCabinet hattempted.right
        (Policy.maybeSave_unseen (hg.policy p hp) (hattempted.right.cabinets p.cabinet) _ final))

omit [Clock τ] in
theorem dispatch_hides (g : Engine τ) : g.Hides s g.dispatch := by
  refine ⟨id, fun hg hw => ?_⟩
  have hmisses : ∀ e ∈ g.executor.observers.entries, ∀ hook,
      (Word.iteration g.executor.state.record g.executor.state.book.iteration
        g.executor.improved).hook e = some hook → s.Misses hook := by
    intro e he hook hhook
    unfold Word.iteration at hhook
    dsimp only at hhook
    split at hhook
    · cases hhook
      exact (hg.observers e he).notify _
    · cases hhook
  have hworld := Word.say_unseen _ hmisses hw []
  rw [← Registry.dispatch_eq] at hworld
  exact hworld

omit [Clock τ] in
theorem enter_hides (kind : CallKind) (g : Engine τ) : g.Hides s (g.enter kind) := by
  cases kind <;> exact ⟨id, fun _ => id⟩

theorem take_hides (kind : CallKind) (started : τ) (g : Engine τ) :
    g.Hides s (Attempt.left ((g.take kind started).map (·.1))) := by
  have hconsult := consult_hides (s := s) kind g
  unfold take
  cases hc : g.consult kind with
  | error f =>
    rw [hc] at hconsult
    exact hconsult
  | ok a =>
    rw [hc] at hconsult
    have hmerge := merge_hides (s := s) a.1 (a.2.placed kind g.executor.state)
      (g.kept kind) (kind.target g.executor.state.book.iteration) started
    dsimp only [bind, Except.bind]
    cases hm : a.1.merge (a.2.placed kind g.executor.state) (g.kept kind)
        (kind.target g.executor.state.book.iteration) started with
    | error f =>
      rw [hm] at hmerge
      exact hconsult.trans hmerge
    | ok b =>
      rw [hm] at hmerge
      exact hconsult.trans hmerge

theorem iterate_hides (kind : CallKind) (started : τ) (g : Engine τ) :
    g.Hides s (Attempt.left (g.iterate kind started)) := by
  have hadvance : g.Hides s (Attempt.left (g.advance kind started)) := by
    refine (enter_hides kind g).trans ?_
    have htake := take_hides (s := s) kind started (g.enter kind)
    unfold advance
    cases ht : (g.enter kind).take kind started with
    | error f =>
      rw [ht] at htake
      exact htake
    | ok a =>
      rw [ht] at htake
      exact htake.trans ((judge_hides a.1).bind fun g' => complete_hides g' a.2)
  rw [iterate_eq]
  exact hadvance.bind fun u => (save_hides u false).bind fun v => dispatch_hides v

omit [Clock τ] in
theorem resume_hides (g : Engine τ) {snapshot : Snapshot τ}
    (hx : ∀ kind st, (snapshot.solver.call kind st).Unseen s) :
    g.Hides s ((g.settled.noteLoaded snapshot).resume snapshot) := by
  have hloaded : g.Hides s (g.settled.noteLoaded snapshot) := by
    unfold noteLoaded
    cases hp : g.settled.executor.policy with
    | none => exact ⟨id, fun _ => id⟩
    | some p =>
      refine ⟨fun hg => ⟨hg.solver, hg.observers, ?_⟩, fun _ hw => hw.noted _⟩
      rintro _ ⟨rfl⟩
      exact hg.policy p hp
  refine hloaded.trans ?_
  generalize g.settled.noteLoaded snapshot = u
  unfold resume
  dsimp only
  split
  · exact ⟨fun hg => ⟨hx, hg.observers, hg.policy⟩, fun _ hw => (hw.notes _ _).noted _⟩
  · exact ⟨fun hg => ⟨hx, hg.observers, hg.policy⟩, fun _ hw => hw.notes _ _⟩

/-- The beginning of a run, if nothing is seen of the solver that it may go on
with. -/
theorem start_hides (started : τ) {g : Engine τ} (hx : ∀ snapshot, g.stored = .ok (some snapshot) →
      ∀ kind st, (snapshot.solver.call kind st).Unseen s) :
    g.Hides s (Attempt.left (g.start started)) := by
  unfold start
  split
  · exact .refl s g
  · rename_i snapshot hs
    exact resume_hides g (hx snapshot hs)
  · have hiterate := iterate_hides (s := s) .opening started g.settled
    exact ⟨hiterate.executor, hiterate.world⟩

omit [Clock τ] in
theorem concluded_hides (name : String) (x : Attempt τ) :
    x.left.Hides s (concluded name x).1 := by
  have hclose (g : Engine τ) (error : Option Fault) : g.Hides s (g.close name error).1 := by
    refine ⟨id, fun hg hw => ?_⟩
    have hmisses : ∀ e ∈ g.executor.observers.entries, ∀ hook,
        (Word.finish ((g.withPhase .terminated).outcome error)).hook e = some hook →
          s.Misses hook := by
      intro e he hook hhook
      obtain ⟨f, hf, rfl⟩ := Option.map_eq_some_iff.mp hhook
      exact (hg.observers e he).finish f hf _
    have hworld := Word.say_unseen _ hmisses hw []
    rw [← Registry.finish_eq] at hworld
    unfold close noteEnded
    dsimp only
    split
    · exact hworld.noted _
    · exact hworld
  cases x with
  | ok g => exact hclose g none
  | error f =>
    have hfailed : f.engine.Hides s (f.engine.markFailed name f.fault) := by
      unfold markFailed
      dsimp only
      split
      · exact note_hides _ _
      · exact ⟨id, fun _ hw => hw.noted _⟩
    exact hfailed.trans (hclose _ (some f.fault))

end Engine

end Minimize
