-- Engines with one executor in worlds that look alike. If the executor goes by
-- the sight, every part of a run comes to the same in both, and leaves one
-- executor in worlds that look alike.
import Minimize.Proofs.Sight

namespace Minimize

variable {τ : Type}

/-! ## Executors -/

namespace Sight

/-- That what an executor uses goes by a sight. -/
structure Guides (s : Sight τ) (settings : Settings) (observers : Registry τ)
    (policy : Option (Policy τ)) (signal : Option Nat) : Prop where
  timed : settings.timer = true → s.timed
  observers : ∀ e ∈ observers.entries, e.2.observer.Heeds s.outlets
  policy : ∀ p, policy = some p → p.store.Heeds (.text p.key) (s.cabinets p.cabinet)
  signal : ∀ n, signal = some n → s.signals n

theorem Guides.tried {s : Sight τ} {settings : Settings} {observers : Registry τ}
    {policy : Option (Policy τ)} {signal : Option Nat}
    (hm : s.Guides settings observers policy signal) {p : Policy τ} (hp : policy = some p)
    (i : Option Int) : s.Guides settings observers (some { p with lastAttempted := i }) signal := by
  refine ⟨hm.timed, hm.observers, ?_, hm.signal⟩
  rintro _ ⟨rfl⟩
  exact hm.policy p hp

end Sight

/-- An executor that goes by a sight. -/
def Executor.Heeds (s : Sight τ) (e : Executor τ) : Prop :=
  s.Guides e.settings e.observers e.policy e.signal

namespace Engine

/-- One executor, which goes by a sight, in worlds that look alike. -/
inductive Echoes (s : Sight τ) (g : Engine τ) : Engine τ → Prop
  | echoes {w : World τ} (heeds : g.executor.Heeds s) (world : s.Alike g.world w) :
      Echoes s g ⟨g.executor, w⟩

variable {s : Sight τ} {g g' h h' : Engine τ}

theorem Echoes.executor (he : g.Echoes s h) : h.executor = g.executor := by
  cases he
  rfl

theorem Echoes.heeds (he : g.Echoes s h) : g.executor.Heeds s := by
  obtain ⟨hm, _⟩ := he
  exact hm

theorem Echoes.world (he : g.Echoes s h) : s.Alike g.world h.world := by
  obtain ⟨_, hw⟩ := he
  exact hw

theorem Echoes.symm (he : g.Echoes s h) : h.Echoes s g := by
  obtain ⟨hm, hw⟩ := he
  exact .echoes (g := ⟨g.executor, _⟩) hm hw.symm

theorem Echoes.trans (he : g.Echoes s h) (he' : h.Echoes s h') : g.Echoes s h' := by
  obtain ⟨hm, hw⟩ := he
  obtain ⟨_, hw'⟩ := he'
  exact .echoes hm (hw.trans hw')

theorem Echoes.left (he : g.Echoes s h) : g.Echoes s g := he.trans he.symm

theorem Echoes.inWorld (he : g.Echoes s h) {w : World τ} (hw : s.Alike h.world w) :
    g.Echoes s { h with world := w } := by
  obtain ⟨hm, hgw⟩ := he
  exact .echoes hm (hgw.trans hw)

theorem Echoes.withState (he : g.Echoes s h) (st : State τ) :
    (g.withState st).Echoes s (h.withState st) := by
  obtain ⟨hm, hw⟩ := he
  exact .echoes hm hw

theorem Echoes.note (he : g.Echoes s h) (e e' : Event τ) :
    (g.note e).Echoes s (h.note e') := by
  obtain ⟨hm, hw⟩ := he
  exact .echoes hm (hw.note e e')

theorem Echoes.warn (he : g.Echoes s h) (fs : List Fault) :
    (g.warn fs).Echoes s (h.warn fs) := by
  obtain ⟨hm, hw⟩ := he
  exact .echoes hm hw

theorem Echoes.aborted (he : g.Echoes s h) : h.aborted = g.aborted := by
  obtain ⟨hm, hw⟩ := he
  unfold Engine.aborted World.isRaised
  cases hs : g.executor.signal with
  | none => rfl
  | some n =>
    dsimp only
    rw [hw.signals n (hm.signal n hs)]

variable [Clock τ] {started started' : τ}

/-! ## One iteration -/

/-- What is asked of the solver comes to the same, but for the world. -/
theorem Echoes.asked (he : g.Echoes s h) (kind : CallKind) :
    ∃ v, h.asked kind = { g.asked kind with world := v } ∧ s.Alike (g.asked kind).world v := by
  obtain ⟨_, hw⟩ := he
  exact Call.run_alike _ _ (hw.note _ _)

theorem Echoes.kept (he : g.Echoes s h) (kind : CallKind) : h.kept kind = g.kept kind := by
  obtain ⟨_, hv, _⟩ := he.asked kind
  unfold Engine.kept
  rw [hv, he.executor]

theorem Echoes.consult (he : g.Echoes s h) (kind : CallKind) :
    Attempt.Both (fun a b => a.1.Echoes s b.1 ∧ b.2 = a.2) (Echoes s) (g.consult kind)
      (h.consult kind) := by
  obtain ⟨v, hv, hvw⟩ := he.asked kind
  obtain @⟨w, hm, hw⟩ := he
  unfold Engine.consult
  rw [hv]
  dsimp only
  cases (g.asked kind).answer.returned g.executor.solver kind (g.asked kind).left with
  | error f => exact .error (.echoes hm hvw)
  | ok r => exact .ok ⟨.echoes hm hvw, rfl⟩

theorem Echoes.merge (he : g.Echoes s h) (r : Returned τ) (book : Bookkeeping τ) (i : Int)
    (ht : s.timed → started' = started) :
    Attempt.Both (Echoes s) (Echoes s) (g.merge r book i started) (h.merge r book i started') := by
  obtain @⟨w, hm, hw⟩ := he
  have hcarried : Engine.carried ⟨g.executor, w⟩ r.state book i started' =
      g.carried r.state book i started := by
    unfold Engine.carried Engine.elapsed
    dsimp only
    cases htimer : g.executor.settings.timer with
    | false => rfl
    | true =>
      have htimed := hm.timed htimer
      rw [hw.clock htimed, ht htimed]
  unfold Engine.merge
  dsimp only
  rw [hcarried]
  cases (g.carried r.state book i started).recordBest with
  | error e => cases r.inPlace <;> exact .error (.echoes hm hw)
  | ok x => cases r.inPlace <;> exact .ok (.echoes hm hw)

omit [Clock τ] in
theorem Echoes.enter (he : g.Echoes s h) (kind : CallKind) :
    (g.enter kind).Echoes s (h.enter kind) := by
  obtain ⟨hm, hw⟩ := he
  cases kind <;> exact .echoes hm hw

theorem Echoes.take (he : g.Echoes s h) (kind : CallKind) (ht : s.timed → started' = started) :
    Attempt.Both (fun a b => a.1.Echoes s b.1 ∧ b.2 = a.2) (Echoes s) (g.take kind started)
      (h.take kind started') := by
  unfold Engine.take
  refine (he.consult kind).bind fun a b _ _ hab => ?_
  obtain ⟨u, r⟩ := a
  obtain ⟨v, r'⟩ := b
  obtain ⟨huv, rfl⟩ := hab
  dsimp only
  rw [he.executor, he.kept kind]
  exact (huv.merge _ _ _ ht).bind fun a' b' _ _ h' => .ok ⟨h', rfl⟩

theorem Echoes.questioned (he : g.Echoes s h) : h.questioned = g.questioned := by
  unfold Engine.questioned
  rw [he.executor, he.aborted]

theorem Echoes.judge (he : g.Echoes s h) :
    Attempt.Both (Echoes s) (Echoes s) g.judge h.judge := by
  unfold Engine.judge
  rw [he.questioned]
  dsimp only
  rw [he.executor, he.aborted]
  split
  · exact .ok he
  · split
    · exact .error (he.withState _)
    · exact .ok (he.withState _)
    · split
      · exact .error (he.withState _)
      · exact .ok (he.withState _)

theorem Echoes.complete (he : g.Echoes s h) (record : Option Record) :
    Attempt.Both (Echoes s) (Echoes s) (g.complete record) (h.complete record) := by
  unfold Engine.complete
  dsimp only
  rw [he.executor]
  split
  · exact .error he
  · exact .ok ((he.withState _).note _ _)

omit [Clock τ] in
theorem Echoes.afterSave (he : g.Echoes s h) (p : Policy τ) (r : SaveResult) :
    Attempt.Both (Echoes s) (Echoes s) (g.afterSave p r) (h.afterSave p r) := by
  cases r with
  | notDue => exact .ok he
  | saved =>
    unfold Engine.afterSave
    exact .ok (he.note _ _)
  | failed f =>
    unfold Engine.afterSave
    dsimp only
    cases p.fatal with
    | true => exact .error he
    | false => exact .ok ((he.note _ _).warn _)

omit [Clock τ] in
theorem Echoes.save (he : g.Echoes s h) (final : Bool) :
    Attempt.Both (Echoes s) (Echoes s) (g.save final) (h.save final) := by
  obtain @⟨w, hm, hw⟩ := he
  cases hp : g.executor.policy with
  | none =>
    have hg : g.save final = .ok g := by
      unfold Engine.save
      rw [hp]
    have hh : Engine.save ⟨g.executor, w⟩ final = .ok ⟨g.executor, w⟩ := by
      unfold Engine.save
      rw [hp]
    rw [hg, hh]
    exact .ok (.echoes hm hw)
  | some p =>
    rw [save_eq hp, save_eq (g := ⟨g.executor, w⟩) hp]
    dsimp only
    have hattempted : s.Alike
        (if p.isDue g.executor.state.book.iteration final then
          g.world.note (.attempted p.key g.executor.state.book.iteration) else g.world)
        (if p.isDue g.executor.state.book.iteration final then
          w.note (.attempted p.key g.executor.state.book.iteration) else w) := by
      split
      · exact hw.note _ _
      · exact hw
    obtain ⟨hpolicy, hcabinet, hresult⟩ := Policy.maybeSave_alike (hm.policy p hp)
      (hattempted.cabinets p.cabinet) ⟨g.executor.solver, g.executor.state⟩ final
    rw [hpolicy, hresult]
    obtain ⟨i, hi⟩ := p.maybeSave_tried ⟨g.executor.solver, g.executor.state⟩ final
      ((if p.isDue g.executor.state.book.iteration final then
        g.world.note (.attempted p.key g.executor.state.book.iteration)
        else g.world).cabinet p.cabinet)
    rw [hi]
    refine Echoes.afterSave ?_ p _
    exact .echoes (hm.tried hp i) (hattempted.putCabinet hcabinet)

omit [Clock τ] in
theorem Echoes.dispatch (he : g.Echoes s h) : g.dispatch.Echoes s h.dispatch := by
  obtain @⟨w, hm, hw⟩ := he
  have hheeds : ∀ e ∈ g.executor.observers.entries, ∀ hook,
      (Word.iteration g.executor.state.record g.executor.state.book.iteration
        g.executor.improved).hook e = some hook → Heeds s.outlets hook := by
    intro e he hook hhook
    unfold Word.iteration at hhook
    dsimp only at hhook
    split at hhook
    · cases hhook
      exact (hm.observers e he).notify _
    · cases hhook
  obtain ⟨hworld, hfaults⟩ := Word.say_alike _ hheeds hw []
  rw [← Registry.dispatch_eq, ← Registry.dispatch_eq] at hworld hfaults
  have hh : Engine.dispatch ⟨g.executor, w⟩ = ⟨g.dispatch.executor,
      (g.executor.observers.dispatch g.executor.state.record g.executor.state.book.iteration
        g.executor.improved w).1⟩ := by
    unfold Engine.dispatch Engine.warn
    dsimp only
    rw [hfaults]
  rw [hh]
  exact .echoes hm hworld

theorem Echoes.advance (he : g.Echoes s h) (kind : CallKind) (ht : s.timed → started' = started) :
    Attempt.Both (Echoes s) (Echoes s) (g.advance kind started) (h.advance kind started') := by
  unfold Engine.advance
  refine ((he.enter kind).take kind ht).bind fun a b _ _ hab => ?_
  obtain ⟨u, record⟩ := a
  obtain ⟨v, record'⟩ := b
  obtain ⟨huv, rfl⟩ := hab
  exact huv.judge.bind fun a' b' _ _ h' => h'.complete record'

theorem Echoes.iterate (he : g.Echoes s h) (kind : CallKind) (ht : s.timed → started' = started) :
    Attempt.Both (Echoes s) (Echoes s) (g.iterate kind started) (h.iterate kind started') := by
  unfold Engine.iterate
  refine (he.advance kind ht).bind fun a b _ _ hab => ?_
  exact (hab.save false).bind fun a' b' _ _ h' => .ok h'.dispatch

/-! ## Runs -/

omit [Clock τ] in
theorem Echoes.settled (he : g.Echoes s h) : g.settled.Echoes s h.settled := by
  unfold Engine.settled
  rw [he.executor]
  exact he.withState _

omit [Clock τ] in
theorem Echoes.noteLoaded (he : g.Echoes s h) (snapshot : Snapshot τ) :
    (g.noteLoaded snapshot).Echoes s (h.noteLoaded snapshot) := by
  obtain @⟨w, hm, hw⟩ := he
  unfold Engine.noteLoaded
  dsimp only
  cases hp : g.executor.policy with
  | none => exact .echoes hm hw
  | some p => exact .echoes (hm.tried hp _) (hw.note _ _)

omit [Clock τ] in
theorem Echoes.resume (he : g.Echoes s h) (snapshot : Snapshot τ) :
    (g.resume snapshot).Echoes s (h.resume snapshot) := by
  obtain ⟨hm, hw⟩ := he
  have hnotes := hw.both_notes .ignoredCounter .ignoredCounter (ignoredNames snapshot.state.counts)
    (ignoredNames snapshot.state.counts)
  unfold Engine.resume
  dsimp only
  split
  · exact .echoes hm (hnotes.note _ _)
  · exact .echoes hm hnotes

omit [Clock τ] in
theorem Echoes.stored (he : g.Echoes s h) : h.stored = g.stored := by
  obtain ⟨hm, hw⟩ := he
  unfold Engine.stored
  dsimp only
  cases hp : g.executor.policy with
  | none => rfl
  | some p =>
    have hstore := hm.policy p hp
    have hcabinet := hw.cabinets p.cabinet
    dsimp only
    unfold Policy.load
    rw [hstore.holds _ _ hcabinet, hstore.load _ _ hcabinet]

theorem Echoes.start (he : g.Echoes s h) (ht : s.timed → started' = started) :
    Attempt.Both (Echoes s) (Echoes s) (g.start started) (h.start started') := by
  unfold Engine.start
  rw [he.stored]
  split
  · exact .error he
  · exact .ok ((he.settled.noteLoaded _).resume _)
  · exact he.settled.iterate .opening ht

/-- Engines that echo each other and have come to their end save alike. -/
theorem Echoes.ended (he : g.Echoes s h) (hg : g.executor.state.terminated = true) (limit : Nat) :
    Option.Rel (Attempt.Both (Echoes s) (Echoes s)) (g.onward started limit)
      (h.onward started' limit) := by
  have hh : h.executor.state.terminated = true := by rw [he.executor, hg]
  rw [onward_terminated _ _ hg, onward_terminated _ _ hh]
  exact .some (he.save true)

/-- Engines that echo each other go on alike: neither ends within a number of
iterations, or both do, and come to the same. -/
theorem Echoes.onward (he : g.Echoes s h) (ht : s.timed → started' = started) (limit : Nat) :
    Option.Rel (Attempt.Both (Echoes s) (Echoes s)) (g.onward started limit)
      (h.onward started' limit) := by
  induction limit generalizing g h with
  | zero =>
    cases hg : g.executor.state.terminated with
    | true => exact he.ended hg 0
    | false =>
      rw [onward_zero _ hg, onward_zero _ (by rw [he.executor, hg])]
      exact .none
  | succ limit ih =>
    cases hg : g.executor.state.terminated with
    | true => exact he.ended hg (limit + 1)
    | false =>
      rw [onward_step _ _ hg, onward_step _ _ (by rw [he.executor, hg])]
      have hboth := he.iterate .step ht
      generalize g.iterate .step started = x at hboth ⊢
      generalize h.iterate .step started' = y at hboth ⊢
      cases hboth with
      | ok he' => exact ih he'
      | error he' => exact .some (.error he')

theorem Echoes.attempt (he : g.Echoes s h) (limit : Nat) :
    Option.Rel (Attempt.Both (Echoes s) (Echoes s)) (g.attempt limit) (h.attempt limit) := by
  have hboth := he.start he.world.clock
  unfold Engine.attempt
  dsimp only
  generalize g.start g.world.clock = x at hboth ⊢
  generalize h.start h.world.clock = y at hboth ⊢
  cases hboth with
  | ok he' => exact he'.onward he.world.clock limit
  | error he' => exact .some (.error he')

omit [Clock τ] in
theorem Echoes.markFailed (he : g.Echoes s h) (name : String) (f : Fault) :
    (g.markFailed name f).Echoes s (h.markFailed name f) := by
  unfold Engine.markFailed
  dsimp only
  rw [he.executor]
  split
  · exact he.note _ _
  · exact (he.note _ _).withState _

omit [Clock τ] in
theorem Echoes.noteEnded (he : g.Echoes s h) (name : String) (o : Outcome τ) :
    (g.noteEnded name o).Echoes s (h.noteEnded name o) := by
  unfold Engine.noteEnded
  split
  · exact he.note _ _
  · exact he

omit [Clock τ] in
theorem Echoes.outcome (he : g.Echoes s h) (error : Option Fault) :
    h.outcome error = g.outcome error := by
  unfold Engine.outcome
  rw [he.executor]

omit [Clock τ] in
theorem Echoes.lastWord (he : g.Echoes s h) (name : String) (error : Option Fault) :
    (g.noteEnded name (g.outcome error)).Echoes s (h.noteEnded name (h.outcome error)) := by
  rw [he.outcome error]
  exact he.noteEnded name _

omit [Clock τ] in
theorem Echoes.close (he : g.Echoes s h) (name : String) (error : Option Fault) :
    (g.close name error).1.Echoes s (h.close name error).1 ∧
      (h.close name error).2 = (g.close name error).2 := by
  obtain @⟨w, hm, hw⟩ := he
  have hheeds : ∀ e ∈ g.executor.observers.entries, ∀ hook,
      (Word.finish ((g.withPhase .terminated).outcome error)).hook e = some hook →
        Heeds s.outlets hook := by
    intro e he hook hhook
    obtain ⟨f, hf, rfl⟩ := Option.map_eq_some_iff.mp hhook
    exact (hm.observers e he).finish f hf _
  obtain ⟨hworld, hfaults⟩ := Word.say_alike _ hheeds hw []
  rw [← Registry.finish_eq, ← Registry.finish_eq] at hworld hfaults
  have hsame : (Engine.withPhase ⟨g.executor, w⟩ .terminated).executor =
      (g.withPhase .terminated).executor := rfl
  have houtcome : (Engine.withPhase ⟨g.executor, w⟩ .terminated).outcome error =
      (g.withPhase .terminated).outcome error := rfl
  unfold Engine.close
  dsimp only
  rw [houtcome, hsame]
  generalize ha : (g.withPhase .terminated).executor.observers.finish
    ((g.withPhase .terminated).outcome error) (g.withPhase .terminated).world = a
  generalize hb : (g.withPhase .terminated).executor.observers.finish
    ((g.withPhase .terminated).outcome error)
    (Engine.withPhase ⟨g.executor, w⟩ .terminated).world = b
  obtain ⟨v, fs⟩ := a
  obtain ⟨v', fs'⟩ := b
  have hv : s.Alike (v, fs).1 (v', fs').1 := by
    rw [← ha, ← hb]
    exact hworld
  obtain rfl : (v', fs').2 = (v, fs).2 := by
    rw [← ha, ← hb]
    exact hfaults
  have hwarned : (Engine.warn ⟨(g.withPhase .terminated).executor, v⟩ fs').Echoes s
      (Engine.warn ⟨(g.withPhase .terminated).executor, v'⟩ fs') :=
    Echoes.warn (Echoes.echoes (g := ⟨(g.withPhase .terminated).executor, v⟩) hm hv) fs'
  exact ⟨hwarned.lastWord name error, hwarned.outcome error⟩

omit [Clock τ] in
theorem concluded_echoes {x y : Attempt τ} (name : String)
    (hxy : Attempt.Both (Echoes s) (Echoes s) x y) :
    (concluded name x).1.Echoes s (concluded name y).1 ∧
      (concluded name y).2 = (concluded name x).2 := by
  cases hxy with
  | ok he => exact he.close name none
  | error he => exact (he.markFailed name _).close name _

omit [Clock τ] in
theorem Echoes.begun (he : g.Echoes s h) : g.begun.Echoes s h.begun := he.note _ _

/-- Engines that echo each other run alike: neither can be run, or neither ends
within a number of iterations, or both come to the same outcome. -/
theorem Echoes.run (he : g.Echoes s h) (limit : Nat) :
    (∃ f, g.run limit = .error f ∧ h.run limit = .error f) ∨
    ∃ x y, g.run limit = .ok x ∧ h.run limit = .ok y ∧
      Option.Rel (fun a b => a.1.Echoes s b.1 ∧ b.2 = a.2) x y := by
  cases hphase : g.executor.require .created "run" with
  | error f =>
    refine .inl ⟨f, ?_, ?_⟩
    · unfold Engine.run
      rw [hphase]
      rfl
    · unfold Engine.run
      rw [he.executor, hphase]
      rfl
  | ok u =>
    refine .inr ⟨(g.begun.attempt limit).map (concluded g.executor.runName),
      (h.begun.attempt limit).map (concluded g.executor.runName), ?_, ?_, ?_⟩
    · unfold Engine.run
      rw [hphase]
      rfl
    · unfold Engine.run
      rw [he.executor, hphase]
      rfl
    · have hrel := he.begun.attempt limit
      generalize g.begun.attempt limit = x at hrel ⊢
      generalize h.begun.attempt limit = y at hrel ⊢
      cases hrel with
      | none => exact .none
      | some hboth => exact .some (concluded_echoes _ hboth)

end Engine

end Minimize
