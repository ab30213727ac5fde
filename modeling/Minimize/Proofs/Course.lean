-- The course of a run. A run starts by an opening or at a stored checkpoint,
-- and goes on by steps; every engine that it comes to stands on its course
-- with the states of the iterations before it. A run that ends has failed to
-- read its checkpoint, or has failed in an iteration of its course, or has
-- come to a terminated state and saved it.
import Minimize.Proofs.Frame

namespace Minimize

variable {τ : Type} [Clock τ]

namespace Engine

/-- The engines that a run of `g₀` comes to between its iterations, each with
the states in which the iterations before it stood, oldest first. -/
inductive Course (g₀ : Engine τ) : List (State τ) → Engine τ → Prop
  | start {g : Engine τ} (hs : g₀.begun.start g₀.world.clock = .ok g) : Course g₀ [] g
  | step {past : List (State τ)} {g g' : Engine τ} (hc : Course g₀ past g)
      (hr : g.executor.state.terminated = false)
      (hi : g.iterate .step g₀.world.clock = .ok g') : Course g₀ (past ++ [g.executor.state]) g'

/-- The engines at which a run of `g₀` calls the solver, each with the states
in which the iterations before it stood, oldest first. -/
inductive ComesTo (g₀ : Engine τ) : CallKind → List (State τ) → Engine τ → Prop
  | opening (hn : g₀.stored = .ok none) : ComesTo g₀ .opening [] g₀.begun.settled
  | step {past : List (State τ)} {g : Engine τ} (hc : Course g₀ past g)
      (hr : g.executor.state.terminated = false) :
      ComesTo g₀ .step (past ++ [g.executor.state]) g

variable {g₀ g g' : Engine τ} {kind : CallKind} {past past' : List (State τ)}

theorem run_created (h : g₀.executor.phase = .created) (limit : Nat) :
    g₀.run limit = .ok ((g₀.begun.attempt limit).map (concluded g₀.executor.runName)) := by
  unfold run Executor.require
  rw [if_pos h]
  rfl

theorem onward_terminated (started : τ) (limit : Nat) (h : g.executor.state.terminated = true) :
    g.onward started limit = some (g.save true) := by
  unfold onward loop
  simp [h]

theorem onward_zero (started : τ) (h : g.executor.state.terminated = false) :
    g.onward started 0 = none := by
  unfold onward loop
  simp [h]

theorem onward_step (started : τ) (limit : Nat) (h : g.executor.state.terminated = false) :
    g.onward started (limit + 1) =
      match g.iterate .step started with
      | .ok g' => g'.onward started limit
      | .error f => some (.error f) := by
  have hl : loop started (limit + 1) g = match g.iterate .step started with
      | .ok g' => loop started limit g'
      | .error f => some (.error f) := by
    have hopen : ¬ g.executor.state.terminated = true := by
      rw [h]
      exact Bool.false_ne_true
    rw [loop]
    exact if_neg hopen
  unfold onward
  rw [hl]
  cases g.iterate .step started <;> rfl

/-- A run that has come to an engine of its course goes on from there. -/
theorem attempt_of_course (hc : g₀.Course past g) (limit : Nat) :
    g₀.begun.attempt (past.length + limit) = g.onward g₀.world.clock limit := by
  induction hc generalizing limit with
  | start hs =>
    unfold attempt
    have hs' : g₀.begun.start g₀.begun.world.clock = _ := hs
    simp only [hs', List.length_nil, Nat.zero_add]
    rfl
  | @step past g g' _ hr hi ih =>
    rw [List.length_append, List.length_singleton, Nat.add_assoc, Nat.add_comm 1 limit, ih,
      onward_step _ _ hr, hi]

theorem run_of_course (h : g₀.executor.phase = .created) (hc : g₀.Course past g) (limit : Nat) :
    g₀.run (past.length + limit) =
      .ok ((g.onward g₀.world.clock limit).map (concluded g₀.executor.runName)) := by
  rw [run_created h, attempt_of_course hc]

/-- A run with nothing to go on from starts by an opening. -/
theorem start_fresh (hn : g₀.stored = .ok none) (started : τ) :
    g₀.begun.start started = g₀.begun.settled.iterate .opening started := by
  have hn' : g₀.begun.stored = .ok none := hn
  unfold start
  rw [hn']

theorem Course.comes (hn : g₀.stored = .ok none) (hc : g₀.Course past g) :
    ∃ kind v, g₀.ComesTo kind past v ∧ v.iterate kind g₀.world.clock = .ok g := by
  cases hc with
  | start hs => exact ⟨.opening, _, .opening hn, (start_fresh hn _).symm.trans hs⟩
  | step hc hr hi => exact ⟨.step, _, .step hc hr, hi⟩

theorem start_resumed {s : Snapshot τ} (hn : g₀.stored = .ok (some s)) (started : τ) :
    g₀.begun.start started = .ok ((g₀.begun.settled.noteLoaded s).resume s) := by
  have hn' : g₀.begun.stored = .ok (some s) := hn
  unfold start
  rw [hn']

omit [Clock τ] in
theorem resume_iteration (g : Engine τ) (s : Snapshot τ) :
    (g.resume s).executor.state.book.iteration = s.state.book.iteration := by
  unfold resume
  dsimp only
  split <;> rfl

/-- A run that starts has opened, or goes on from a snapshot. -/
theorem start_ok (hs : g₀.begun.start g₀.world.clock = .ok g) :
    (g₀.stored = .ok none ∧ g₀.begun.settled.iterate .opening g₀.world.clock = .ok g) ∨
      ∃ s, g₀.stored = .ok (some s) ∧ (g₀.begun.settled.noteLoaded s).resume s = g := by
  cases hn : g₀.stored with
  | error f =>
    have hn' : g₀.begun.stored = .error f := hn
    unfold start at hs
    rw [hn'] at hs
    cases hs
  | ok found =>
    cases found with
    | none => exact .inl ⟨rfl, (start_fresh hn _).symm.trans hs⟩
    | some s => exact .inr ⟨s, rfl, Except.ok.inj ((start_resumed hn _).symm.trans hs)⟩

/-- A run that has come to a call of the solver goes on with the iteration. -/
theorem attempt_of_comesTo (hc : g₀.ComesTo kind past g) (limit : Nat) :
    g₀.begun.attempt (past.length + limit) =
      match g.iterate kind g₀.world.clock with
      | .ok g' => g'.onward g₀.world.clock limit
      | .error f => some (.error f) := by
  cases hc with
  | opening hn =>
    unfold attempt
    have hclock : g₀.begun.world.clock = g₀.world.clock := rfl
    simp only [hclock, start_fresh hn, List.length_nil, Nat.zero_add]
    cases g₀.begun.settled.iterate .opening g₀.world.clock <;> rfl
  | step hc hr =>
    rw [List.length_append, List.length_singleton, Nat.add_assoc, Nat.add_comm 1 limit,
      attempt_of_course hc, onward_step _ _ hr]

/-- Of a number of iterations there is one course. -/
theorem Course.unique (h : g₀.Course past g) (h' : g₀.Course past' g')
    (hl : past.length = past'.length) : past = past' ∧ g = g' := by
  induction h generalizing past' g' with
  | start hs =>
    cases h' with
    | start hs' => exact ⟨rfl, Except.ok.inj (hs.symm.trans hs')⟩
    | step _ _ _ => simp at hl
  | step hc hr hi ih =>
    cases h' with
    | start hs' => simp at hl
    | step hc' hr' hi' =>
      obtain ⟨rfl, rfl⟩ := ih hc' (by simpa using hl)
      exact ⟨rfl, Except.ok.inj (hi.symm.trans hi')⟩

theorem Course.begins (hc : g₀.Course [] g) : g₀.begun.start g₀.world.clock = .ok g := by
  generalize hp : ([] : List (State τ)) = past at hc
  cases hc with
  | start hs => exact hs
  | step _ _ _ => simp at hp

/-- How a run ends: it could not read its checkpoint, an iteration failed, or
it came to a terminated state, which it saves. -/
inductive Ends (g₀ : Engine τ) : Attempt τ → Prop
  | unread {f : Fault} (hs : g₀.stored = .error f) : Ends g₀ (.error ⟨f, g₀.begun⟩)
  | failed {kind : CallKind} {past : List (State τ)} {g : Engine τ} {f : Failed τ}
      (hc : g₀.ComesTo kind past g) (hi : g.iterate kind g₀.world.clock = .error f) :
      Ends g₀ (.error f)
  | finished {past : List (State τ)} {g : Engine τ} (hc : g₀.Course past g)
      (ht : g.executor.state.terminated = true) : Ends g₀ (g.save true)

theorem Course.ends (hc : g₀.Course past g) {limit : Nat} {r : Attempt τ}
    (h : g.onward g₀.world.clock limit = some r) : g₀.Ends r := by
  induction limit generalizing past g with
  | zero =>
    cases ht : g.executor.state.terminated with
    | true =>
      rw [onward_terminated _ _ ht] at h
      exact Option.some.inj h ▸ .finished hc ht
    | false => exact nomatch (onward_zero _ ht).symm.trans h
  | succ limit ih =>
    cases ht : g.executor.state.terminated with
    | true =>
      rw [onward_terminated _ _ ht] at h
      exact Option.some.inj h ▸ .finished hc ht
    | false =>
      rw [onward_step _ _ ht] at h
      cases hi : g.iterate .step g₀.world.clock with
      | ok g' =>
        rw [hi] at h
        exact ih (.step hc ht hi) h
      | error f =>
        rw [hi] at h
        exact Option.some.inj h ▸ .failed (.step hc ht) hi

theorem attempt_ends {limit : Nat} {r : Attempt τ} (h : g₀.begun.attempt limit = some r) :
    g₀.Ends r := by
  unfold attempt at h
  have hclock : g₀.begun.world.clock = g₀.world.clock := rfl
  simp only [hclock] at h
  cases hs : g₀.begun.start g₀.world.clock with
  | ok g =>
    simp only [hs] at h
    exact (Course.start hs).ends h
  | error f =>
    simp only [hs] at h
    obtain rfl := Option.some.inj h
    unfold start at hs
    have hn : g₀.begun.stored = g₀.stored := rfl
    rw [hn] at hs
    cases hst : g₀.stored with
    | error f' =>
      rw [hst] at hs
      obtain rfl := Except.error.inj hs
      exact .unread hst
    | ok o =>
      rw [hst] at hs
      cases o with
      | some s => exact nomatch hs
      | none => exact .failed (.opening hst) hs

theorem onward_none (hc : g₀.Course past g) {limit : Nat}
    (h : g.onward g₀.world.clock limit = none) :
    ∃ past' g', g₀.Course past' g' ∧ past'.length = past.length + limit ∧
      g'.executor.state.terminated = false := by
  induction limit generalizing past g with
  | zero =>
    cases ht : g.executor.state.terminated with
    | true =>
      rw [onward_terminated _ _ ht] at h
      cases h
    | false => exact ⟨past, g, hc, rfl, ht⟩
  | succ limit ih =>
    cases ht : g.executor.state.terminated with
    | true =>
      rw [onward_terminated _ _ ht] at h
      cases h
    | false =>
      rw [onward_step _ _ ht] at h
      cases hi : g.iterate .step g₀.world.clock with
      | ok g' =>
        rw [hi] at h
        obtain ⟨past', g'', hc', hl, hr⟩ := ih (.step hc ht hi) h
        rw [List.length_append, List.length_singleton] at hl
        exact ⟨past', g'', hc', by omega, hr⟩
      | error f =>
        rw [hi] at h
        cases h

theorem attempt_none {limit : Nat} (h : g₀.begun.attempt limit = none) :
    ∃ past g, g₀.Course past g ∧ past.length = limit ∧ g.executor.state.terminated = false := by
  unfold attempt at h
  have hclock : g₀.begun.world.clock = g₀.world.clock := rfl
  simp only [hclock] at h
  cases hs : g₀.begun.start g₀.world.clock with
  | error f =>
    rw [hs] at h
    cases h
  | ok g =>
    rw [hs] at h
    obtain ⟨past, g', hc, hl, hr⟩ := onward_none (.start hs) h
    exact ⟨past, g', hc, by simpa using hl, hr⟩

/-! ## The end of a run -/

omit [Clock τ] in
theorem markFailed_follows (g : Engine τ) (name : String) (f : Fault) :
    g.world.Follows (·.ends = true) (g.markFailed name f).world := by
  unfold markFailed
  dsimp only
  split
  · exact World.note_follows _ rfl
  · exact World.note_follows _ rfl

omit [Clock τ] in
theorem markFailed_state (g : Engine τ) (name : String) (f : Fault) :
    (g.markFailed name f).executor.state = (if g.executor.state.terminated then g.executor.state
      else { g.executor.state with status := ⟨some (.error f)⟩ }) ∧
      (g.markFailed name f).executor.problem = g.executor.problem := by
  unfold markFailed
  dsimp only
  split
  · exact ⟨rfl, rfl⟩
  · exact ⟨rfl, rfl⟩

omit [Clock τ] in
/-- A run that failed before its state was terminated is terminated by the
failure. -/
theorem markFailed_executor {g : Engine τ} (name : String) (f : Fault)
    (h : g.executor.state.terminated = false) :
    (g.markFailed name f).executor =
      { g.executor with state := { g.executor.state with status := ⟨some (.error f)⟩ } } := by
  unfold markFailed
  simp only [h, Bool.false_eq_true, if_false]
  rfl

omit [Clock τ] in
theorem noteEnded_follows (g : Engine τ) (name : String) (o : Outcome τ) :
    g.world.Follows (·.ends = true) (g.noteEnded name o).world := by
  unfold noteEnded
  dsimp only
  split
  · exact World.note_follows _ rfl
  · exact World.Follows.refl g.world

omit [Clock τ] in
theorem close_follows (g : Engine τ) (name : String) (error : Option Fault) :
    g.world.Follows (·.ends = true) (g.close name error).1.world := by
  have hf := g.executor.observers.finish_follows ((g.withPhase .terminated).outcome error) g.world
  unfold close
  dsimp only
  exact hf.trans (noteEnded_follows (Engine.warn ⟨_, _⟩ _) name _)

omit [Clock τ] in
/-- The outcome of a run has the problem, the bookkeeping and the counters that the
run left. -/
theorem concluded_left (name : String) (x : Attempt τ) :
    (concluded name x).2.problem = x.left.executor.problem ∧
      (concluded name x).2.state.book = x.left.executor.state.book ∧
      (concluded name x).2.state.counts = x.left.executor.state.counts := by
  cases x with
  | ok g => exact ⟨rfl, rfl, rfl⟩
  | error f =>
    obtain ⟨hstate, hproblem⟩ := markFailed_state f.engine name f.fault
    have hlast : (concluded name (.error f)).2.state =
        (f.engine.markFailed name f.fault).executor.state := rfl
    refine ⟨hproblem, ?_, ?_⟩
    · rw [hlast, hstate]
      split <;> rfl
    · rw [hlast, hstate]
      split <;> rfl

omit [Clock τ] in
theorem concluded_calls (name : String) (x : Attempt τ) :
    (concluded name x).1.world.calls = x.left.world.calls := by
  have quiet : ∀ e : Event τ, e.ends = true → e.NoCall := fun e he => Event.noCall_of_ends he
  cases x with
  | ok g => exact ((close_follows g name none).mono quiet).toGrows.calls
  | error f =>
    exact (((markFailed_follows f.engine name f.fault).trans
      (close_follows _ name (some f.fault))).mono quiet).toGrows.calls

/-- A run without a failure has come to a terminated state, has saved it, and
has it in its outcome. -/
theorem run_over (h : g₀.executor.phase = .created) {limit : Nat} {r : Engine τ × Outcome τ}
    (hr : g₀.run limit = .ok (some r)) (he : r.2.error = none) :
    ∃ past g g', g₀.Course past g ∧ g.executor.state.terminated = true ∧ g.save true = .ok g' ∧
      r = g'.close g₀.executor.runName none ∧ r.2.state = g.executor.state := by
  rw [run_created h] at hr
  obtain ⟨x, hx, rfl⟩ := Option.map_eq_some_iff.mp (Except.ok.inj hr)
  cases attempt_ends hx with
  | unread hn => cases he
  | failed hc hi => cases he
  | @finished past g hc ht =>
    have hstands := save_stands g true
    cases hs : g.save true with
    | error f =>
      rw [hs] at he
      cases he
    | ok g' =>
      rw [hs] at hstands
      have hlast : (g'.close g₀.executor.runName none).2.state = g.executor.state := hstands.state
      exact ⟨past, g, g', hc, ht, hs, rfl, hlast⟩

end Engine

end Minimize
