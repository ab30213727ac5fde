-- What a run puts down in the journal, and what it warns of. An iteration
-- leaves the call of the solver with its evaluations, the completed state, what
-- became of its save, and the word to each observer whose mode fires. A failure
-- that is got over is put down where it happens, and it is warned of once.
import Minimize.Proofs.Course
import Minimize.Proofs.Iteration
import Minimize.Proofs.Words

namespace Minimize

variable {τ : Type}

/-! ## What an engine puts down -/

/-- A later moment of an engine, with what was put down meanwhile and what was
warned of. -/
structure Engine.Puts (g : Engine τ) (es : List (Event τ)) (fs : List Fault) (h : Engine τ) :
    Prop where
  history : h.world.history = g.world.history ++ es
  warnings : h.executor.warnings = g.executor.warnings ++ fs
  observers : h.executor.observers = g.executor.observers

namespace Engine

variable {g g' g'' h : Engine τ} {es es' : List (Event τ)} {fs fs' : List Fault}

theorem Puts.refl (g : Engine τ) : g.Puts [] [] g := ⟨by simp, by simp, rfl⟩

theorem Puts.trans (h : g.Puts es fs g') (h' : g'.Puts es' fs' g'') :
    g.Puts (es ++ es') (fs ++ fs') g'' :=
  ⟨by rw [h'.history, h.history, List.append_assoc],
    by rw [h'.warnings, h.warnings, List.append_assoc], h'.observers.trans h.observers⟩

theorem note_puts (g : Engine τ) (e : Event τ) : g.Puts [e] [] (g.note e) :=
  ⟨World.history_note g.world e, (List.append_nil _).symm, rfl⟩

theorem Puts.of_same (hw : h.world = g.world) (hf : h.executor.warnings = g.executor.warnings)
    (ho : h.executor.observers = g.executor.observers) : g.Puts [] [] h :=
  ⟨by rw [hw, List.append_nil], by rw [hf, List.append_nil], ho⟩

variable [Clock τ]

theorem consult_puts (kind : CallKind) (g : Engine τ) :
    ∃ evals, (∀ e ∈ evals, e.IsEvaluation) ∧
      g.Puts (.called kind g.executor.state.book.iteration :: evals) []
        (Attempt.left ((g.consult kind).map (·.1))) := by
  obtain ⟨evals, hh, he⟩ := (g.asked_follows kind).toGrows.history
  refine ⟨evals, he, ?_⟩
  have hw : (g.asked kind).world.history =
      g.world.history ++ .called kind g.executor.state.book.iteration :: evals := by
    rw [hh, World.history_note, List.append_assoc, List.singleton_append]
  unfold consult
  dsimp only
  split
  · exact ⟨hw, (List.append_nil _).symm, rfl⟩
  · exact ⟨hw, (List.append_nil _).symm, rfl⟩

theorem merge_puts (g : Engine τ) (r : Returned τ) (book : Bookkeeping τ) (i : Int)
    (started : τ) : g.Puts [] [] (Attempt.left (g.merge r book i started)) := by
  unfold merge
  dsimp only
  split
  · split
    · exact .of_same rfl rfl rfl
    · exact .refl g
  · split
    · exact .of_same rfl rfl rfl
    · exact .of_same rfl rfl rfl

theorem judge_puts (g : Engine τ) : g.Puts [] [] (Attempt.left g.judge) := by
  obtain ⟨s, hs⟩ := judge_left g
  rw [hs]
  exact .of_same rfl rfl rfl

end Engine

/-- The completed state that an attempt at an iteration puts down. -/
def Attempt.completed : Attempt τ → List (Event τ)
  | .ok g => [.completed g.executor.state]
  | .error _ => []

namespace Engine

variable {g g' g'' h : Engine τ} {es es' : List (Event τ)} {fs fs' : List Fault}
variable [Clock τ]

theorem complete_puts (g : Engine τ) (record : Option Record) :
    g.Puts (Attempt.completed (g.complete record)) [] (Attempt.left (g.complete record)) := by
  unfold complete
  dsimp only
  split
  · exact .refl g
  · exact ⟨World.history_note _ _, (List.append_nil _).symm, rfl⟩

theorem take_puts (kind : CallKind) (started : τ) (g : Engine τ) :
    ∃ evals, (∀ e ∈ evals, e.IsEvaluation) ∧
      g.Puts (.called kind g.executor.state.book.iteration :: evals) []
        (Attempt.left ((g.take kind started).map (·.1))) := by
  obtain ⟨evals, he, hc⟩ := consult_puts kind g
  refine ⟨evals, he, ?_⟩
  unfold take
  cases h : g.consult kind with
  | error f =>
    rw [h] at hc
    exact hc
  | ok r =>
    rw [h] at hc
    have hm := merge_puts r.1 (r.2.placed kind g.executor.state) (g.kept kind)
      (kind.target g.executor.state.book.iteration) started
    have hcm := hc.trans hm
    rw [List.append_nil] at hcm
    dsimp only [bind, Except.bind]
    cases hr : r.1.merge (r.2.placed kind g.executor.state) (g.kept kind)
        (kind.target g.executor.state.book.iteration) started with
    | error f =>
      rw [hr] at hcm
      exact hcm
    | ok g' =>
      rw [hr] at hcm
      exact hcm

/-- An iteration puts down the call of the solver, its evaluations and, if it
is completed, the state. -/
theorem advance_puts (kind : CallKind) (started : τ) (g : Engine τ) :
    ∃ evals, (∀ e ∈ evals, e.IsEvaluation) ∧
      g.Puts (.called kind g.executor.state.book.iteration :: evals ++
          Attempt.completed (g.advance kind started)) []
        (Attempt.left (g.advance kind started)) := by
  obtain ⟨evals, he, ht⟩ := take_puts kind started (g.enter kind)
  refine ⟨evals, he, ?_⟩
  have ht' : g.Puts (.called kind g.executor.state.book.iteration :: evals) []
      (Attempt.left (((g.enter kind).take kind started).map (·.1))) := by
    cases kind <;> exact ⟨ht.history, ht.warnings, ht.observers⟩
  unfold advance
  cases h : (g.enter kind).take kind started with
  | error f =>
    rw [h] at ht'
    exact (List.append_nil _).symm ▸ ht'
  | ok r =>
    rw [h] at ht'
    have hj := judge_puts r.1
    dsimp only [bind, Except.bind]
    cases hjr : r.1.judge with
    | error f =>
      rw [hjr] at hj
      exact ht'.trans hj
    | ok v =>
      rw [hjr] at hj
      have hjc := hj.trans (complete_puts v r.2)
      exact ht'.trans hjc

/-! ## Saves -/

/-- What becomes of a save that does not end the run: there is none to make,
or it is made, or it fails, which is warned of. -/
inductive SaveNoted (g : Engine τ) (final : Bool) : List (Event τ) → List Fault → Prop
  | nowhere (hp : g.executor.policy = none) : SaveNoted g final [] []
  | notDue {p : Policy τ} (hp : g.executor.policy = some p)
      (hd : p.isDue g.executor.state.book.iteration final = false) : SaveNoted g final [] []
  | made {p : Policy τ} {c : Cabinet τ} (hp : g.executor.policy = some p)
      (hd : p.isDue g.executor.state.book.iteration final = true)
      (hs : p.store.save (.text p.key) ⟨g.executor.solver, g.executor.state⟩
        (g.world.cabinet p.cabinet) = (c, .ok ())) :
      SaveNoted g final [.attempted p.key g.executor.state.book.iteration,
        .saved p.key g.executor.state.book.iteration] []
  | missed {p : Policy τ} {c : Cabinet τ} {f : Fault} (hp : g.executor.policy = some p)
      (hd : p.isDue g.executor.state.book.iteration final = true)
      (hs : p.store.save (.text p.key) ⟨g.executor.solver, g.executor.state⟩
        (g.world.cabinet p.cabinet) = (c, .error f)) :
      SaveNoted g final [.attempted p.key g.executor.state.book.iteration,
          .saveFailed (p.saveFault g.executor.state.book.iteration f)]
        [p.saveFault g.executor.state.book.iteration f]

/-- How a save ends a run: it is due, it fails, and it must not fail. -/
inductive SaveBreaks (g : Engine τ) (final : Bool) : List (Event τ) → Fault → Prop
  | broken {p : Policy τ} {c : Cabinet τ} {f : Fault} (hp : g.executor.policy = some p)
      (hf : p.fatal = true) (hd : p.isDue g.executor.state.book.iteration final = true)
      (hs : p.store.save (.text p.key) ⟨g.executor.solver, g.executor.state⟩
        (g.world.cabinet p.cabinet) = (c, .error f)) :
      SaveBreaks g final [.attempted p.key g.executor.state.book.iteration]
        (p.saveFault g.executor.state.book.iteration f)

omit [Clock τ] in
/-- A save that is due notes the attempt, and then what came of it. -/
theorem save_attempted {p : Policy τ} (hp : g.executor.policy = some p) {final : Bool}
    (hd : p.isDue g.executor.state.book.iteration final = true) {c : Cabinet τ}
    {r : Except Fault Unit}
    (hr : p.store.save (.text p.key) ⟨g.executor.solver, g.executor.state⟩
      (g.world.cabinet p.cabinet) = (c, r)) :
    ∃ u, g.save final = u.afterSave p (match r with
        | .ok () => .saved
        | .error f => .failed (p.saveFault g.executor.state.book.iteration f)) ∧
      u.executor.state = g.executor.state ∧
      g.Puts [.attempted p.key g.executor.state.book.iteration] [] u := by
  have hc : (g.world.note (.attempted p.key g.executor.state.book.iteration)).cabinet p.cabinet =
      g.world.cabinet p.cabinet := rfl
  rw [save_eq hp]
  unfold Policy.maybeSave
  simp only [hd, if_true, hc, hr]
  cases r with
  | ok _ => exact ⟨_, rfl, rfl, World.history_note _ _, (List.append_nil _).symm, rfl⟩
  | error f => exact ⟨_, rfl, rfl, World.history_note _ _, (List.append_nil _).symm, rfl⟩

omit [Clock τ] in
theorem save_puts {final : Bool} (hs : g.save final = .ok g') :
    ∃ es fs, g.SaveNoted final es fs ∧ g.Puts es fs g' := by
  cases hp : g.executor.policy with
  | none =>
    unfold save at hs
    rw [hp] at hs
    cases hs
    exact ⟨[], [], .nowhere hp, .refl g⟩
  | some p =>
    cases hd : p.isDue g.executor.state.book.iteration final with
    | false =>
      refine ⟨[], [], .notDue hp hd, ?_⟩
      rw [save_eq hp] at hs
      unfold Policy.maybeSave at hs
      simp only [hd, Bool.false_eq_true, if_false] at hs
      cases hs
      exact ⟨(List.append_nil _).symm, (List.append_nil _).symm, rfl⟩
    | true =>
      cases hr : p.store.save (.text p.key) ⟨g.executor.solver, g.executor.state⟩
          (g.world.cabinet p.cabinet) with
      | mk c r =>
        obtain ⟨u, hu, hstate, hputs⟩ := save_attempted hp hd hr
        rw [hu] at hs
        cases r with
        | ok _ =>
          cases hs
          refine ⟨_, _, .made hp hd hr, ?_⟩
          rw [hstate]
          exact hputs.trans (note_puts u (.saved p.key g.executor.state.book.iteration))
        | error f =>
          refine ⟨_, _, .missed hp hd hr, ?_⟩
          unfold afterSave at hs
          dsimp only at hs
          split at hs
          · cases hs
          · cases hs
            exact hputs.trans ⟨World.history_note _ _, rfl, rfl⟩

omit [Clock τ] in
theorem save_broken {final : Bool} {f : Failed τ} (hs : g.save final = .error f) :
    ∃ es, g.SaveBreaks final es f.fault ∧ g.Puts es [] f.engine := by
  cases hp : g.executor.policy with
  | none =>
    unfold save at hs
    rw [hp] at hs
    cases hs
  | some p =>
    cases hd : p.isDue g.executor.state.book.iteration final with
    | false =>
      rw [save_eq hp] at hs
      unfold Policy.maybeSave at hs
      simp only [hd, Bool.false_eq_true, if_false] at hs
      cases hs
    | true =>
      cases hr : p.store.save (.text p.key) ⟨g.executor.solver, g.executor.state⟩
          (g.world.cabinet p.cabinet) with
      | mk c r =>
        obtain ⟨u, hu, _, hputs⟩ := save_attempted hp hd hr
        rw [hu] at hs
        cases r with
        | ok _ => cases hs
        | error e =>
          unfold afterSave at hs
          dsimp only at hs
          split at hs
          · rename_i hf
            cases hs
            exact ⟨_, .broken hp hf hd hr, hputs⟩
          · cases hs

omit [Clock τ] in
theorem dispatch_puts (g : Engine τ) :
    ∃ es fs, (Word.iteration g.executor.state.record g.executor.state.book.iteration
        g.executor.improved).GoesRound g.executor.observers.entries g.world.outlets es fs ∧
      g.Puts es fs g.dispatch := by
  obtain ⟨es, fs, hr, hh, hf⟩ := (Word.iteration g.executor.state.record
    g.executor.state.book.iteration g.executor.improved).goesRound g.executor.observers.entries
    (g.world, [])
  rw [← Registry.dispatch_eq] at hh hf
  exact ⟨es, fs, hr, hh, congrArg (g.executor.warnings ++ ·) hf, rfl⟩

/-! ## Iterations and runs -/

/-- What a completed iteration puts down and warns of: the call of the solver
with its evaluations, the completed state, its save, and the word to the
observers; a failure to save before the failures of the observers. -/
inductive Round (kind : CallKind) (started : τ) (g : Engine τ) :
    Engine τ → List (Event τ) → List Fault → Prop
  | round {u v : Engine τ} {evals saves words : List (Event τ)} {missed deaf : List Fault}
      (he : ∀ e ∈ evals, e.IsEvaluation) (ha : g.advance kind started = .ok u)
      (hs : u.save false = .ok v) (hn : u.SaveNoted false saves missed)
      (hw : (Word.iteration v.executor.state.record v.executor.state.book.iteration
        v.executor.improved).GoesRound v.executor.observers.entries v.world.outlets words deaf) :
      Round kind started g v.dispatch
        (.called kind g.executor.state.book.iteration :: evals ++ [.completed u.executor.state] ++
          saves ++ words) (missed ++ deaf)

/-- What an iteration that fails puts down: the call of the solver with its
evaluations, and, if it was completed, the state and the attempt to save it. -/
inductive Cut (kind : CallKind) (started : τ) (g : Engine τ) : Failed τ → List (Event τ) → Prop
  | early {evals : List (Event τ)} {f : Failed τ} (he : ∀ e ∈ evals, e.IsEvaluation)
      (ha : g.advance kind started = .error f) :
      Cut kind started g f (.called kind g.executor.state.book.iteration :: evals)
  | unsaved {u : Engine τ} {evals saves : List (Event τ)} {f : Failed τ}
      (he : ∀ e ∈ evals, e.IsEvaluation) (ha : g.advance kind started = .ok u)
      (hs : u.save false = .error f) (hb : u.SaveBreaks false saves f.fault) :
      Cut kind started g f (.called kind g.executor.state.book.iteration :: evals ++
        [.completed u.executor.state] ++ saves)

variable {kind : CallKind} {started : τ}

theorem iterate_puts (hi : g.iterate kind started = .ok g') :
    ∃ es fs, g.Round kind started g' es fs ∧ g.Puts es fs g' := by
  obtain ⟨evals, he, hputs⟩ := advance_puts kind started g
  rw [iterate_eq] at hi
  obtain ⟨u, ha, hi⟩ := bind_ok hi
  obtain ⟨v, hs, hi⟩ := bind_ok hi
  cases hi
  rw [ha] at hputs
  obtain ⟨saves, missed, hn, hsaves⟩ := save_puts hs
  obtain ⟨words, deaf, hw, hwords⟩ := dispatch_puts v
  exact ⟨_, _, .round he ha hs hn hw, (hputs.trans hsaves).trans hwords⟩

theorem iterate_cut {f : Failed τ} (hi : g.iterate kind started = .error f) :
    ∃ es, g.Cut kind started f es ∧ g.Puts es [] f.engine := by
  obtain ⟨evals, he, hputs⟩ := advance_puts kind started g
  rw [iterate_eq] at hi
  rcases bind_error hi with ha | ⟨u, ha, hi⟩
  · rw [ha] at hputs
    rw [show Attempt.completed (.error f) = [] from rfl, List.append_nil] at hputs
    exact ⟨_, .early he ha, hputs⟩
  · rw [ha] at hputs
    rcases bind_error hi with hs | ⟨v, _, hi⟩
    · obtain ⟨saves, hb, hsaves⟩ := save_broken hs
      exact ⟨_, .unsaved he ha hs hb, hputs.trans hsaves⟩
    · cases hi

omit [Clock τ] in
/-- What going on from a snapshot puts down: where it was loaded from, the
counters in it that are none, and that an aborted run is opened again. -/
def resumption (g : Engine τ) (s : Snapshot τ) : List (Event τ) :=
  (match g.executor.policy with
    | none => []
    | some p => [.resumed p.key s.state.book.iteration]) ++
  (ignoredNames s.state.counts).map .ignoredCounter ++
  match s.state.status.reason with
    | some ⟨.aborted, _, _⟩ => [.reopened s.state.book.iteration]
    | _ => []

omit [Clock τ] in
/-- What holds of every kind of event that going on from a snapshot puts
down. -/
theorem resumption_all {P : Event τ → Prop} (hr : ∀ key i, P (.resumed key i))
    (hi : ∀ name, P (.ignoredCounter name)) (ho : ∀ i, P (.reopened i)) (g : Engine τ)
    (s : Snapshot τ) : ∀ e ∈ g.resumption s, P e := by
  intro e he
  unfold resumption at he
  rcases List.mem_append.mp he with h1 | h1
  · rcases List.mem_append.mp h1 with h2 | h2
    · split at h2
      · cases h2
      · exact List.mem_singleton.mp h2 ▸ hr _ _
    · obtain ⟨name, _, rfl⟩ := List.mem_map.mp h2
      exact hi name
  · split at h1
    · exact List.mem_singleton.mp h1 ▸ ho _
    · cases h1

omit [Clock τ] in
theorem noteLoaded_puts (g : Engine τ) (s : Snapshot τ) :
    g.Puts (match g.executor.policy with
      | none => []
      | some p => [.resumed p.key s.state.book.iteration]) [] (g.settled.noteLoaded s) := by
  unfold noteLoaded settled withState
  dsimp only
  cases g.executor.policy with
  | none => exact .of_same rfl rfl rfl
  | some p => exact ⟨World.history_note _ _, (List.append_nil _).symm, rfl⟩

omit [Clock τ] in
theorem resume_puts (g : Engine τ) (s : Snapshot τ) :
    g.Puts ((ignoredNames s.state.counts).map .ignoredCounter ++
      match s.state.status.reason with
        | some ⟨.aborted, _, _⟩ => [.reopened s.state.book.iteration]
        | _ => []) [] (g.resume s) := by
  have hnotes := (World.note_foldl g.world (fun n => .ignoredCounter n)
    (ignoredNames s.state.counts)).1
  have hplain := (List.append_nil (g.world.history ++
    (ignoredNames s.state.counts).map Event.ignoredCounter)).trans hnotes.symm
  rw [List.append_assoc] at hplain
  unfold resume
  cases s.state.status.reason with
  | none => exact ⟨hplain.symm, (List.append_nil _).symm, rfl⟩
  | some r =>
    obtain ⟨kind, streak, text⟩ := r
    cases kind with
    | aborted =>
      refine ⟨?_, (List.append_nil _).symm, rfl⟩
      rw [← List.append_assoc, ← hnotes]
      exact World.history_note _ _
    | _ => exact ⟨hplain.symm, (List.append_nil _).symm, rfl⟩

omit [Clock τ] in
theorem resumed_puts (g : Engine τ) (s : Snapshot τ) :
    g.Puts (g.resumption s) [] ((g.settled.noteLoaded s).resume s) := by
  unfold resumption
  rw [List.append_assoc]
  exact (noteLoaded_puts g s).trans (resume_puts _ s)

/-- What a run of `g₀` puts down and warns of up to an engine that it comes to:
its beginning, what an opening or a snapshot puts down, and its iterations one
after another. -/
inductive Account (g₀ : Engine τ) : Engine τ → List (Event τ) → List Fault → Prop
  | opened {g : Engine τ} {es : List (Event τ)} {fs : List Fault} (hn : g₀.stored = .ok none)
      (hr : g₀.begun.settled.Round .opening g₀.world.clock g es fs) :
      Account g₀ g (.started g₀.executor.runName :: es) fs
  | resumed {s : Snapshot τ} (hs : g₀.stored = .ok (some s)) :
      Account g₀ ((g₀.begun.settled.noteLoaded s).resume s)
        (.started g₀.executor.runName :: g₀.resumption s) []
  | stepped {g g' : Engine τ} {es es' : List (Event τ)} {fs fs' : List Fault}
      (ha : Account g₀ g es fs) (hr : g.executor.state.terminated = false)
      (hround : g.Round .step g₀.world.clock g' es' fs') : Account g₀ g' (es ++ es') (fs ++ fs')

variable {g₀ : Engine τ} {past : List (State τ)}

omit [Clock τ] in
theorem begun_puts (g : Engine τ) : g.Puts [.started g.executor.runName] [] g.begun :=
  note_puts g _

omit [Clock τ] in
theorem settled_puts (g : Engine τ) : g.Puts [] [] g.settled := .of_same rfl rfl rfl

/-- Every engine that a run comes to is accounted for. -/
theorem Course.account (hc : g₀.Course past g) :
    ∃ es fs, g₀.Account g es fs ∧ g₀.Puts es fs g := by
  induction hc with
  | @start g hs =>
    rcases start_ok hs with ⟨hst, hi⟩ | ⟨s, hst, rfl⟩
    · obtain ⟨es, fs, hr, hputs⟩ := iterate_puts hi
      exact ⟨_, _, .opened hst hr, ((begun_puts g₀).trans (settled_puts _)).trans hputs⟩
    · exact ⟨_, _, .resumed hst, (begun_puts g₀).trans (resumed_puts g₀.begun s)⟩
  | step hc hr hi ih =>
    obtain ⟨es, fs, ha, hputs⟩ := ih
    obtain ⟨es', fs', hround, hputs'⟩ := iterate_puts hi
    exact ⟨_, _, .stepped ha hr hround, hputs.trans hputs'⟩

/-- What a run of `g₀` puts down and warns of up to its end or its failure. A
failure that ends it is not warned of. -/
inductive Chronicle (g₀ : Engine τ) : Attempt τ → List (Event τ) → List Fault → Prop
  | unread {f : Fault} (hs : g₀.stored = .error f) :
      Chronicle g₀ (.error ⟨f, g₀.begun⟩) [.started g₀.executor.runName] []
  | unopened {f : Failed τ} {es : List (Event τ)} (hn : g₀.stored = .ok none)
      (hc : g₀.begun.settled.Cut .opening g₀.world.clock f es) :
      Chronicle g₀ (.error f) (.started g₀.executor.runName :: es) []
  | cut {g : Engine τ} {f : Failed τ} {es es' : List (Event τ)} {fs : List Fault}
      (ha : g₀.Account g es fs) (hr : g.executor.state.terminated = false)
      (hc : g.Cut .step g₀.world.clock f es') : Chronicle g₀ (.error f) (es ++ es') fs
  | unsaved {g : Engine τ} {f : Failed τ} {es es' : List (Event τ)} {fs : List Fault}
      (ha : g₀.Account g es fs) (ht : g.executor.state.terminated = true)
      (hs : g.save true = .error f) (hb : g.SaveBreaks true es' f.fault) :
      Chronicle g₀ (.error f) (es ++ es') fs
  | finished {g g' : Engine τ} {es es' : List (Event τ)} {fs fs' : List Fault}
      (ha : g₀.Account g es fs) (ht : g.executor.state.terminated = true)
      (hs : g.save true = .ok g') (hn : g.SaveNoted true es' fs') :
      Chronicle g₀ (.ok g') (es ++ es') (fs ++ fs')

/-- However a run ends, what it put down up to there is accounted for. -/
theorem Ends.chronicle {r : Attempt τ} (h : g₀.Ends r) :
    ∃ es fs, g₀.Chronicle r es fs ∧ g₀.Puts es fs r.left := by
  cases h with
  | unread hs => exact ⟨_, _, .unread hs, begun_puts g₀⟩
  | failed hc hi =>
    obtain ⟨es, hcut, hputs⟩ := iterate_cut hi
    cases hc with
    | opening hn =>
      exact ⟨_, _, .unopened hn hcut, ((begun_puts g₀).trans (settled_puts _)).trans hputs⟩
    | step hc hr =>
      obtain ⟨before, fs, ha, hbefore⟩ := hc.account
      exact ⟨_, _, .cut ha hr hcut, (List.append_nil fs) ▸ hbefore.trans hputs⟩
  | @finished past g hc ht =>
    obtain ⟨before, fs, ha, hbefore⟩ := hc.account
    cases hs : g.save true with
    | error f =>
      obtain ⟨es, hb, hputs⟩ := save_broken hs
      exact ⟨_, _, .unsaved ha ht hs hb, (List.append_nil fs) ▸ hbefore.trans hputs⟩
    | ok g' =>
      obtain ⟨es, fs', hn, hputs⟩ := save_puts hs
      exact ⟨_, _, .finished ha ht hs hn, hbefore.trans hputs⟩

end Engine

/-! ## The end of a run -/

/-- The last thing that a run puts down: its end, if that can be told. -/
def Outcome.lastWord (o : Outcome τ) (name : String) : List (Event τ) :=
  if o.isWritable then [.ended name o.iterations o.reasonText o.bestCost] else []

/-- An outcome that can be written is noted and handed back. One that cannot is
neither. -/
theorem Outcome.lastWord_cases (o : Outcome τ) (name : String) :
    (o.isWritable = true → o.handedBack = .ok o ∧
      o.lastWord name = [.ended name o.iterations o.reasonText o.bestCost]) ∧
    (o.isWritable = false → o.handedBack = .error (.slip .tooManyDigits) ∧
      o.lastWord name = []) := by
  unfold handedBack lastWord
  constructor <;> intro h <;> simp [h]

def Attempt.fault? : Attempt τ → Option Fault
  | .ok _ => none
  | .error f => some f.fault

/-- The failure of an attempt, as it is put down. -/
def Attempt.failure (name : String) : Attempt τ → List (Event τ)
  | .ok _ => []
  | .error f => [.failed name f.engine.executor.state.book.iteration f.fault]

namespace Engine

variable [Clock τ] {g₀ h : Engine τ}

omit [Clock τ] in
theorem noteEnded_history (g : Engine τ) (name : String) (o : Outcome τ) :
    (g.noteEnded name o).world.history = g.world.history ++ o.lastWord name := by
  unfold noteEnded Outcome.lastWord
  dsimp only
  split
  · exact World.history_note _ _
  · exact (List.append_nil _).symm

omit [Clock τ] in
/-- A run ends by a word to the observers. They are told of the outcome as it
is before their own failures are added to it. -/
theorem close_puts (g : Engine τ) (name : String) (error : Option Fault) :
    ∃ es fs, (Word.finish { (g.close name error).2 with
        warnings := g.executor.warnings }).GoesRound g.executor.observers.entries g.world.outlets es
          fs ∧
      (g.close name error).1.world.history =
        g.world.history ++ es ++ (g.close name error).2.lastWord name ∧
      (g.close name error).2.warnings = g.executor.warnings ++ fs := by
  obtain ⟨es, fs, hr, hh, hf⟩ := (Word.finish ((g.withPhase .terminated).outcome error)).goesRound
    g.executor.observers.entries (g.world, [])
  rw [← Registry.finish_eq] at hh hf
  refine ⟨es, fs, hr, ?_, congrArg (g.executor.warnings ++ ·) hf⟩
  rw [← hh]
  exact noteEnded_history (Engine.warn ⟨_, _⟩ _) name _

omit [Clock τ] in
theorem concluded_puts (name : String) (r : Attempt τ) :
    ∃ es fs, (Word.finish { (concluded name r).2 with
        warnings := r.left.executor.warnings }).GoesRound r.left.executor.observers.entries
          r.left.world.outlets es fs ∧
      (concluded name r).1.world.history = r.left.world.history ++ r.failure name ++ es ++
        (concluded name r).2.lastWord name ∧
      (concluded name r).2.warnings = r.left.executor.warnings ++ fs := by
  cases r with
  | ok g =>
    have h := close_puts g name none
    unfold Attempt.failure
    simp only [List.append_nil]
    exact h
  | error f =>
    have hmarked : f.engine.Puts [.failed name f.engine.executor.state.book.iteration f.fault] []
        (f.engine.markFailed name f.fault) ∧
        (f.engine.markFailed name f.fault).world.outlets = f.engine.world.outlets := by
      unfold markFailed
      dsimp only
      split
      · exact ⟨note_puts _ _, rfl⟩
      · exact ⟨⟨World.history_note _ _, (List.append_nil _).symm, rfl⟩, rfl⟩
    obtain ⟨⟨hhistory, hwarnings, hobservers⟩, houtlets⟩ := hmarked
    have h := close_puts (f.engine.markFailed name f.fault) name (some f.fault)
    rw [hhistory, hwarnings, hobservers, houtlets, List.append_nil] at h
    exact h

/-- What a whole run puts down and warns of: what it came to, the failure that
ended it, and then the word of the end. -/
inductive FullAccount (g₀ : Engine τ) (o : Outcome τ) : List (Event τ) → List Fault → Prop
  | account {r : Attempt τ} {es words : List (Event τ)} {fs deaf : List Fault}
      (hc : g₀.Chronicle r es fs) (he : o.error = r.fault?)
      (hw : (Word.finish { o with warnings := g₀.executor.warnings ++ fs }).GoesRound
        g₀.executor.observers.entries r.left.world.outlets words deaf) :
      FullAccount g₀ o (es ++ r.failure g₀.executor.runName ++ words ++
        o.lastWord g₀.executor.runName) (fs ++ deaf)

omit [Clock τ] in
theorem concluded_error (name : String) (r : Attempt τ) :
    (concluded name r).2.error = r.fault? := by
  cases r <;> rfl

end Engine

/-! ## What an account says -/

theorem Outcome.lastWord_tells (o : Outcome τ) (name : String) : Tells (o.lastWord name) [] := by
  unfold lastWord
  split <;> rfl

/-- What is put down before the end of a run: it tells the failures that are
got over, and no word of the end. -/
structure Underway (es : List (Event τ)) (fs : List Fault) : Prop where
  tells : Tells es fs
  quiet : ∀ e ∈ es, e.finishing? = none

theorem Underway.append {es es' : List (Event τ)} {fs fs' : List Fault} (h : Underway es fs)
    (h' : Underway es' fs') : Underway (es ++ es') (fs ++ fs') := by
  refine ⟨h.tells.append h'.tells, ?_⟩
  intro e he
  rcases List.mem_append.mp he with h1 | h1
  · exact h.quiet e h1
  · exact h'.quiet e h1

theorem underway_plain {es : List (Event τ)}
    (h : ∀ e ∈ es, e.trouble? = none ∧ e.finishing? = none) : Underway es [] :=
  ⟨tells_nothing fun e he => (h e he).1, fun e he => (h e he).2⟩

namespace Engine

variable [Clock τ] {g₀ g g' h : Engine τ} {kind : CallKind} {started : τ} {final : Bool}
  {es : List (Event τ)} {fs : List Fault}

omit [Clock τ] in
theorem SaveNoted.underway (h : g.SaveNoted final es fs) : Underway es fs := by
  cases h with
  | nowhere _ => exact ⟨rfl, by simp⟩
  | notDue _ _ => exact ⟨rfl, by simp⟩
  | made _ _ _ => exact ⟨rfl, by simp [Event.finishing?]⟩
  | missed _ _ _ => exact ⟨rfl, by simp [Event.finishing?]⟩

omit [Clock τ] in
theorem SaveBreaks.underway {f : Fault} (h : g.SaveBreaks final es f) : Underway es [] := by
  cases h
  exact ⟨rfl, by simp [Event.finishing?]⟩

omit [Clock τ] in
theorem called_underway (i : Int) {evals : List (Event τ)} (he : ∀ e ∈ evals, e.IsEvaluation) :
    Underway (.called kind i :: evals) [] := by
  refine underway_plain fun e hm => ?_
  rcases List.mem_cons.mp hm with rfl | h1
  · exact ⟨rfl, rfl⟩
  · obtain ⟨c, rfl⟩ := he e h1
    exact ⟨rfl, rfl⟩

omit [Clock τ] in
theorem completed_underway (s : State τ) : Underway [.completed s] [] :=
  ⟨rfl, by simp [Event.finishing?]⟩

theorem Round.underway (h : g.Round kind started g' es fs) : Underway es fs := by
  cases h with
  | round he _ _ hn hw =>
    have hwords : Underway _ _ :=
      ⟨hw.tells (fun _ => rfl) fun _ => rfl, hw.all (fun _ => rfl) (fun _ => rfl) fun _ => rfl⟩
    exact (((called_underway _ he).append (completed_underway _)).append hn.underway).append hwords

theorem Cut.underway {f : Failed τ} (h : g.Cut kind started f es) : Underway es [] := by
  cases h with
  | early he _ => exact called_underway _ he
  | unsaved he _ _ hb =>
    exact ((called_underway _ he).append (completed_underway _)).append hb.underway

omit [Clock τ] in
theorem started_underway (name : String) : Underway [(.started name : Event τ)] [] :=
  ⟨rfl, by simp [Event.finishing?]⟩

omit [Clock τ] in
theorem resumption_underway (g : Engine τ) (s : Snapshot τ) : Underway (g.resumption s) [] :=
  underway_plain
    (resumption_all (fun _ _ => ⟨rfl, rfl⟩) (fun _ => ⟨rfl, rfl⟩) (fun _ => ⟨rfl, rfl⟩) g s)

theorem Account.underway (h : g₀.Account g es fs) : Underway es fs := by
  induction h with
  | opened _ hr => exact (started_underway _).append hr.underway
  | resumed _ => exact (started_underway _).append (resumption_underway _ _)
  | stepped _ _ hround ih => exact ih.append hround.underway

theorem Chronicle.underway {r : Attempt τ} (h : g₀.Chronicle r es fs) : Underway es fs := by
  cases h with
  | unread _ => exact started_underway _
  | unopened _ hc => exact (started_underway _).append hc.underway
  | cut ha _ hc => exact (List.append_nil fs) ▸ ha.underway.append hc.underway
  | unsaved ha _ _ hb => exact (List.append_nil fs) ▸ ha.underway.append hb.underway
  | finished ha _ _ hn => exact ha.underway.append hn.underway

omit [Clock τ] in
theorem failure_underway (name : String) (r : Attempt τ) : Underway (r.failure name) [] := by
  cases r with
  | ok _ => exact ⟨rfl, by simp [Attempt.failure]⟩
  | error _ => exact ⟨rfl, by simp [Attempt.failure, Event.finishing?]⟩

/-- What a whole run puts down tells all its failures but the one that ended
it. -/
theorem FullAccount.tells {o : Outcome τ} (h : g₀.FullAccount o es fs) : Tells es fs := by
  cases h with
  | @account r _ _ _ _ hc _ hw =>
    have hbody := (hc.underway.append (failure_underway g₀.executor.runName r)).tells
    have hends := o.lastWord_tells g₀.executor.runName
    have hwords := hw.tells (fun _ => rfl) fun _ => rfl
    have hall := (hbody.append hwords).append hends
    simpa using hall

/-- A run that is accounted for: what it put down is an account of it, from its
beginning to its end, and what it warned of are the failures that this tells
of. -/
def Accounted (g₀ h : Engine τ) (o : Outcome τ) : Prop :=
  ∃ es fs, g₀.FullAccount o es fs ∧ Tells es fs ∧ h.world.history = g₀.world.history ++ es ∧
    o.warnings = g₀.executor.warnings ++ fs

theorem run_account (hp : g₀.executor.phase = .created) {limit : Nat} {o : Outcome τ}
    (hr : g₀.run limit = .ok (some (h, o))) : g₀.Accounted h o := by
  rw [run_created hp] at hr
  obtain ⟨r, hx, hconcluded⟩ := Option.map_eq_some_iff.mp (Except.ok.inj hr)
  obtain ⟨es, fs, hc, hputs⟩ := (attempt_ends hx).chronicle
  obtain ⟨words, deaf, hw, hhistory, hwarnings⟩ := concluded_puts g₀.executor.runName r
  have herror := concluded_error g₀.executor.runName r
  rw [hconcluded, hputs.warnings, hputs.observers] at hw
  rw [hconcluded, hputs.history] at hhistory
  rw [hconcluded, hputs.warnings] at hwarnings
  rw [hconcluded] at herror
  have haccount := FullAccount.account hc herror hw
  refine ⟨_, _, haccount, haccount.tells, ?_, ?_⟩
  · rw [hhistory]
    simp only [List.append_assoc]
  · rw [hwarnings, List.append_assoc]

end Engine

end Minimize
