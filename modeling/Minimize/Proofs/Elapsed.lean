-- The time of a run. The clock moves while the solver is called, and nowhere
-- else in an iteration. A run begins at some reading of the clock with the time
-- that had passed before it, which it keeps beside the state; so whatever the
-- solver writes there, every completed iteration has the time that had passed
-- before the run and what the clock has moved since.
import Minimize.Proofs.Iteration
import Minimize.Proofs.Resumption

namespace Minimize

variable {τ : Type}

/-! ## Where the clock stands -/

namespace World

theorem foldl_clock {α β : Type} (view : β → World τ) {f : β → α → β}
    (hf : ∀ b a, (view (f b a)).clock = (view b).clock) (as : List α) (b : β) :
    (view (as.foldl f b)).clock = (view b).clock := by
  induction as generalizing b with
  | nil => rfl
  | cons a as ih => exact (ih (f b a)).trans (hf b a)

theorem note_clock (w : World τ) (e : Event τ) : (w.note e).clock = w.clock := rfl

theorem raise_clock (w : World τ) (name : String) : (w.raise name).clock = w.clock := rfl

theorem after_clock (w : World τ) (r : Reaction) : (w.after r).clock = w.clock := by
  have hraised : (r.raised.foldl raise { w with outlets := r.outlets }).clock = w.clock :=
    foldl_clock id raise_clock r.raised _
  exact (foldl_clock id (fun w path => w.note_clock (.opened path)) r.opened _).trans hraised

end World

theorem Registry.tell_clock (record : Record) (i : Int) (name : String) (o : Observer τ)
    (acc : World τ × List Fault) : (tell record i name o acc).1.clock = acc.1.clock := by
  have hcall := World.after_clock (acc.1.note (.notified name i record))
    (o.notify record (acc.1.note (.notified name i record)).outlets)
  simp only [tell, World.call]
  split
  · rename_i heq
    exact (Prod.mk.inj heq).1 ▸ hcall
  · rename_i heq
    exact (Prod.mk.inj heq).1 ▸ hcall

theorem Registry.dispatch_clock (r : Registry τ) (record : Record) (i : Int) (improved : Bool)
    (w : World τ) : (r.dispatch record i improved w).1.clock = w.clock := by
  refine World.foldl_clock Prod.fst (fun acc e => ?_) r.entries (w, [])
  split
  · exact tell_clock record i e.1 e.2.observer acc
  · rfl

theorem Bookkeeping.recorded_elapsed {b b' : Bookkeeping τ} {param cost : Value} {improved : Bool}
    (h : b.recorded param cost = .ok (b', improved)) : b'.elapsed = b.elapsed := by
  rcases recorded_cases h with ⟨_, _, rfl⟩ | ⟨_, _, _, rfl⟩
  · rfl
  · rfl

namespace Engine

variable [Clock τ] {g₀ g u v : Engine τ} {kind : CallKind} {started : τ} {past : List (State τ)}

/-- A moment of an engine at the same reading of the clock, with the same time
before the run. -/
structure SameTime (g h : Engine τ) : Prop where
  clock : h.world.clock = g.world.clock
  base : h.executor.baseElapsed = g.executor.baseElapsed

omit [Clock τ] in
theorem SameTime.trans {h : Engine τ} (hgu : g.SameTime u) (huh : u.SameTime h) : g.SameTime h :=
  ⟨huh.clock.trans hgu.clock, huh.base.trans hgu.base⟩

omit [Clock τ] in
theorem save_sameTime {final : Bool} (h : g.save final = .ok u) : g.SameTime u := by
  cases hp : g.executor.policy with
  | none =>
    unfold save at h
    rw [hp] at h
    cases h
    exact ⟨rfl, rfl⟩
  | some p =>
    have hw : (if p.isDue g.executor.state.book.iteration final then
        g.world.note (.attempted p.key g.executor.state.book.iteration) else g.world).clock =
          g.world.clock := by
      split <;> rfl
    rw [save_eq hp] at h
    dsimp only at h
    cases hr : (p.maybeSave ⟨g.executor.solver, g.executor.state⟩ final
        ((if p.isDue g.executor.state.book.iteration final then
          g.world.note (.attempted p.key g.executor.state.book.iteration) else g.world).cabinet
            p.cabinet)).2.2 with
    | notDue =>
      rw [hr] at h
      cases h
      exact ⟨hw, rfl⟩
    | saved =>
      rw [hr] at h
      cases h
      exact ⟨hw, rfl⟩
    | failed f =>
      rw [hr] at h
      unfold afterSave at h
      dsimp only at h
      split at h
      · cases h
      · cases h
        exact ⟨hw, rfl⟩

omit [Clock τ] in
theorem dispatch_sameTime (g : Engine τ) : g.SameTime g.dispatch :=
  ⟨g.executor.observers.dispatch_clock g.executor.state.record g.executor.state.book.iteration
    g.executor.improved g.world, rfl⟩

theorem merge_sameTime {r : Returned τ} {book : Bookkeeping τ} {i : Int}
    (h : g.merge r book i started = .ok u) : g.SameTime u := by
  unfold merge at h
  dsimp only at h
  split at h
  · cases h
  · cases h
    cases r.inPlace <;> exact ⟨rfl, rfl⟩

theorem complete_sameTime {record : Option Record} (h : g.complete record = .ok u) :
    g.SameTime u := by
  unfold complete at h
  dsimp only at h
  split at h
  · cases h
  · cases h
    exact ⟨rfl, rfl⟩

theorem consult_time {r : Returned τ} (h : g.consult kind = .ok (u, r)) :
    u.world.clock = (g.asked kind).world.clock ∧
      u.executor.baseElapsed = g.executor.baseElapsed ∧
      u.executor.settings = g.executor.settings := by
  unfold consult at h
  dsimp only at h
  split at h
  · cases h
  · cases h
    exact ⟨rfl, rfl, rfl⟩

/-- What is taken over stands at the reading of the clock after the call, and the
time before the run stays. -/
theorem take_clock {record : Option Record} (h : g.take kind started = .ok (u, record)) :
    u.world.clock = (g.asked kind).world.clock ∧
      u.executor.baseElapsed = g.executor.baseElapsed := by
  obtain ⟨⟨x, r⟩, hconsult, h⟩ := bind_ok h
  obtain ⟨y, hmerge, h⟩ := bind_ok h
  cases h
  obtain ⟨hclock, hbase, _⟩ := consult_time hconsult
  have hsame := merge_sameTime hmerge
  exact ⟨hsame.clock.trans hclock, hsame.base.trans hbase⟩

/-- If the run is timed, what is taken over has the time that had passed before
the run and what the clock has moved since it began, whatever the solver wrote
there. -/
theorem take_elapsed {record : Option Record} (htimer : g.executor.settings.timer = true)
    (h : g.take kind started = .ok (u, record)) :
    u.executor.state.book.elapsed =
      Clock.passed g.executor.baseElapsed started (g.asked kind).world.clock := by
  obtain ⟨x, r, hconsult, _, hrecord, _⟩ := take_ok h
  obtain ⟨hclock, hbase, hsettings⟩ := consult_time hconsult
  obtain ⟨b, hb, hs⟩ := State.recordBest_ok hrecord
  have hpassed : x.elapsed (g.kept kind).elapsed started =
      Clock.passed g.executor.baseElapsed started (g.asked kind).world.clock := by
    unfold elapsed
    rw [hsettings, htimer, hbase, hclock]
    rfl
  rw [hs, ← hpassed]
  exact Bookkeeping.recorded_elapsed hb

theorem judge_sameTime (h : g.judge = .ok u) : g.SameTime u := by
  rcases judge_cases h with ⟨_, rfl⟩ | ⟨_, o, _, rfl⟩
  · exact ⟨rfl, rfl⟩
  · cases o with
    | none => exact ⟨rfl, rfl⟩
    | some r => exact ⟨rfl, rfl⟩

/-- An iteration that is completed, or completed and told, stands where its
state was taken over, with the bookkeeping of that state if the solver only
judges. -/
theorem advance_time (h : g.advance kind started = .ok u) :
    ∃ v record, (g.enter kind).take kind started = .ok (v, record) ∧ v.SameTime u ∧
      (g.executor.solver.OnlyJudges → u.executor.state.book = v.executor.state.book) := by
  obtain ⟨v, record, w, htake, hjudge, hcomplete⟩ := advance_ok h
  obtain ⟨standard, _, hexecutor⟩ := complete_ok hcomplete
  refine ⟨v, record, htake, (judge_sameTime hjudge).trans (complete_sameTime hcomplete),
    fun hx => ?_⟩
  have hv : v.executor.solver.OnlyJudges := by
    rw [taken_solver htake]
    exact hx
  obtain ⟨status, rfl⟩ := judge_same hv hjudge
  rw [hexecutor]
  rfl

theorem iterate_time (h : g.iterate kind started = .ok u) :
    ∃ v, g.advance kind started = .ok v ∧ v.SameTime u ∧
      u.executor.state = v.executor.state := by
  rw [iterate_eq] at h
  obtain ⟨v, hadvance, h⟩ := bind_ok h
  obtain ⟨w, hsave, h⟩ := bind_ok h
  cases h
  have hstands := save_stands v false
  rw [hsave] at hstands
  exact ⟨v, hadvance, (save_sameTime hsave).trans (dispatch_sameTime w), hstands.state⟩

/-! ## Along a run -/

/-- The time that had passed before a run: that of the snapshot that it goes on
from, or else that of the state that it starts with. -/
def already (g₀ : Engine τ) : τ :=
  match g₀.stored with
  | .ok (some s) => s.state.book.elapsed
  | _ => g₀.executor.state.book.elapsed

omit [Clock τ] in
theorem already_fresh (hn : g₀.stored = .ok none) :
    g₀.already = g₀.executor.state.book.elapsed := by
  unfold already
  rw [hn]

omit [Clock τ] in
theorem already_resumed {s : Snapshot τ} (hs : g₀.stored = .ok (some s)) :
    g₀.already = s.state.book.elapsed := by
  unfold already
  rw [hs]

omit [Clock τ] in
/-- A run that goes on from a snapshot stands where it began, with the time of the
snapshot. -/
theorem resume_time (g : Engine τ) (s : Snapshot τ) :
    (g.resume s).world.clock = g.world.clock ∧
      (g.resume s).executor.baseElapsed = s.state.book.elapsed ∧
      (g.resume s).executor.state.book = s.state.book := by
  have hignored : ((ignoredNames s.state.counts).foldl (fun w n => w.note (.ignoredCounter n))
      g.world).clock = g.world.clock :=
    World.foldl_clock id (fun w n => w.note_clock (.ignoredCounter n)) _ g.world
  unfold resume
  dsimp only
  split
  · exact ⟨hignored, rfl, rfl⟩
  · exact ⟨hignored, rfl, rfl⟩

/-- The solver that a run goes on with: that of the snapshot, or else its own. -/
def acting (g₀ : Engine τ) : Solver τ :=
  match g₀.stored with
  | .ok (some s) => s.solver
  | _ => g₀.executor.solver

omit [Clock τ] in
theorem noteLoaded_clock (g : Engine τ) (s : Snapshot τ) :
    (g.noteLoaded s).world.clock = g.world.clock := by
  unfold noteLoaded
  split <;> rfl

/-- That a run goes by the time that had passed before it, by its settings and
by the solver that acts in it. -/
structure GoesBy (g₀ g : Engine τ) : Prop where
  base : g.executor.baseElapsed = g₀.already
  settings : g.executor.settings = g₀.executor.settings
  solver : g.executor.solver = g₀.acting

omit [Clock τ] in
theorem GoesBy.step (h : g₀.GoesBy g) : g₀.GoesBy (g.enter .step) :=
  ⟨h.base, h.settings, h.solver⟩

theorem GoesBy.take {record : Option Record} (h : g₀.GoesBy g)
    (ht : g.take kind started = .ok (u, record)) : g₀.GoesBy u := by
  have hstays := take_stays kind started g
  rw [ht] at hstays
  exact ⟨(take_clock ht).2.trans h.base, hstays.settings.trans h.settings,
    hstays.solver.trans h.solver⟩

theorem GoesBy.iterate (h : g₀.GoesBy (g.enter kind)) (hi : g.iterate kind started = .ok u) :
    g₀.GoesBy u := by
  obtain ⟨v, hadvance, hsame, _⟩ := iterate_time hi
  obtain ⟨w, record, htake, hsame', _⟩ := advance_time hadvance
  have hkeeps := iterate_keeps kind started g
  rw [hi] at hkeeps
  refine ⟨(hsame'.trans hsame).base.trans (h.take htake).base, ?_, ?_⟩
  · exact hkeeps.settings.trans (by cases kind <;> exact h.settings)
  · exact hkeeps.solver.trans (by cases kind <;> exact h.solver)

omit [Clock τ] in
theorem opening_goesBy (hn : g₀.stored = .ok none) :
    g₀.GoesBy (g₀.begun.settled.enter .opening) := by
  refine ⟨(already_fresh hn).symm, rfl, ?_⟩
  unfold acting
  rw [hn]
  rfl

omit [Clock τ] in
theorem resume_goesBy {s : Snapshot τ} (hs : g₀.stored = .ok (some s)) :
    g₀.GoesBy ((g₀.begun.settled.noteLoaded s).resume s) := by
  obtain ⟨hexecutor, _⟩ := noteLoaded_eq g₀.begun.settled s
  obtain ⟨hsolver, hsettings, _⟩ := resume_eq (g₀.begun.settled.noteLoaded s) s
  refine ⟨(resume_time _ s).2.1.trans (already_resumed hs).symm, ?_, ?_⟩
  · rw [hsettings, hexecutor]
    rfl
  · unfold acting
    rw [hsolver, hs]

/-- A run goes by the same all along. -/
theorem Course.goesBy (hc : g₀.Course past g) : g₀.GoesBy g := by
  induction hc with
  | start hs =>
    rcases start_ok hs with ⟨hn, hi⟩ | ⟨s, hn, rfl⟩
    · exact (opening_goesBy hn).iterate hi
    · exact resume_goesBy hn
  | step _ _ hi ih => exact ih.step.iterate hi

theorem ComesTo.goesBy (hc : g₀.ComesTo kind past g) : g₀.GoesBy (g.enter kind) := by
  cases hc with
  | opening hn => exact opening_goesBy hn
  | step hc _ => exact hc.goesBy.step

/-- What a timed run takes over has the time that had passed before the run and
what the clock has moved since it began. -/
theorem ComesTo.take_time {record : Option Record} (htimer : g₀.executor.settings.timer = true)
    (hc : g₀.ComesTo kind past g)
    (ht : (g.enter kind).take kind g₀.world.clock = .ok (v, record)) :
    v.world.clock = (g.asked kind).world.clock ∧
      v.executor.state.book.elapsed =
        Clock.passed g₀.already g₀.world.clock v.world.clock := by
  have hgoes := hc.goesBy
  have hclock := (take_clock ht).1
  have helapsed := take_elapsed (hgoes.settings ▸ htimer) ht
  rw [enter_asked] at hclock helapsed
  refine ⟨hclock, ?_⟩
  rw [helapsed, hgoes.base, hclock]

theorem ComesTo.advance_time (hj : g₀.OnlyJudges)
    (htimer : g₀.executor.settings.timer = true) (hc : g₀.ComesTo kind past g)
    (ha : g.advance kind g₀.world.clock = .ok u) :
    u.world.clock = (g.asked kind).world.clock ∧
      u.executor.state.book.elapsed =
        Clock.passed g₀.already g₀.world.clock u.world.clock := by
  obtain ⟨v, record, htake, hsame, hbook⟩ := Engine.advance_time ha
  obtain ⟨hclock, helapsed⟩ := hc.take_time htimer htake
  refine ⟨hsame.clock.trans hclock, ?_⟩
  rw [hbook (hc.works hj), helapsed, hsame.clock]

end Engine

end Minimize
