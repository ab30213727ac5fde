-- When a run stops for its signal. The signal is looked at once in an
-- iteration, after the solver was called and its state taken over. So whenever
-- it is raised, the call that is under way is gone through with to its end, at
-- most one more is begun, and the run is aborted, unless it is over already, the
-- solver ends it in its last call, or the last iteration fails.
import Minimize.Proofs.Hearing
import Minimize.Proofs.Stopping

namespace Minimize

variable {τ : Type} [Clock τ]

/-! ## Moments of a run -/

/-- The worlds that a call of a solver passes through, from the one in which
it is made to the one that it leaves. -/
inductive Call.Passes : Call τ → Problem → World τ → World τ → Prop
  | here {a : Call τ} {p : Problem} {w : World τ} : Passes a p w w
  | evaluate {c : Capability} {args : List Value} {next : Origin → Except Fault Value → Call τ}
      {p : Problem} {w w' : World τ}
      (h : Passes (next (p.origin c) (p.evaluate c args).2) (p.evaluate c args).1
        (if p.supports c then w.note (.evaluated c) else w) w') :
      Passes (.evaluate c args next) p w w'
  | change {c : Change} {next : Call τ} {p : Problem} {w w' : World τ}
      (h : Passes next (p.after c) w w') : Passes (.change c next) p w w'
  | wait {d : τ} {next : Call τ} {p : Problem} {w w' : World τ}
      (h : Passes next p (w.wait d) w') : Passes (.wait d next) p w w'
  | raise {signal : String} {next : Call τ} {p : Problem} {w w' : World τ}
      (h : Passes next p (w.raise signal) w') : Passes (.raise signal next) p w w'

theorem Call.Passes.follows {a : Call τ} {p : Problem} {w w' : World τ} (h : a.Passes p w w') :
    w'.Follows Event.IsEvaluation (a.run p w).world := by
  induction h with
  | here => exact Call.run_follows _ _ _
  | evaluate _ ih => exact ih
  | change _ ih => exact ih
  | wait _ ih => exact ih
  | raise _ ih => exact ih

namespace Registry

omit [Clock τ] in
def upTo (r : Registry τ) (n : Nat) : Registry τ :=
  ⟨r.entries.take n, ((List.take_sublist n r.entries).map _).nodup r.distinct⟩

omit [Clock τ] in
/-- When the first `n` observers have been told, the others are told as
well. -/
theorem upTo_follows (r : Registry τ) (n : Nat) (record : Record) (i : Int) (improved : Bool)
    (w : World τ) : ((r.upTo n).dispatch record i improved w).1.Follows Event.NoCall
      (r.dispatch record i improved w).1 := by
  have hsplit := List.take_append_drop n r.entries
  unfold dispatch
  conv =>
    rhs
    rw [← hsplit]
  rw [List.foldl_append]
  refine World.foldl_follows Prod.fst (fun acc e => ?_) (r.entries.drop n) _
  split
  · exact tell_follows record i e.1 e.2.observer acc
  · exact World.Follows.refl acc.1

end Registry

/-- Where in a run a moment lies: before it, within a call of the solver, or
while the observers are told of an iteration. -/
inductive Place where
  | before
  | calling
  | telling
  deriving DecidableEq

namespace Engine

variable {g₀ g g' u : Engine τ} {kind : CallKind} {past : List (State τ)} {started : τ}

/-- The moments of a run, each with the state in which the run stands then. -/
inductive Moment (g₀ : Engine τ) : Place → State τ → World τ → Prop
  | before {s : State τ} {first : Int} (hd : g₀.Departs s first) :
      Moment g₀ .before s g₀.world
  | calling {kind : CallKind} {past : List (State τ)} {g : Engine τ} {w : World τ}
      (hc : g₀.ComesTo kind past g)
      (hw : (g.executor.solver.call kind g.executor.state).Passes g.executor.problem
        (g.world.note (.called kind g.executor.state.book.iteration)) w) :
      Moment g₀ .calling g.executor.state w
  | telling {kind : CallKind} {past : List (State τ)} {g u v : Engine τ}
      (hc : g₀.ComesTo kind past g) (ha : g.advance kind g₀.world.clock = .ok u)
      (hs : u.save false = .ok v) (n : Nat) :
      Moment g₀ .telling v.executor.state
        ((v.executor.observers.upTo n).dispatch v.executor.state.record
          v.executor.state.book.iteration v.executor.improved v.world).1

/-! ## What a raised signal does -/

/-- Between the call of the solver and the judgement nothing happens in the
world. -/
theorem take_world {record : Option Record} (h : g.take kind started = .ok (u, record)) :
    u.world = (g.asked kind).world := by
  obtain ⟨⟨v, r⟩, hc, h⟩ := bind_ok h
  obtain ⟨x, hm, h⟩ := bind_ok h
  cases h
  have hv : v.world = (g.asked kind).world := by
    unfold consult at hc
    dsimp only at hc
    split at hc
    · cases hc
    · cases hc
      rfl
  rw [← hv]
  unfold merge at hm
  dsimp only at hm
  split at hm
  · cases hm
  · cases hm
    rfl

/-- If the signal is raised when the solver has been called, a completed
iteration is aborted, unless the solver has handed back a terminated state. -/
theorem advance_raised {n : Nat} (hsig : g.executor.signal = some n)
    (hup : (g.asked kind).world.isRaised n = true) (ha : g.advance kind started = .ok u) :
    u.executor.state.status = ⟨some .aborted⟩ ∨
      ∃ v r, (g.enter kind).consult kind = .ok (v, r) ∧ r.state.terminated = true ∧
        u.executor.state.status = r.state.status := by
  obtain ⟨x, record, y, ht, hj, hc⟩ := advance_ok ha
  obtain ⟨standard, _, hcompleted⟩ := complete_ok hc
  have hraised : x.aborted = true := by
    have hsignal : x.executor.signal = some n := (taken_signal ht).trans hsig
    unfold aborted
    rw [hsignal, take_world ht, enter_asked]
    exact hup
  obtain ⟨v, r, hconsult, _, hrecorded, _⟩ := take_ok ht
  have hstatus : x.executor.state.status = r.state.status := by
    obtain ⟨b, _, hs⟩ := State.recordBest_ok hrecorded
    rw [hs]
    cases kind <;> rfl
  rw [hcompleted]
  rcases judge_cases hj with ⟨hover, rfl⟩ | ⟨_, o, hcheck, rfl⟩
  · refine .inr ⟨v, r, hconsult, ?_, hstatus⟩
    unfold State.terminated at hover ⊢
    rw [← hstatus]
    exact hover
  · rw [hraised] at hcheck
    cases hcheck
    exact .inl rfl

/-- How a run that came to an outcome has ended, after a moment at which its
signal was raised: it was aborted; it was over at that moment already; the
solver handed back a terminated state in the last call; or the iteration of the
last call failed. -/
inductive Halts (g₀ : Engine τ) (s : State τ) (w h : World τ) (o : Outcome τ) : Prop
  | aborted (hs : o.state.status = ⟨some .aborted⟩)
  | over (ht : s.terminated = true) (hs : o.state = s) (hcalls : h.calls = w.calls)
  | ended {kind : CallKind} {past : List (State τ)} {g v : Engine τ} {r : Returned τ}
      (hc : g₀.ComesTo kind past g) (hr : (g.enter kind).consult kind = .ok (v, r))
      (ht : r.state.terminated = true) (hs : o.state.status = r.state.status)
      (hcalls : h.calls = g.world.calls ++ [(kind, g.executor.state.book.iteration)])
  | failed {kind : CallKind} {past : List (State τ)} {g : Engine τ} {f : Failed τ}
      (hc : g₀.ComesTo kind past g) (hi : g.iterate kind g₀.world.clock = .error f)
      (he : o.error = some f.fault)
      (hcalls : h.calls = g.world.calls ++ [(kind, g.executor.state.book.iteration)])

omit [Clock τ] in
theorem save_terminated (ht : g.executor.state.terminated = true) (name : String) :
    (concluded name (g.save true)).2.state = g.executor.state ∧
      (concluded name (g.save true)).1.world.calls = g.world.calls := by
  have hstands := save_stands g true
  refine ⟨?_, ?_⟩
  · rw [concluded_terminated name (hstands.state ▸ ht), hstands.state]
  · rw [concluded_calls, (save_keeps g true).world.calls]

/-- A run whose signal is raised when the solver has been called makes no other
call. -/
theorem run_of_raised_call (hp : g₀.executor.phase = .created) {n : Nat}
    (hsig : g.executor.signal = some n) (hc : g₀.ComesTo kind past g)
    (hup : (g.asked kind).world.isRaised n = true) (s : State τ) (w : World τ) :
    ∃ limit h o, g₀.run limit = .ok (some (h, o)) ∧
      h.world.calls = g.world.calls ++ [(kind, g.executor.state.book.iteration)] ∧
      g₀.Halts s w h.world o := by
  have hcalls := iterate_calls kind g₀.world.clock g
  have hrun := run_created hp (past.length + 0)
  rw [attempt_of_comesTo hc] at hrun
  cases hi : g.iterate kind g₀.world.clock with
  | error f =>
    rw [hi] at hrun hcalls
    have hlast := (concluded_calls g₀.executor.runName (.error f)).trans hcalls
    exact ⟨_, _, _, hrun, hlast, .failed hc hi rfl hlast⟩
  | ok g' =>
    rw [hi] at hrun hcalls
    obtain ⟨u, ha, hu, _⟩ := iterate_ok hi
    have hend := advance_raised hsig hup ha
    have ht : g'.executor.state.terminated = true := by
      rw [hu.state]
      rcases hend with habort | ⟨_, r, _, hr, hs⟩
      · exact State.terminated_of_reason habort
      · unfold State.terminated at hr ⊢
        rw [hs]
        exact hr
    obtain ⟨hstate, hquiet⟩ := save_terminated ht g₀.executor.runName
    have hlast := hquiet.trans hcalls
    rw [hu.state] at hstate
    dsimp only at hrun
    rw [onward_terminated _ _ ht] at hrun
    refine ⟨_, _, _, hrun, hlast, ?_⟩
    rcases hend with habort | ⟨v, r, hr, hterminated, hs⟩
    · exact .aborted ((congrArg State.status hstate).trans habort)
    · exact .ended hc hr hterminated ((congrArg State.status hstate).trans hs) hlast

theorem ComesTo.signal (hc : g₀.ComesTo kind past g) :
    g.executor.signal = g₀.executor.signal := by
  cases hc with
  | opening _ => rfl
  | step hc _ => exact hc.signal

/-- A signal that is raised when the solver is called is raised when it has
been called. -/
theorem asked_raised {n : Nat} (hup : g.world.isRaised n = true) (kind : CallKind) :
    (g.asked kind).world.isRaised n = true :=
  (asked_follows kind g).raised n hup

/-- A run whose signal is raised between two iterations makes at most one more
call. -/
theorem run_of_raised (hp : g₀.executor.phase = .created) {n : Nat}
    (hsig : g₀.executor.signal = some n) (hc : g₀.Course past g)
    (hup : g.world.isRaised n = true) {w : World τ} (hw : w.calls = g.world.calls) :
    ∃ limit h o later, g₀.run limit = .ok (some (h, o)) ∧ h.world.calls = w.calls ++ later ∧
      later.length ≤ 1 ∧ g₀.Halts g.executor.state w h.world o := by
  cases ht : g.executor.state.terminated with
  | true =>
    obtain ⟨hstate, hcalls⟩ := save_terminated ht g₀.executor.runName
    have hrun := run_of_course hp hc 0
    rw [onward_terminated _ _ ht] at hrun
    have hnone := hcalls.trans hw.symm
    exact ⟨_, _, _, [], hrun, hnone.trans (List.append_nil _).symm, Nat.zero_le 1,
      .over ht hstate hnone⟩
  | false =>
    obtain ⟨limit, h, o, hrun, hcalls, hhalts⟩ := run_of_raised_call hp (hc.signal.trans hsig)
      (.step hc ht) (asked_raised hup .step) g.executor.state w
    refine ⟨limit, h, o, [(.step, g.executor.state.book.iteration)], hrun, ?_, Nat.le_refl 1,
      hhalts⟩
    rw [hw]
    exact hcalls

/-! ## What is gone through with -/

theorem terminated_history (ht : g.executor.state.terminated = true) {limit : Nat}
    {r : Attempt τ} (h : g.onward started limit = some r) :
    ∃ es, r.left.world.history = g.world.history ++ es := by
  rw [onward_terminated _ _ ht] at h
  obtain ⟨es, hes, _⟩ := (save_keeps g true).world.history
  exact Option.some.inj h ▸ ⟨es, hes⟩

theorem onward_history {limit : Nat} {r : Attempt τ} (h : g.onward started limit = some r) :
    ∃ es, r.left.world.history = g.world.history ++ es := by
  induction limit generalizing g with
  | zero =>
    cases ht : g.executor.state.terminated with
    | true => exact terminated_history ht h
    | false => exact nomatch (onward_zero _ ht).symm.trans h
  | succ limit ih =>
    cases ht : g.executor.state.terminated with
    | true => exact terminated_history ht h
    | false =>
      rw [onward_step _ _ ht] at h
      obtain ⟨es, hes, _⟩ := (iterate_keeps .step started g).world.history
      have hput : (Attempt.left (g.iterate .step started)).world.history = g.world.history ++
          (.called .step g.executor.state.book.iteration :: es) := by
        rw [hes]
        exact (congrArg (· ++ es) (World.history_note _ _)).trans (List.append_assoc _ _ _)
      cases hi : g.iterate .step started with
      | ok g' =>
        rw [hi] at h hput
        have hput' : g'.world.history = _ := hput
        obtain ⟨es', hes'⟩ := ih h
        rw [hput', List.append_assoc] at hes'
        exact ⟨_, hes'⟩
      | error f =>
        rw [hi] at h hput
        exact Option.some.inj h ▸ ⟨_, hput⟩

/-- An iteration that a run has gone through with. The state that the solver
handed back was taken over, with the bookkeeping of the engine and the
counters of the problem, and its point was recorded; it was completed, as it was
taken over or as the solver left it when it was asked whether the run is to stop,
and saved if that was due, and the observers of the run were told of it. -/
structure GoneThrough (g₀ : Engine τ) (kind : CallKind) (g g' : Engine τ) (h : World τ) :
    Prop where
  merged : ∃ u r t, (g.enter kind).consult kind = .ok (u, r) ∧
    (u.carried (r.placed kind g.executor.state).state (g.kept kind)
      (kind.target g.executor.state.book.iteration) g₀.world.clock).recordBest =
        .ok (t, g'.executor.improved) ∧
    ∃ s, (s = t ∨ s = g.executor.solver.revised t) ∧ g'.executor.state =
      { s with status := g'.executor.state.status, record := g'.executor.state.record }
  observers : g'.executor.observers = g₀.executor.observers
  told : ∃ before es fs after, g.Round kind g₀.world.clock g' es fs ∧
    h.history = before ++ es ++ after

theorem ComesTo.course (hc : g₀.ComesTo kind past g)
    (hi : g.iterate kind g₀.world.clock = .ok g') : g₀.Course past g' := by
  cases hc with
  | opening hn => exact .start ((start_fresh hn _).trans hi)
  | step hc hr => exact .step hc hr hi

/-- A run that ends has gone through with every iteration that did not fail. -/
theorem ComesTo.goneThrough (hp : g₀.executor.phase = .created) {limit : Nat} {h : Engine τ}
    {o : Outcome τ} (hrun : g₀.run limit = .ok (some (h, o))) (hc : g₀.ComesTo kind past g)
    (hi : g.iterate kind g₀.world.clock = .ok g') : g₀.GoneThrough kind g g' h.world := by
  have hcourse := hc.course hi
  obtain ⟨es, fs, hround, hputs⟩ := iterate_puts hi
  refine ⟨?_, ?_, g.world.history, es, fs, ?_⟩
  · obtain ⟨x, ha, hx, _⟩ := iterate_ok hi
    obtain ⟨u, record, y, ht, hj, hcomplete⟩ := advance_ok ha
    obtain ⟨standard, _, hcompleted⟩ := complete_ok hcomplete
    obtain ⟨v, r, hconsult, _, hrecorded, _⟩ := take_ok ht
    rw [enter_state, enter_kept] at hrecorded
    have hsolver : u.executor.solver = g.executor.solver := taken_solver ht
    have hleft : u.questioned = u.executor.state ∨
        u.questioned = g.executor.solver.revised u.executor.state := by
      rw [← hsolver]
      exact (questioned_cases u).symm
    have hjudged := judge_cases hj
    refine ⟨v, r, u.executor.state, hconsult, ?_, ?_⟩
    · rw [hx.improved, hcompleted]
      rcases hjudged with ⟨_, rfl⟩ | ⟨_, o, _, rfl⟩
      · exact hrecorded
      · cases o <;> exact hrecorded
    · rw [hx.state, hcompleted]
      rcases hjudged with ⟨_, rfl⟩ | ⟨_, o, _, rfl⟩
      · exact ⟨_, .inl rfl, rfl⟩
      · cases o <;> exact ⟨_, hleft, rfl⟩
  · obtain ⟨_, _, _, hall⟩ := hcourse.account
    exact hall.observers
  · rw [run_created hp] at hrun
    obtain ⟨r, hr, hconcluded⟩ := Option.map_eq_some_iff.mp (Except.ok.inj hrun)
    have hmore := attempt_more hr past.length
    rw [Nat.add_comm, attempt_of_course hcourse] at hmore
    obtain ⟨later, hlater⟩ := onward_history hmore
    obtain ⟨words, _, _, hclosed, _⟩ := concluded_puts g₀.executor.runName r
    rw [hconcluded] at hclosed
    rw [hlater, hputs.history] at hclosed
    simp only [List.append_assoc (g.world.history ++ es)] at hclosed
    exact ⟨_, hround, hclosed⟩

/-! ## The law -/

/-- An abort stops a run within one step, and never inside of one. Whatever the
solver is, and at whatever moment the signal is raised: before the run, in a
call of the solver, or while the observers are told of an iteration. The run
ends. After that moment at most one step is begun; if the signal was raised in
a call, nothing is, and if it was raised before a run that starts from nothing,
only the opening is. Every call that was begun and whose iteration does not fail
is gone through with. The run is aborted, whatever else would end it, unless
it was over at that moment, the solver handed back a terminated state in the
last call, or the last iteration failed. -/
theorem an_abort_stops_within_one_step (hp : g₀.executor.phase = .created) {n : Nat}
    (hsig : g₀.executor.signal = some n) {place : Place} {s : State τ} {w : World τ}
    (hm : g₀.Moment place s w) (hup : w.isRaised n = true) :
    ∃ limit h o later, g₀.run limit = .ok (some (h, o)) ∧ h.world.calls = w.calls ++ later ∧
      later.countP (·.1 = .step) ≤ 1 ∧ (place = .calling → later = []) ∧
      (place = .before → g₀.stored = .ok none →
        later = [(.opening, g₀.executor.state.book.iteration)]) ∧
      (∀ kind past g g', g₀.ComesTo kind past g → g.iterate kind g₀.world.clock = .ok g' →
        g₀.GoneThrough kind g g' h.world) ∧
      g₀.Halts s w h.world o := by
  have hgone {limit : Nat} {h : Engine τ} {o : Outcome τ}
      (hrun : g₀.run limit = .ok (some (h, o))) (kind past g g') (hc : g₀.ComesTo kind past g)
      (hi : g.iterate kind g₀.world.clock = .ok g') : g₀.GoneThrough kind g g' h.world :=
    hc.goneThrough hp hrun hi
  have hfew {later : List (CallKind × Int)} (hl : later.length ≤ 1) :
      later.countP (·.1 = .step) ≤ 1 := Nat.le_trans List.countP_le_length hl
  cases hm with
  | before hd =>
    cases hd with
    | opening hn =>
      have hsig' : g₀.begun.settled.executor.signal = some n := hsig
      have hup' : g₀.begun.settled.world.isRaised n = true := hup
      obtain ⟨limit, h, o, hrun, hcalls, hhalts⟩ := run_of_raised_call hp hsig' (.opening hn)
        (asked_raised hup' .opening) g₀.executor.state.settled g₀.world
      have hbegun : g₀.begun.settled.world.calls = g₀.world.calls :=
        (World.calls_note g₀.world _).trans (List.append_nil _)
      rw [hbegun] at hcalls
      exact ⟨limit, h, o, _, hrun, hcalls, hfew (Nat.le_refl 1), nofun, fun _ _ => rfl,
        hgone hrun, hhalts⟩
    | @resumed t hs =>
      obtain ⟨v, hv, hresumes⟩ := start_resumes hs
      obtain rfl := Except.ok.inj ((start_resumed hs _).symm.trans hv.begins)
      obtain ⟨limit, h, o, later, hrun, hcalls, hl, hhalts⟩ := run_of_raised hp hsig hv
        (hresumes.world.raised n hup) hresumes.world.toGrows.calls.symm
      refine ⟨limit, h, o, later, hrun, hcalls, hfew hl, nofun, ?_, hgone hrun, hhalts⟩
      intro _ hn
      exact nomatch hs.symm.trans hn
  | @calling kind past g w hc hw =>
    have hfollows := hw.follows
    obtain ⟨limit, h, o, hrun, hcalls, hhalts⟩ := run_of_raised_call hp (hc.signal.trans hsig) hc
      (hfollows.raised n hup) g.executor.state w
    have hbegun := ((asked_follows kind g).mono fun _ he => he.noCall).toGrows.calls
    have hnow := (hfollows.mono fun _ he => he.noCall).toGrows.calls
    have hnone : h.world.calls = w.calls := by
      rw [hcalls, ← hnow]
      exact (World.calls_note g.world _).symm.trans hbegun.symm
    exact ⟨limit, h, o, [], hrun, by rw [hnone, List.append_nil], Nat.zero_le 1, fun _ => rfl,
      nofun, hgone hrun, hhalts⟩
  | @telling kind past g u v hc ha hs k =>
    have hfollows := v.executor.observers.upTo_follows k v.executor.state.record
      v.executor.state.book.iteration v.executor.improved v.world
    have hi : g.iterate kind g₀.world.clock = .ok v.dispatch := by
      rw [iterate_eq, ha]
      show (u.save false).bind _ = _
      rw [hs]
      rfl
    obtain ⟨limit, h, o, later, hrun, hcalls, hl, hhalts⟩ := run_of_raised hp hsig (hc.course hi)
      (hfollows.raised n hup) hfollows.toGrows.calls.symm
    exact ⟨limit, h, o, later, hrun, hcalls, hfew hl, nofun, nofun, hgone hrun, hhalts⟩

/-- After the call of the solver, an iteration up to its record leaves the
signals as they are. -/
theorem advance_signals (ha : g.advance kind started = .ok u) :
    u.world.signals = (g.asked kind).world.signals := by
  obtain ⟨x, record, y, ht, hj, hc⟩ := advance_ok ha
  have hjudged : y.world = x.world := by
    rcases judge_cases hj with ⟨_, rfl⟩ | ⟨_, o, _, rfl⟩
    · rfl
    · cases o <;> rfl
  have hx := take_world ht
  rw [enter_asked] at hx
  rw [← hx, ← hjudged]
  unfold complete at hc
  dsimp only at hc
  split at hc
  · cases hc
  · cases hc
    rfl

/-- An observer that raises a signal whenever it is told of an iteration. -/
def alarm (signal : String) : Observer Float where
  typeName := "Alarm"
  setup := none
  notify _ o := ⟨o, [signal], [], none⟩
  finish := none

/-- A replay of two costs under a limit of one iteration, for an observer that
raises the signal of the run. -/
def alarmed : Engine Float :=
  watchedBy (underLimit (Sample.replay [true, false]) 1 none (some 0)
    ((World.start 0).addSignal "stop")) (alarm "stop")

theorem alarm_raises {w : World Float} (hw : w.signals = alarmed.world.signals) (record : Record)
    (i : Int) (improved : Bool) :
    ((alarmed.executor.observers.upTo 1).dispatch record i improved w).1.isRaised 0 = true := by
  show ((w.signals.replace "stop" true).get? 0 = some true : Bool) = true
  rw [hw]
  rfl

/-- The law for a replay whose signal is raised when its observer is told of the
opening. It is aborted at the next iteration, at which the limit is reached as
well. -/
theorem an_alarmed_replay_stops_within_one_step :
    ∃ s w h o later, alarmed.Moment .telling s w ∧ w.isRaised 0 = true ∧
      s.terminated = false ∧ alarmed.run 1 = .ok (some (h, o)) ∧
      h.world.calls = w.calls ++ later ∧ later.countP (·.1 = .step) ≤ 1 ∧
      o.state.status = ⟨some .aborted⟩ ∧ o.iterations = 1 := by
  have hreplays : alarmed.begun.settled.Replays [true, false] :=
    ⟨rfl, List.cons_ne_nil _ _, Int.le_refl 0⟩
  have hlimited : alarmed.begun.settled.Limited 1 := ⟨rfl, rfl, fun _ => rfl, fun h => nomatch h⟩
  have hcomes : alarmed.ComesTo .opening [] alarmed.begun.settled := .opening rfl
  -- the opening is completed with the signal down, and the run is to go on
  obtain ⟨u, hu, hul⟩ := hlimited.advance (hreplays.moves .opening) rfl alarmed.world.clock
  have hstays := advance_stays .opening alarmed.world.clock alarmed.begun.settled
  obtain ⟨_, _, hputs⟩ := advance_puts .opening alarmed.world.clock alarmed.begun.settled
  rw [hu] at hstays hputs
  have hopen : u.executor.state.terminated = false := State.not_terminated_iff.mpr hul.status
  have hpolicy : u.executor.policy = none := hstays.policy
  have hsave : u.save false = .ok u := by
    unfold save
    rw [hpolicy]
  -- then the observer raises it
  have hobservers : u.executor.observers = alarmed.executor.observers := hputs.observers
  have hmoment := Moment.telling hcomes hu hsave 1
  have hup : ((u.executor.observers.upTo 1).dispatch u.executor.state.record
      u.executor.state.book.iteration u.executor.improved u.world).1.isRaised 0 = true := by
    rw [hobservers]
    exact alarm_raises (advance_signals hu) _ _ _
  obtain ⟨limit, h, o, later, hrun, hcalls, hfew, _⟩ :=
    an_abort_stops_within_one_step rfl rfl hmoment hup
  obtain ⟨hend, hstatus, hits⟩ : alarmed.run 1 = .ok (some (h, o)) ∧
      o.state.status = ⟨some .aborted⟩ ∧ o.iterations = 1 := by
    have hi : alarmed.begun.settled.iterate .opening alarmed.world.clock = .ok u.dispatch := by
      rw [iterate_eq, hu]
      show (u.save false).bind _ = _
      rw [hsave]
      rfl
    have haborted : u.dispatch.aborted = true := by
      have hsignal : u.dispatch.executor.signal = some 0 := hstays.signal
      unfold aborted
      rw [hsignal]
      exact (u.executor.observers.upTo_follows 1 _ _ _ _).raised 0 hup
    have hnext : u.dispatch.Limited 1 :=
      ⟨hul.criteria, hul.early, hul.judges, fun _ => hul.bestCost⟩
    have hsaves : u.dispatch.SavesGoOn u.dispatch.executor.solver := by
      intro p hp
      exact nomatch hpolicy.symm.trans hp
    obtain ⟨v, hv, hvs, hvl⟩ := hnext.iterate ((hreplays.iterate hi).moves .step) hsaves hul.status
      alarmed.world.clock
    rw [haborted] at hvl
    have hover : v.executor.state.status = ⟨some .aborted⟩ := hvl.status
    obtain ⟨x, hx, hstands, _, _⟩ := hvs.save true
    have hgoes : u.dispatch.executor.state.terminated = false := hopen
    have hterminated := State.terminated_of_reason hover
    have hrun' := run_of_course rfl (hcomes.course hi) (0 + 1)
    rw [onward_step _ _ hgoes, hv] at hrun'
    dsimp only at hrun'
    rw [onward_terminated _ _ hterminated, hx] at hrun'
    cases run_agree rfl hrun hrun'
    refine ⟨hrun', ?_, ?_⟩
    · exact (congrArg State.status hstands.state).trans hover
    · exact (congrArg (·.book.iteration) hstands.state).trans
        (hvl.iteration.trans (congrArg (· + 1) hul.iteration))
  exact ⟨_, _, h, o, later, hmoment, hup, hopen, hend, hcalls, hfew, hstatus, hits⟩

end Engine

end Minimize
