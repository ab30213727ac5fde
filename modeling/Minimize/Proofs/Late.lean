-- A step that fails after its call. The state from before the call is put back
-- only where the call itself fails. A state whose cost cannot be compared, that
-- cannot be checked or has no record, stays as far as it was taken over: at an
-- iteration that was never completed, and that no observer was told of.
import Minimize.Proofs.Breaks
import Minimize.Proofs.Pace

namespace Minimize

variable {τ : Type}

/-! ## States but for the status -/

/-- The same state in every field but the status. -/
def State.SameButStatus (s t : State τ) : Prop := s = { t with status := s.status }

namespace State.SameButStatus

variable {s t u : State τ}

theorem restated (s : State τ) (status : Status) : { s with status }.SameButStatus s := rfl

theorem symm (h : s.SameButStatus t) : t.SameButStatus s := by
  unfold State.SameButStatus at h ⊢
  rw [h]

theorem trans (h : s.SameButStatus t) (h' : t.SameButStatus u) : s.SameButStatus u := by
  unfold State.SameButStatus at h h' ⊢
  rw [h, h']

theorem book (h : s.SameButStatus t) : s.book = t.book := by
  rw [h]

theorem record (h : s.SameButStatus t) : s.record = t.record := by
  rw [h]

end State.SameButStatus

/-! ## The last completed state -/

/-- Whether an event can follow the completion of a state, as long as no other
is completed: no observer is told of another iteration. -/
def Event.trails (s : State τ) : Event τ → Prop
  | .completed _ => False
  | .notified _ i record => i = s.book.iteration ∧ record = s.record
  | _ => True

theorem Event.trails_of_ends {e : Event τ} (h : e.ends = true) (s : State τ) : e.trails s := by
  cases e with
  | completed t => cases h
  | notified name i record => cases h
  | _ => trivial

theorem Event.IsEvaluation.trails {e : Event τ} (h : e.IsEvaluation) (s : State τ) :
    e.trails s := by
  obtain ⟨c, rfl⟩ := h
  trivial

/-- A state is the last one that was completed, and the observers were told of
no iteration but its own since. -/
def LastCompleted (es : List (Event τ)) (s : State τ) : Prop :=
  ∃ before after, es = before ++ .completed s :: after ∧ ∀ e ∈ after, e.trails s

namespace LastCompleted

variable {es es' : List (Event τ)} {s : State τ}

theorem before (h : LastCompleted es s) (es' : List (Event τ)) : LastCompleted (es' ++ es) s := by
  obtain ⟨before, after, rfl, hafter⟩ := h
  exact ⟨es' ++ before, after, (List.append_assoc _ _ _).symm, hafter⟩

theorem still (h : LastCompleted es s) (hes : ∀ e ∈ es', e.trails s) :
    LastCompleted (es ++ es') s := by
  obtain ⟨before, after, rfl, hafter⟩ := h
  refine ⟨before, after ++ es', by simp, fun e he => ?_⟩
  rcases List.mem_append.mp he with h1 | h1
  · exact hafter e h1
  · exact hes e h1

end LastCompleted

variable [Clock τ]

namespace Engine

variable {g₀ g g' u : Engine τ} {kind : CallKind} {past : List (State τ)} {started : τ}
  {r : Returned τ} {f : Failed τ}

omit [Clock τ] in
theorem SaveNoted.trails {final : Bool} {es : List (Event τ)} {fs : List Fault}
    (h : g.SaveNoted final es fs) (s : State τ) : ∀ e ∈ es, e.trails s := by
  cases h <;> simp [Event.trails]

theorem Round.lastCompleted {es : List (Event τ)} {fs : List Fault}
    (h : g.Round kind started g' es fs) : LastCompleted es g'.executor.state := by
  cases h with
  | @round u v evals saves words missed deaf he ha hs hn hw =>
    have hstands := save_stands u false
    rw [hs] at hstands
    have hstate : v.executor.state = u.executor.state := hstands.state
    have hwords : ∀ e ∈ words, e.trails v.executor.state :=
      hw.all (fun _ => ⟨rfl, rfl⟩) (fun _ => trivial) fun _ => trivial
    show LastCompleted _ v.executor.state
    rw [← hstate]
    refine LastCompleted.still (LastCompleted.still ?_ (hn.trails _)) hwords
    exact ⟨_, [], rfl, fun _ he => absurd he List.not_mem_nil⟩

theorem Course.lastCompleted (hn : g₀.stored = .ok none) (hc : g₀.Course past g) :
    LastCompleted g.world.history g.executor.state := by
  obtain ⟨kind, v, _, hi⟩ := hc.comes hn
  obtain ⟨es, fs, hround, hputs⟩ := iterate_puts hi
  rw [hputs.history]
  exact hround.lastCompleted.before _

/-! ## Steps that fail after the call -/

/-- The returned state as far as a step takes it over before it is held against
the best so far: behind the state before, at the next iteration, with the
counters of the problem and the bookkeeping that is kept. -/
def takenOver (g u : Engine τ) (r : Returned τ) (started : τ) : State τ :=
  u.carried (r.placed .step g.executor.state).state (g.kept .step)
    (g.executor.state.book.iteration + 1) started

/-- The state `s` that a step leaves if it fails after its call, where `t` is
the state that it would take over. If the cost cannot be compared, and the
solver handed back another state, that which it was given stands as the solver
left it. If it handed back that same state, it is at the next iteration with
the record and the bookkeeping of before. If the cost can be compared, the
state is taken over with its point recorded, and only its record is of
before. -/
inductive LeftLate (g u : Engine τ) (r : Returned τ) (t s : State τ) : Prop
  | elsewhere {e : Slip} (hrec : t.recordBest = .error e) (hplace : r.inPlace = false)
      (hs : s.SameButStatus u.executor.state)
  | inPlace {e : Slip} (hrec : t.recordBest = .error e) (hplace : r.inPlace = true)
      (hs : s.SameButStatus t) (hrecord : s.record = r.state.record)
      (hi : s.book.iteration = g.executor.state.book.iteration + 1)
      (hlag : s.book.iteration = s.book.lastBestIteration + s.book.noImprovementStreak + 1)
  | recorded {s' : State τ} {improved : Bool} (hrec : t.recordBest = .ok (s', improved))
      (hs : s.SameButStatus s') (hrecord : s.record = r.state.record)
      (hi : s.book.iteration = g.executor.state.book.iteration + 1) (hbalanced : s.book.Balanced)

omit [Clock τ] in
theorem LeftLate.of_same {t s s' : State τ} (h : g.LeftLate u r t s) (hs : s'.SameButStatus s) :
    g.LeftLate u r t s' := by
  cases h with
  | elsewhere hrec hplace hsame => exact .elsewhere hrec hplace (hs.trans hsame)
  | inPlace hrec hplace hsame hrecord hi hlag =>
    rw [← hs.book] at hi hlag
    exact .inPlace hrec hplace (hs.trans hsame) (hs.record.trans hrecord) hi hlag
  | recorded hrec hsame hrecord hi hbalanced =>
    rw [← hs.book] at hi hbalanced
    exact .recorded hrec (hs.trans hsame) (hs.record.trans hrecord) hi hbalanced

omit [Clock τ] in
/-- The state from before the step is left if nothing of the returned state was
taken over and the solver left alone what it was given, and only then. -/
theorem LeftLate.kept_iff {t s : State τ} (h : g.LeftLate u r t s) :
    s.SameButStatus g.executor.state ↔ (∃ e, t.recordBest = .error e) ∧ r.inPlace = false ∧
      u.executor.state.SameButStatus g.executor.state := by
  -- a state one iteration ahead is not the one of before
  have hahead (hi : s.book.iteration = g.executor.state.book.iteration + 1) :
      ¬ s.SameButStatus g.executor.state := by
    intro hsame
    have hbook := congrArg Bookkeeping.iteration hsame.book
    omega
  cases h with
  | elsewhere hrec hplace hs =>
    exact ⟨fun hsame => ⟨⟨_, hrec⟩, hplace, hs.symm.trans hsame⟩, fun h => hs.trans h.2.2⟩
  | inPlace _ hplace _ _ hi _ =>
    refine ⟨fun hsame => absurd hsame (hahead hi), fun h => ?_⟩
    cases hplace.symm.trans h.2.1
  | recorded hrec _ _ hi _ =>
    refine ⟨fun hsame => absurd hsame (hahead hi), fun ⟨⟨e, he⟩, _⟩ => ?_⟩
    cases hrec.symm.trans he

/-- What a step leaves that fails after its call, if the solver only judges when it
is asked, and the bookkeeping was balanced before. -/
theorem late_state (hx : g.executor.solver.OnlyJudges)
    (hcall : (g.enter .step).consult .step = .ok (u, r))
    (hfail : g.advance .step started = .error f) (hb : g.executor.state.book.Balanced) :
    g.LeftLate u r (g.takenOver u r started) f.engine.executor.state := by
  have hi : g.iterate .step started = .error f := by
    rw [iterate_eq, hfail]
    rfl
  have hlag : (g.takenOver u r started).book.iteration =
      (g.takenOver u r started).book.lastBestIteration +
        (g.takenOver u r started).book.noImprovementStreak + 1 := by
    show g.executor.state.book.iteration + 1 =
      (g.kept .step).lastBestIteration + (g.kept .step).noImprovementStreak + 1
    rw [kept_lastBestIteration, kept_noImprovementStreak]
    exact congrArg (· + 1) hb
  have hjudges {v : Engine τ} {record : Option Record}
      (ht : (g.enter .step).take .step started = .ok (v, record)) :
      v.executor.solver.OnlyJudges := by
    rw [taken_solver ht]
    exact hx
  -- what is taken over after the call is what the call has handed back
  have htaken {v : Engine τ} {record : Option Record} {status : Status}
      (ht : (g.enter .step).take .step started = .ok (v, record)) :
      g.LeftLate u r (g.takenOver u r started) { v.executor.state with status := status } := by
    obtain ⟨u', r', hc, _, hrec, _⟩ := take_ok ht
    cases hcall.symm.trans hc
    obtain ⟨b, hbook, hs⟩ := State.recordBest_ok hrec
    have hiteration := Bookkeeping.recorded_iteration hbook
    have hbalanced := (Bookkeeping.recorded_balanced hbook fun _ => hlag).1
    rw [hs] at hrec ⊢
    exact .recorded hrec rfl rfl hiteration hbalanced
  generalize hs : f.engine.executor.state = s
  generalize hfault : f.fault = fault
  have hbreaks := iterate_error hi
  rw [hs, hfault] at hbreaks
  cases hbreaks with
  | call hf =>
    rw [← enter_asked, ← enter_solver .step] at hf
    obtain ⟨v, hv, _⟩ := consult_of_fails hf
    cases hcall.symm.trans hv
  | cost hc hr =>
    cases hcall.symm.trans hc
    rcases Bool.eq_false_or_eq_true r.inPlace with hplace | hplace
    · rw [hplace]
      exact .inPlace hr hplace rfl rfl rfl hlag
    · rw [hplace]
      exact .elsewhere hr hplace rfl
  | check ht _ _ =>
    rw [questioned_same (hjudges ht)]
    exact htaken ht
  | closed ht _ _ _ =>
    rw [questioned_same (hjudges ht)]
    exact htaken ht
  | record ht hj _ =>
    obtain ⟨status, rfl⟩ := judge_same (hjudges ht) hj
    exact htaken ht
  | save ha _ => cases hfail.symm.trans ha

omit [Clock τ] in
theorem concluded_sameButStatus (name : String) (f : Failed τ) :
    (concluded name (.error f)).2.state.SameButStatus f.engine.executor.state := by
  show (f.engine.markFailed name f.fault).executor.state.SameButStatus _
  rw [(markFailed_state f.engine name f.fault).1]
  split
  · exact rfl
  · exact State.SameButStatus.restated _ _

/-- What a step puts down that fails before it is completed, and what follows
it, is about no iteration. -/
theorem lastCompleted_of_failed {s : State τ} (hl : LastCompleted g.world.history s)
    (hfail : g.advance kind started = .error f) (name : String) :
    LastCompleted (concluded name (.error f)).1.world.history s := by
  obtain ⟨evals, he, hputs⟩ := advance_puts kind started g
  rw [hfail] at hputs
  have hstep : f.engine.world.history =
      g.world.history ++ (.called kind g.executor.state.book.iteration :: evals ++ []) :=
    hputs.history
  rw [List.append_nil] at hstep
  have hend : f.engine.world.Follows (·.ends = true) (concluded name (.error f)).1.world :=
    (markFailed_follows f.engine name f.fault).trans (close_follows _ name (some f.fault))
  obtain ⟨later, hlater, hends⟩ := hend.toGrows.history
  rw [hlater, hstep]
  refine (hl.still fun e hm => ?_).still fun e hm => Event.trails_of_ends (hends e hm) s
  rcases List.mem_cons.mp hm with rfl | h1
  · trivial
  · exact (he e h1).trails s

/-- A run ends at a step that fails before it is completed. -/
theorem run_of_late (hp : g₀.executor.phase = .created) (hc : g₀.Course past g)
    (hr : g.executor.state.terminated = false)
    (hfail : g.advance .step g₀.world.clock = .error f) (limit : Nat) :
    g₀.run (past.length + 1 + limit) = .ok (some (concluded g₀.executor.runName (.error f))) := by
  have hstep : g.iterate .step g₀.world.clock = .error f := by
    rw [iterate_eq, hfail]
    rfl
  have hcomes := attempt_of_comesTo (.step hc hr) limit
  rw [List.length_append, List.length_singleton] at hcomes
  rw [run_created hp, hcomes, hstep]
  rfl

/-! ## The law -/

/-- A step that fails after its call, before it is completed, ends the run of a
solver that only judges when it is asked whether the run is to stop. The
last completed state is the one of before the step, and the observers were told
of no other since. The outcome has it, in every field but the status, if and
only if the returned cost could not be compared, the solver handed back another
state than it was given, and it left that one alone. Else the outcome is
terminated at the iteration that was not completed, with the record that the
returned state had. -/
theorem a_late_failure_keeps_what_was_not_taken_over
    (hx : g₀.executor.solver.OnlyJudges) (hp : g₀.executor.phase = .created)
    (hn : g₀.stored = .ok none) (hb : g₀.executor.state.book.hasBest = false)
    (hi : g₀.executor.state.book.iteration = 0) (hc : g₀.Course past g)
    (hr : g.executor.state.terminated = false)
    (hcall : (g.enter .step).consult .step = .ok (u, r))
    (hfail : g.advance .step g₀.world.clock = .error f) (limit : Nat) :
    ∃ h o, g₀.run (past.length + 1 + limit) = .ok (some (h, o)) ∧ o.error = some f.fault ∧
      LastCompleted h.world.history g.executor.state ∧
      g.executor.state.book.iteration = past.length ∧
      g.LeftLate u r (g.takenOver u r g₀.world.clock) o.state ∧
      (o.state.SameButStatus g.executor.state ↔
        (∃ e, (g.takenOver u r g₀.world.clock).recordBest = .error e) ∧
          r.inPlace = false ∧ u.executor.state.SameButStatus g.executor.state) := by
  have hj : g₀.OnlyJudges := .fresh hn hx
  have hiteration : g.executor.state.book.iteration = past.length := by
    rw [hc.iteration hj.leavesIteration (opening_iteration hj.leavesIteration hn), hi, Int.zero_add]
  have hleft := (late_state (hc.works hj) hcall hfail (hc.balanced hj hn hb).1).of_same
    (concluded_sameButStatus g₀.executor.runName f)
  exact ⟨_, _, run_of_late hp hc hr hfail limit, rfl,
    lastCompleted_of_failed (hc.lastCompleted hn) hfail _, hiteration, hleft, hleft.kept_iff⟩

def spoiled : Engine Float :=
  underLimit (Sample.sequence [.bool true, .text "bad"]) 3 none none (.start 0)

theorem spoiled_judges : spoiled.OnlyJudges := .fresh rfl fun _ => rfl

/-- The step of that engine fails after its call: a text cannot be held against
a truth value. -/
theorem spoiled_step :
    ∃ g u r f, spoiled.Course [] g ∧ g.executor.state.status = .running ∧
      (g.enter .step).consult .step = .ok (u, r) ∧ r.inPlace = true ∧
      (g.takenOver u r 0).recordBest = .error (.unordered "<" "str" "bool") ∧
      g.advance .step 0 = .error f ∧ f.fault = .slip (.unordered "<" "str" "bool") := by
  have hopening : spoiled.begun.settled.Moves .opening := ⟨true, rfl⟩
  obtain ⟨g, hg, _, hx, _, hgl⟩ := underLimit_opens rfl (fun _ => rfl) hopening rfl no_policy_saves
  obtain ⟨best, hbest⟩ := hgl.bestCost
  have hhas := (Course.balanced spoiled_judges rfl rfl hg).2
  have hmoves : (g.enter .step).MovesTo .step (.text "bad") :=
    movesTo_of_sequence hx (by rw [enter_state, hgl.iteration]; rfl)
  have hcall : (g.enter .step).executor.solver.call .step (g.enter .step).executor.state =
      .ok { g.executor.state.movedTo (.text "bad") with cost := .text "bad" } none := hmoves
  obtain ⟨u, hu, _⟩ := consult_of_call hcall
  have hrec : (g.takenOver u ⟨{ g.executor.state.movedTo (.text "bad") with cost := .text "bad" },
      true, none⟩ 0).recordBest = .error (.unordered "<" "str" "bool") := by
    have hless : Value.less (.text "bad") (g.kept .step).bestCost =
        .error (.unordered "<" "str" "bool") := by
      rw [kept_bestCost, hbest]
      rfl
    exact State.recordBest_uncomparable ((kept_hasBest .step g).trans hhas) hless
  obtain ⟨v, hv, _⟩ := advance_uncomparable hu hrec
  exact ⟨g, u, _, _, hg, hgl.status, hu, rfl, hrec, hv, rfl⟩

/-- The law for that engine. -/
theorem a_spoiled_step_is_not_kept :
    ∃ g u r h o, spoiled.Course [] g ∧ (g.enter .step).consult .step = .ok (u, r) ∧
      spoiled.run 1 = .ok (some (h, o)) ∧
      o.error = some (.slip (.unordered "<" "str" "bool")) ∧
      LastCompleted h.world.history g.executor.state ∧
      g.LeftLate u r (g.takenOver u r 0) o.state := by
  obtain ⟨g, u, r, f, hg, hrun, hcall, _, _, hfail, hfault⟩ := spoiled_step
  obtain ⟨h, o, hends, herror, hlast, _, hleft, _⟩ :=
    a_late_failure_keeps_what_was_not_taken_over (fun _ => rfl) rfl rfl rfl rfl hg
      (State.not_terminated_iff.mpr hrun) hcall hfail 0
  exact ⟨g, u, r, h, o, hg, hcall, hends, hfault ▸ herror, hlast, hleft⟩

/-- The state of the opening is not kept. The run ends at an iteration that was
never completed, ahead of the streak and of the last word to an observer. -/
theorem a_late_failure_can_leave_an_iteration_uncompleted :
    ∃ g h o, spoiled.Course [] g ∧ g.executor.state.book.iteration = 0 ∧
      spoiled.run 1 = .ok (some (h, o)) ∧
      o.error = some (.slip (.unordered "<" "str" "bool")) ∧
      LastCompleted h.world.history g.executor.state ∧
      ¬ o.state.SameButStatus g.executor.state ∧ o.iterations = 1 ∧
      o.iterations ≠ o.state.book.lastBestIteration + o.state.book.noImprovementStreak := by
  obtain ⟨g, u, r, f, hg, hrun, hcall, hplace, hrec, hfail, hfault⟩ := spoiled_step
  have hends := run_of_late rfl hg (State.not_terminated_iff.mpr hrun) hfail 0
  have hlast := lastCompleted_of_failed (hg.lastCompleted rfl) hfail spoiled.executor.runName
  have hlate := late_state (hg.works spoiled_judges) hcall hfail
    (Course.balanced spoiled_judges rfl rfl hg).1
  have hleft := hlate.of_same (concluded_sameButStatus spoiled.executor.runName f)
  have hopened : g.executor.state.book.iteration = 0 :=
    hg.iteration spoiled_judges.leavesIteration
      (opening_iteration spoiled_judges.leavesIteration rfl)
  have hkept := hleft.kept_iff
  refine ⟨g, _, _, hg, hopened, hends, congrArg some hfault, hlast, ?_⟩
  cases hleft with
  | elsewhere _ helse _ => cases hplace.symm.trans helse
  | recorded hok _ _ _ _ => cases hrec.symm.trans hok
  | inPlace _ _ _ _ hi hlag =>
    refine ⟨fun hsame => ?_, hi.trans (congrArg (· + 1) hopened), fun hpace => ?_⟩
    · obtain ⟨_, helse, _⟩ := hkept.mp hsame
      cases hplace.symm.trans helse
    · exact absurd (hlag.symm.trans hpace) (Int.ne_of_gt (Int.lt_succ _))

end Engine

end Minimize
