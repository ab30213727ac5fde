-- Where a run stops because its time is up. Of all checks only that of the
-- time gives this reason, after that of the abort and before all others. So a
-- run that brings the reason in by nothing else stops for it where a state that
-- is still running is judged, with no abort, when its time is up, and nowhere
-- else. A run that goes on from a state over for good is judged nowhere.
import Minimize.Proofs.Accord
import Minimize.Proofs.Finality

namespace Minimize

variable {τ : Type}

/-! ## Time as a reason -/

/-- Whether the reason to stop is that the time is up. -/
def Status.TimeIsUp (s : Status) : Prop := ∃ r, s.reason = some r ∧ r.kind = .timeBudgetExceeded

theorem State.not_timeIsUp_of_open {s : State τ} (h : s.terminated = false) :
    ¬ s.status.TimeIsUp := by
  rw [State.not_terminated_iff.mp h]
  rintro ⟨r, hr, _⟩
  cases hr

namespace Criteria

variable [Span τ] {c : Criteria} {early : State τ → Except Fault (Option Reason)}
  {aborted : Bool} {s : State τ}

/-- Where there is no abort and the time is up, no other check is asked. -/
theorem checkTermination_late (h : c.timeIsUp s.book.elapsed = .ok true) :
    checkTermination c (some early) false s = .ok (some .timeBudgetExceeded) := by
  unfold checkTermination firing
  rw [h]
  rfl

/-- The check gives this reason only where there is no abort and the time is
up. -/
theorem late_of_checkTermination {r : Reason}
    (he : ∀ r, early s = .ok (some r) → r.kind ≠ .timeBudgetExceeded)
    (h : checkTermination c (some early) aborted s = .ok (some r))
    (hr : r.kind = .timeBudgetExceeded) :
    aborted = false ∧ c.timeIsUp s.book.elapsed = .ok true := by
  have hquiet : aborted = false := by
    cases aborted with
    | false => rfl
    | true =>
      cases h
      cases hr
  refine ⟨hquiet, ?_⟩
  rw [checkTermination_eq] at h
  obtain ⟨_, _, _, _, _, hword⟩ := Check.first_eq_some h
  cases grounds_of_word hword with
  | time hlate => exact hlate
  | solver hsolver => exact absurd hr (he r hsolver)
  | _ => cases hr

end Criteria

namespace Engine

variable [Clock τ] {g₀ g u v : Engine τ} {kind : CallKind} {past : List (State τ)} {n : Nat}

/-! ## States that are judged too late -/

theorem Judges.works {P : Solver τ → Prop} (hw : g₀.WorksBy P) (hv : g₀.Judges n v) :
    P v.executor.solver := by
  obtain ⟨kind, past, g, record, hc, _, htake⟩ := hv
  rw [taken_solver htake]
  exact hc.works hw

/-- A state that a run judges while it is running, with no abort, when its time
is up. -/
structure Overdue (g₀ : Engine τ) (n : Nat) (v : Engine τ) : Prop where
  judged : g₀.Judges n v
  running : v.executor.state.terminated = false
  quiet : v.aborted = false
  late : v.executor.settings.criteria.timeIsUp v.executor.state.book.elapsed = .ok true

/-- That a run gets this reason from nothing else: not from the state that it is
given, if it finds nothing to go on from, nor from a state that the solver leaves
or returns, nor from the solver when it is asked whether to stop. -/
structure LeavesTime (g₀ : Engine τ) : Prop where
  own : (∀ s, g₀.stored ≠ .ok (some s)) → ¬ g₀.executor.state.status.TimeIsUp
  left : ∀ kind past g u r, g₀.ComesTo kind past g → (g.enter kind).consult kind = .ok (u, r) →
    ¬ u.executor.state.status.TimeIsUp ∧ ¬ r.state.status.TimeIsUp
  early : ∀ n v r, g₀.Judges n v →
    v.executor.solver.terminateEarly v.executor.state = .ok (some r) →
    r.kind ≠ .timeBudgetExceeded

/-- A state that was judged out of time was overdue. -/
theorem LeavesTime.judge (hx : g₀.OnlyJudges) (hl : g₀.LeavesTime) (hv : g₀.Judges n v)
    (hj : v.judge = .ok u) (htime : u.executor.state.status.TimeIsUp) :
    g₀.Overdue n v ∧ u.executor.state.book = v.executor.state.book := by
  have hgiven : ¬ v.executor.state.status.TimeIsUp := by
    obtain ⟨kind, past, g, record, hc, _, htake⟩ := hv
    obtain ⟨x, r, hconsult, _, hrecorded, _⟩ := take_ok htake
    obtain ⟨b, _, hs⟩ := State.recordBest_ok hrecorded
    have hr := (hl.left kind past g x r hc hconsult).2
    rw [hs]
    cases kind <;> exact hr
  rcases judge_ok (hv.works hx) hj with ⟨_, rfl⟩ | ⟨hopen, o, hcheck, rfl⟩
  · exact absurd htime hgiven
  · cases o with
    | none => exact absurd htime hgiven
    | some r =>
      obtain ⟨r', hr', hkind⟩ := htime
      cases hr'
      obtain ⟨hquiet, hlate⟩ :=
        Criteria.late_of_checkTermination (fun r => hl.early n v r hv) hcheck hkind
      exact ⟨⟨hv, hopen, hquiet, hlate⟩, rfl⟩

theorem LeavesTime.advance (hx : g₀.OnlyJudges) (hl : g₀.LeavesTime) (hc : g₀.ComesTo kind past g)
    (ha : g.advance kind g₀.world.clock = .ok u) (htime : u.executor.state.status.TimeIsUp) :
    ∃ v, g₀.Overdue past.length v ∧ u.executor.state.book = v.executor.state.book := by
  obtain ⟨v, record, w, htake, hjudge, hcomplete⟩ := advance_ok ha
  obtain ⟨standard, _, hexecutor⟩ := complete_ok hcomplete
  rw [hexecutor] at htime ⊢
  obtain ⟨hoverdue, hbook⟩ :=
    hl.judge hx ⟨kind, past, g, record, hc, rfl, htake⟩ hjudge htime
  exact ⟨v, hoverdue, hbook⟩

theorem LeavesTime.breaksOff (hx : g₀.OnlyJudges) (hl : g₀.LeavesTime)
    (hc : g₀.ComesTo kind past g) {f : Fault} {s : State τ}
    (hb : g.BreaksOff kind g₀.world.clock f s) (htime : s.status.TimeIsUp) :
    ∃ v, g₀.Overdue past.length v ∧ s.book = v.executor.state.book := by
  cases hb with
  | call hf =>
    cases hc with
    | opening hn =>
      refine absurd htime (hl.own fun s hs => ?_)
      cases hs.symm.trans hn
    | step _ hr => exact absurd htime (State.not_timeIsUp_of_open hr)
  | @cost u r e hconsult hr =>
    obtain ⟨hleft, hreturned⟩ := hl.left kind past g u r hc hconsult
    refine absurd htime ?_
    split
    · cases kind <;> exact hreturned
    · exact hleft
  | @check u record f ht hr _ =>
    have hjudged : g₀.Judges past.length u := ⟨kind, past, g, record, hc, rfl, ht⟩
    rw [questioned_same (hjudged.works hx)] at htime
    exact absurd htime (State.not_timeIsUp_of_open hr)
  | @closed u record r f ht hr _ _ =>
    have hjudged : g₀.Judges past.length u := ⟨kind, past, g, record, hc, rfl, ht⟩
    rw [questioned_same (hjudged.works hx)] at htime
    exact absurd htime (State.not_timeIsUp_of_open hr)
  | @record u v record f ht hj hs =>
    obtain ⟨hoverdue, hbook⟩ := hl.judge hx ⟨kind, past, g, record, hc, rfl, ht⟩ hj htime
    exact ⟨u, hoverdue, hbook⟩
  | save ha _ => exact hl.advance hx hc ha htime

/-- An engine on the course of a run that stands out of time was overdue when it
was judged, if the run does not go on from a state that is over for good. -/
theorem LeavesTime.course (hx : g₀.OnlyJudges) (hl : g₀.LeavesTime)
    (hs : ∀ s, g₀.stored = .ok (some s) → ¬ s.state.Finished) (hc : g₀.Course past g)
    (htime : g.executor.state.status.TimeIsUp) :
    ∃ n v, g₀.Overdue n v ∧ g.executor.state.book = v.executor.state.book := by
  have hiterated : ∀ {kind : CallKind} {past : List (State τ)} {u : Engine τ},
      g₀.ComesTo kind past u → u.iterate kind g₀.world.clock = .ok g →
      ∃ n v, g₀.Overdue n v ∧ g.executor.state.book = v.executor.state.book := by
    intro kind past u hcomes hi
    obtain ⟨w, hadvance, hstands, _⟩ := iterate_ok hi
    rw [hstands.state] at htime ⊢
    obtain ⟨v, hoverdue, hbook⟩ := hl.advance hx hcomes hadvance htime
    exact ⟨_, v, hoverdue, hbook⟩
  cases hc with
  | step hc hr hi => exact hiterated (.step hc hr) hi
  | start hstart =>
    rcases start_ok hstart with ⟨hn, hi⟩ | ⟨s, hn, rfl⟩
    · exact hiterated (.opening hn) hi
    · obtain ⟨r, hr, hkind⟩ := htime
      rcases resume_status (g₀.begun.settled.noteLoaded s) s with hsame | hopened
      · rw [hsame] at hr
        refine absurd ⟨r, congrArg Status.mk hr, ?_⟩ (hs s hn)
        rw [hkind]
        exact ReasonKind.noConfusion
      · rw [hopened] at hr
        cases hr

/-! ## Where a run stops for time -/

omit [Clock τ] in
/-- The end of a run leaves it out of time exactly if it was. -/
theorem concluded_timeIsUp (name : String) (x : Attempt τ) :
    (concluded name x).2.state.status.TimeIsUp ↔ x.left.executor.state.status.TimeIsUp := by
  cases x with
  | ok g => exact Iff.rfl
  | error f =>
    have hstate : (concluded name (.error f)).2.state =
        (f.engine.markFailed name f.fault).executor.state := rfl
    rw [hstate, (markFailed_state f.engine name f.fault).1]
    cases ht : f.engine.executor.state.terminated with
    | true => exact Iff.rfl
    | false =>
      refine iff_of_false ?_ (State.not_timeIsUp_of_open ht)
      rintro ⟨r, hr, hkind⟩
      cases hr
      cases hkind

/-- A run that ends out of time was overdue where it was judged last. -/
theorem LeavesTime.ends (hj : g₀.OnlyJudges) (hl : g₀.LeavesTime)
    (hs : ∀ s, g₀.stored = .ok (some s) → ¬ s.state.Finished) {x : Attempt τ} (hx : g₀.Ends x)
    (htime : x.left.executor.state.status.TimeIsUp) :
    ∃ n v, g₀.Overdue n v ∧ x.left.executor.state.book = v.executor.state.book := by
  cases hx with
  | unread hn =>
    refine absurd htime (hl.own fun s hs => ?_)
    cases hs.symm.trans hn
  | failed hc hi =>
    obtain ⟨v, hoverdue, hbook⟩ := hl.breaksOff hj hc (iterate_error hi) htime
    exact ⟨_, v, hoverdue, hbook⟩
  | @finished past g hc _ =>
    have hstands := save_stands g true
    rw [hstands.state] at htime ⊢
    exact hl.course hj hs hc htime

/-- An attempt is over where a state is overdue. -/
theorem Overdue.attempt (hj : g₀.OnlyJudges) (h : g₀.Overdue n v) :
    ∃ x, g₀.begun.attempt n = some x ∧
      x.left.executor.state.status = ⟨some .timeBudgetExceeded⟩ ∧
      x.left.executor.state.book = v.executor.state.book := by
  obtain ⟨kind, past, g, record, hc, rfl, htake⟩ := h.judged
  have hcheck : checkTermination v.executor.settings.criteria
      (some v.executor.solver.terminateEarly) v.aborted v.executor.state =
        .ok (some .timeBudgetExceeded) := by
    rw [h.quiet]
    exact Criteria.checkTermination_late h.late
  have hjudge := judge_of_check (h.judged.works hj) h.running hcheck
  cases hcomplete : (v.withState { v.executor.state with
      status := ⟨some .timeBudgetExceeded⟩ }).complete record with
  | ok u =>
    have hadvance : g.advance kind g₀.world.clock = .ok u := by
      unfold advance
      rw [htake]
      dsimp only [bind, Except.bind]
      rw [hjudge]
      exact hcomplete
    obtain ⟨standard, _, hexecutor⟩ := complete_ok hcomplete
    have hstate : u.executor.state.status = ⟨some .timeBudgetExceeded⟩ := by
      rw [hexecutor]
      rfl
    obtain ⟨x, hx, hsame⟩ :=
      attempt_of_terminated hc hadvance (State.terminated_of_reason hstate)
    refine ⟨x, hx, hsame ▸ hstate, ?_⟩
    rw [hsame, hexecutor]
    rfl
  | error f =>
    obtain ⟨_, hengine⟩ := complete_error hcomplete
    have hiterate : g.iterate kind g₀.world.clock = .error f := by
      rw [iterate_eq]
      unfold advance
      rw [htake]
      dsimp only [bind, Except.bind]
      rw [hjudge]
      dsimp only
      rw [hcomplete]
    have hattempt := attempt_of_comesTo hc 0
    rw [Nat.add_zero, hiterate] at hattempt
    refine ⟨.error f, hattempt, ?_, ?_⟩
    · show f.engine.executor.state.status = _
      rw [hengine]
      rfl
    · show f.engine.executor.state.book = _
      rw [hengine]
      rfl

theorem Overdue.run (hj : g₀.OnlyJudges) (hp : g₀.executor.phase = .created)
    (h : g₀.Overdue n v) :
    ∃ h o, g₀.run n = .ok (some (h, o)) ∧ o.state.status = ⟨some .timeBudgetExceeded⟩ ∧
      o.state.book = v.executor.state.book := by
  obtain ⟨x, hx, hstatus, hbook⟩ := h.attempt hj
  refine ⟨(concluded g₀.executor.runName x).1, (concluded g₀.executor.runName x).2, ?_, ?_, ?_⟩
  · rw [run_created hp, hx]
    rfl
  · rw [concluded_terminated _ (State.terminated_of_reason hstatus)]
    exact hstatus
  · exact (concluded_left g₀.executor.runName x).2.1.trans hbook

/-- A run that does not go on from a state over for good ends out of time if and
only if one of its states was overdue, and then it ends with that. -/
theorem LeavesTime.outOfTime_iff (hj : g₀.OnlyJudges) (hl : g₀.LeavesTime)
    (hp : g₀.executor.phase = .created) (hs : ∀ s, g₀.stored = .ok (some s) → ¬ s.state.Finished)
    {limit : Nat} {h : Engine τ}
    {o : Outcome τ} (hr : g₀.run limit = .ok (some (h, o))) :
    o.state.status.TimeIsUp ↔
      ∃ n v, g₀.Overdue n v ∧ o.state.book = v.executor.state.book := by
  constructor
  · intro htime
    rw [run_created hp] at hr
    obtain ⟨x, hx, hconcluded⟩ := Option.map_eq_some_iff.mp (Except.ok.inj hr)
    have hbook := (concluded_left g₀.executor.runName x).2.1
    have hiff := concluded_timeIsUp g₀.executor.runName x
    rw [hconcluded] at hbook hiff
    obtain ⟨n, v, hoverdue, hlast⟩ := hl.ends hj hs (attempt_ends hx) (hiff.mp htime)
    exact ⟨n, v, hoverdue, hbook.trans hlast⟩
  · rintro ⟨n, v, hoverdue, _⟩
    obtain ⟨h', o', hr', hstatus, _⟩ := hoverdue.run hj hp
    have hsame := run_agree hp hr hr'
    cases hsame
    exact ⟨_, congrArg Status.reason hstatus, rfl⟩

/-! ## Runs that go on from the end of another -/

/-- A run that goes on from a state over for good stands at its end all along. -/
theorem Course.over {s : Snapshot τ} (hc : g₀.Course past g)
    (hs : g₀.stored = .ok (some s)) (hf : s.state.Finished) :
    g.executor.state.terminated = true := by
  induction hc with
  | start hstart =>
    rcases start_ok hstart with ⟨hn, _⟩ | ⟨_, hn, rfl⟩
    · cases hn.symm.trans hs
    · cases hn.symm.trans hs
      rw [resume_finished _ hf]
      exact hf.terminated
  | step _ hr _ ih => cases hr.symm.trans ih

theorem ComesTo.unfinished {s : Snapshot τ} (hc : g₀.ComesTo kind past g)
    (hs : g₀.stored = .ok (some s)) : ¬ s.state.Finished := by
  intro hf
  cases hc with
  | opening hn => cases hn.symm.trans hs
  | step hc hr => cases hr.symm.trans (hc.over hs hf)

omit [Clock τ] in
/-- Such a run ends as that state, for the same reason and with the same books. -/
theorem Rests.end_as {s : Snapshot τ} {o : Outcome τ} (h : g₀.Rests s u o) :
    o.state.status = s.state.status ∧ o.state.book = s.state.book := by
  have hstatus := congrArg State.status h.state
  have hbook := congrArg State.book h.state
  exact ⟨hstatus, hbook⟩

end Engine

end Minimize
