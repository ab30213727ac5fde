-- The end of a run. Whatever fails on the way, a run that ends hands back an
-- outcome. Its state is terminated; every observer that wants to hear of the
-- end was told of it once, after all else; and its error is the failure that
-- broke the run off, if one did.
import Minimize.Proofs.Breaks
import Minimize.Proofs.Written

namespace Minimize

variable {τ : Type}

/-! ## The word of the end -/

/-- The observers that want to hear of the end, in the order of
registration. -/
def Registry.listeners (r : Registry τ) : List String :=
  (r.entries.filter fun e => e.2.observer.finish.isSome).map (·.1)

theorem Registry.listeners_nodup (r : Registry τ) : r.listeners.Nodup :=
  (List.filter_sublist.map _).nodup r.distinct

/-- Whether an event belongs to the word of the end. -/
def Event.farewell : Event τ → Bool
  | .finishing _ => true
  | .finishFailed _ => true
  | .opened _ => true
  | _ => false

theorem Word.GoesRound.listeners {o : Outcome τ} {r : Registry τ} {outlets : Outlets}
    {es : List (Event τ)} {fs : List Fault}
    (h : (Word.finish o).GoesRound r.entries outlets es fs) :
    (∀ e ∈ es, e.farewell = true) ∧ es.filterMap Event.finishing? = r.listeners := by
  refine ⟨h.all (fun _ => rfl) (fun _ => rfl) fun _ => rfl, ?_⟩
  have hread := h.read Event.finishing? id (fun _ => rfl) (fun _ => rfl) fun _ => rfl
  rw [hread, Word.finish_concerns]
  rfl

/-- Whether the numbers can be written that the log has of a completed state, and the
record of the reason to stop there: the iteration, the streak, and what the reason
counts. -/
def State.isTold (s : State τ) : Bool :=
  Text.isWritable s.book.iteration && Text.isWritable s.book.noImprovementStreak &&
    s.status.reason.all Reason.isWritable

/-- Whether the reason and the best cost of an outcome can be written. -/
def Outcome.isTold (o : Outcome τ) : Bool :=
  o.reason?.all Reason.isWritable && o.bestCost.isWritable

/-- An outcome whose iterations can be written is noted and handed back if its reason
and its best cost can be written too, and else it is neither. -/
theorem Outcome.told_cases {o : Outcome τ} (h : Text.isWritable o.iterations = true)
    (name : String) :
    (o.isTold = true → o.handedBack = .ok o ∧
      o.lastWord name = [.ended name o.iterations o.reasonText o.bestCost]) ∧
    (o.isTold = false → o.handedBack = .error (.slip .tooManyDigits) ∧ o.lastWord name = []) := by
  have hsame : o.isWritable = o.isTold := by
    unfold isWritable isTold
    rw [h, Bool.true_and]
  rw [← hsame]
  exact o.lastWord_cases name

namespace Engine

variable [Clock τ] {g₀ g g' : Engine τ} {kind : CallKind} {past : List (State τ)}

/-- The account of a whole run closes with the word of the end. -/
theorem FullAccount.farewell {o : Outcome τ} {es : List (Event τ)} {fs : List Fault}
    (h : g₀.FullAccount o es fs) :
    ∃ body words, es = body ++ words ++ o.lastWord g₀.executor.runName ∧
      (∀ e ∈ body, e.finishing? = none) ∧ (∀ e ∈ words, e.farewell = true) ∧
      words.filterMap Event.finishing? = g₀.executor.observers.listeners := by
  cases h with
  | @account r es words fs deaf hc _ hw =>
    have hbody := hc.underway.append (failure_underway g₀.executor.runName r)
    exact ⟨_, words, rfl, hbody.quiet, hw.listeners⟩

/-! ## Numbers that are written -/

/-- The numbers that a run writes as it goes can be written: the iteration at which it
goes on from a snapshot, what the log and the record say of every state that it
completes, and the iteration at which it is broken off. -/
structure Numbered (g₀ : Engine τ) : Prop where
  found : ∀ s, g₀.stored = .ok (some s) → Text.isWritable s.state.book.iteration = true
  completed : ∀ kind past g u, g₀.ComesTo kind past g → g.advance kind g₀.world.clock = .ok u →
    u.executor.state.isTold = true
  brokenOff : ∀ f s, g₀.BrokenOff f s → Text.isWritable s.book.iteration = true

theorem Numbered.iterate (h : g₀.Numbered) (hc : g₀.ComesTo kind past g)
    (hi : g.iterate kind g₀.world.clock = .ok g') :
    Text.isWritable g'.executor.state.book.iteration = true := by
  obtain ⟨u, ha, hs, _⟩ := iterate_ok hi
  rw [hs.state]
  have htold := h.completed kind past g u hc ha
  unfold State.isTold at htold
  rw [Bool.and_eq_true, Bool.and_eq_true] at htold
  exact htold.1.1

theorem Numbered.course (h : g₀.Numbered) (hc : g₀.Course past g) :
    Text.isWritable g.executor.state.book.iteration = true := by
  cases hc with
  | start hs =>
    rcases start_ok hs with ⟨hn, hi⟩ | ⟨s, hfound, rfl⟩
    · exact h.iterate (.opening hn) hi
    · rw [resume_iteration]
      exact h.found s hfound
  | step hc hr hi => exact h.iterate (.step hc hr) hi

/-- Where such a run ends, the iteration can be written as well. -/
theorem Numbered.ends (h : g₀.Numbered) {r : Attempt τ} (he : g₀.Ends r) (name : String) :
    Text.isWritable (concluded name r).2.iterations = true := by
  have hbook := (concluded_left name r).2.1
  unfold Outcome.iterations
  rw [hbook]
  cases r with
  | error u => exact h.brokenOff u.fault _ he.brokenOff
  | ok g' =>
    have hleft : ∃ past g, g₀.Course past g ∧ g'.executor.state = g.executor.state := by
      generalize hr : (.ok g' : Attempt τ) = r at he
      cases he with
      | unread _ => cases hr
      | failed _ _ => cases hr
      | @finished past g hc _ =>
        have hstands := save_stands g true
        rw [← hr] at hstands
        exact ⟨past, g, hc, hstands.state⟩
    obtain ⟨past, g, hc, hstate⟩ := hleft
    show Text.isWritable g'.executor.state.book.iteration = true
    rw [hstate]
    exact h.course hc

theorem Numbered.outcome (h : g₀.Numbered) (hp : g₀.executor.phase = .created) {limit : Nat}
    {o : Outcome τ} (hr : g₀.run limit = .ok (some (g, o))) :
    Text.isWritable o.iterations = true := by
  rw [run_created hp] at hr
  obtain ⟨r, ha, hr⟩ := Option.map_eq_some_iff.mp (Except.ok.inj hr)
  have hends := h.ends (attempt_ends ha) g₀.executor.runName
  rw [hr] at hends
  exact hends

/-! ## The outcome -/

omit [Clock τ] in
theorem failed_terminated (name : String) (u : Failed τ) :
    (concluded name (.error u)).2.state.terminated = true := by
  have hstate : (concluded name (.error u)).2.state =
      (u.engine.markFailed name u.fault).executor.state := rfl
  rw [hstate, (markFailed_state u.engine name u.fault).1]
  cases ht : u.engine.executor.state.terminated with
  | true => exact ht
  | false => rfl

theorem Ends.terminated {r : Attempt τ} (h : g₀.Ends r) (name : String) :
    (concluded name r).2.state.terminated = true := by
  cases h with
  | unread _ => exact failed_terminated name _
  | failed _ _ => exact failed_terminated name _
  | @finished past g hc ht =>
    have hstands := save_stands g true
    cases hs : g.save true with
    | error u => exact failed_terminated name u
    | ok g' =>
      rw [hs] at hstands
      have hstate : (concluded name (.ok g')).2.state = g.executor.state := hstands.state
      rw [hstate]
      exact ht

omit [Clock τ] in
theorem concluded_phase (name : String) (r : Attempt τ) :
    (concluded name r).1.executor.phase = .terminated := by
  cases r <;> rfl

/-- The error of an outcome is what broke the run off. -/
theorem error_iff_brokenOff {limit : Nat} {r : Attempt τ}
    (h : g₀.begun.attempt limit = some r) (name : String) (f : Fault) :
    (concluded name r).2.error = some f ↔ ∃ s, g₀.BrokenOff f s := by
  rw [concluded_error]
  constructor
  · intro he
    cases r with
    | ok g => cases he
    | error u =>
      cases he
      exact ⟨_, (attempt_ends h).brokenOff⟩
  · rintro ⟨s, hb⟩
    obtain ⟨n, u, hu, _⟩ := hb.attempt
    rw [attempt_agree h hu]
    rfl

/-- A run that ends has an outcome, whatever fails. The executor and the state are
terminated; each observer that wants to hear of the end was told of it once, in the
order of registration, after everything else that the run did; and the error is the
failure that broke the run off: that of a checkpoint to go on from, of a call, of a
cost, of a check or a record, or of a save that must not fail. No other failure is
one; those are warned of. Last of all the run notes its end, and its caller gets the
outcome, unless its reason or its best cost cannot be written: then the caller gets
nothing but the failure to write it. The run is one that can write all the numbers
before that. -/
theorem a_run_that_ends_has_an_outcome (hp : g₀.executor.phase = .created)
    (hlog : g₀.Numbered) {limit : Nat} (hr : g₀.run limit ≠ .ok none) :
    ∃ h o body words, g₀.run limit = .ok (some (h, o)) ∧
      h.executor.phase = .terminated ∧ (∃ r, o.reason? = some r) ∧
      h.world.history = g₀.world.history ++ body ++ words ++
        o.lastWord g₀.executor.runName ∧
      (o.isTold = true → o.handedBack = .ok o ∧ o.lastWord g₀.executor.runName =
        [.ended g₀.executor.runName o.iterations o.reasonText o.bestCost]) ∧
      (o.isTold = false → o.handedBack = .error (.slip .tooManyDigits) ∧
        o.lastWord g₀.executor.runName = []) ∧
      (∀ e ∈ body, e.finishing? = none) ∧ (∀ e ∈ words, e.farewell = true) ∧
      words.filterMap Event.finishing? = g₀.executor.observers.listeners ∧
      g₀.executor.observers.listeners.Nodup ∧
      (∀ f, o.error = some f ↔ ∃ s, g₀.BrokenOff f s) ∧
      o.warnings = g₀.executor.warnings ++ (body ++ words).filterMap Event.trouble? := by
  have hrun := run_created hp limit
  cases ha : g₀.begun.attempt limit with
  | none =>
    rw [ha] at hrun
    exact absurd hrun hr
  | some r =>
    rw [ha] at hrun
    obtain ⟨es, fs, haccount, htells, hhistory, hwarnings⟩ := run_account hp hrun
    obtain ⟨body, words, rfl, hbody, hwords, hlisteners⟩ := haccount.farewell
    have hlast := Outcome.told_cases (hlog.outcome hp hrun) g₀.executor.runName
    refine ⟨_, _, body, words, hrun, concluded_phase _ r, ?_, ?_, hlast.1, hlast.2, hbody, hwords,
      hlisteners, Registry.listeners_nodup _, error_iff_brokenOff ha _, ?_⟩
    · exact Option.isSome_iff_exists.mp ((attempt_ends ha).terminated _)
    · rw [hhistory]
      simp only [List.append_assoc]
    · have hsilent := (concluded g₀.executor.runName r).2.lastWord_tells g₀.executor.runName
      rw [hwarnings, ← htells, List.filterMap_append]
      exact congrArg (_ ++ ·) ((congrArg (_ ++ ·) hsilent).trans (List.append_nil _))

/-- A run that makes no step has no other numbers than those of its opening. -/
theorem numbered_of_brief (hn : g₀.stored = .ok none)
    (hover : ∀ past g, g₀.Course past g →
      g.executor.state.terminated = true ∧ ∃ g', g.save true = .ok g')
    (hdone : ∀ u, g₀.begun.settled.advance .opening g₀.world.clock = .ok u →
      u.executor.state.isTold = true)
    (hbroken : ∀ u, g₀.begun.settled.iterate .opening g₀.world.clock = .error u →
      Text.isWritable u.engine.executor.state.book.iteration = true) : g₀.Numbered := by
  refine ⟨fun s hs => ?_, fun kind past g u hc hu => ?_, fun f s hb => ?_⟩
  · cases hn.symm.trans hs
  · cases hc with
    | opening _ => exact hdone u hu
    | step hc hr => cases hr.symm.trans (hover _ _ hc).1
  · cases hb with
    | unread hs => cases hn.symm.trans hs
    | iteration hc hb =>
      cases hc with
      | opening _ =>
        obtain ⟨u, hu, rfl⟩ := hb.iterate
        exact hbroken _ hu
      | step hc hr => cases hr.symm.trans (hover _ _ hc).1
    | unsaved hc _ hb =>
      obtain ⟨u, hu, _⟩ := hb.save
      obtain ⟨_, g', hg'⟩ := hover _ _ hc
      cases hg'.symm.trans hu

/-- An engine with no cost to open with, watched by an observer that fails. -/
def unplayable : Engine Float :=
  (underLimit (Sample.sequence []) 3 none none (.start 0)).watchedBy
    (onlooker (some .notImplemented))

theorem unplayable_breaks :
    unplayable.begun.settled.BreaksOff .opening 0 (.slip .badIndex)
      unplayable.begun.settled.executor.state :=
  .call (.failed _)

theorem unplayable_numbered : unplayable.Numbered := by
  have ha : unplayable.begun.settled.advance .opening 0 = .error _ := rfl
  obtain ⟨u, hi, hstate⟩ := unplayable_breaks.iterate
  have hnone (past : List (State Float)) (g : Engine Float) : ¬ unplayable.Course past g := by
    intro hc
    induction hc with
    | start hs => cases ((start_fresh rfl _).trans hi).symm.trans hs
    | step _ _ _ ih => exact ih
  refine numbered_of_brief rfl (fun past g hc => absurd hc (hnone past g)) (fun v hv => ?_)
    fun v hv => ?_
  · cases ha.symm.trans hv
  · cases hi.symm.trans hv
    have hzero : u.executor.state.book.iteration = 0 :=
      congrArg (fun s => s.book.iteration) hstate
    rw [hzero]
    exact Text.isWritable_of_digit (by decide)

/-- The law for a run that fails at once, and whose observer fails when it
hears of that. -/
theorem a_failed_opening_has_an_outcome :
    ∃ h o, ∃ words : List (Event Float), unplayable.run 0 = .ok (some (h, o)) ∧
      h.executor.phase = .terminated ∧ (∃ r, o.reason? = some r) ∧
      words.filterMap Event.finishing? = ["log"] ∧ o.error = some (.slip .badIndex) := by
  have hcomes : unplayable.ComesTo .opening [] _ := .opening rfl
  obtain ⟨u, hu, _⟩ := unplayable_breaks.run rfl hcomes 0
  have hends : unplayable.run 0 ≠ .ok none := by
    intro hnone
    cases hnone.symm.trans hu
  obtain ⟨h, o, body, words, hrun, hphase, hreason, _, _, _, _, _, hwords, _, herror, _⟩ :=
    a_run_that_ends_has_an_outcome rfl unplayable_numbered hends
  exact ⟨h, o, words, hrun, hphase, hreason, hwords,
    (herror _).mpr ⟨_, .iteration hcomes unplayable_breaks⟩⟩

/-! ## An outcome that cannot be written -/

end Engine

theorem vast_toFloat : (Value.int vast).toFloat = .error .tooLarge := by
  have h : Number.isFinite (Number.ofInt vast) = false := by
    unfold vast
    decide +kernel
  unfold Value.toFloat floatOfInt
  dsimp only
  rw [h]
  rfl

namespace Engine

/-- An executor whose only cost is that number. -/
def vastly : Engine Float := underLimit (Sample.sequence [.int vast]) 0 none none (.start 0)

/-- The run fails at its record, and is over; its end cannot be told. -/
theorem vastly_ends :
    ∃ h o, vastly.run 0 = .ok (some (h, o)) ∧ h.executor.phase = .terminated ∧
      o.error = some (.slip .tooLarge) ∧ o.isWritable = false := by
  have hjudged : ∃ u v, (vastly.begun.settled.enter .opening).take .opening 0 = .ok (u, none) ∧
      u.judge = .ok v ∧ v.executor.state.cost = .int vast ∧
      v.executor.state.book.bestCost = .int vast := ⟨_, _, rfl, rfl, rfl, rfl⟩
  obtain ⟨u, v, ht, hj, hcost, hbest⟩ := hjudged
  have hsummary : v.executor.state.summary = .error (.slip .tooLarge) := by
    unfold State.summary
    rw [hcost, vast_toFloat]
    rfl
  have hcomes : vastly.ComesTo .opening [] _ := .opening rfl
  obtain ⟨w, hrun, _, hw⟩ := (BreaksOff.record ht hj hsummary).run rfl hcomes 0
  have hkept := (concluded_left vastly.executor.runName (.error ⟨.slip .tooLarge, w⟩)).2.1
  have herror := concluded_error vastly.executor.runName (.error ⟨.slip .tooLarge, w⟩)
  have hphase := concluded_phase vastly.executor.runName (.error ⟨.slip .tooLarge, w⟩)
  generalize concluded vastly.executor.runName (.error ⟨.slip .tooLarge, w⟩) = c at *
  have hunwritable : c.2.isWritable = false := by
    have hbestCost : c.2.bestCost = .int vast :=
      (congrArg Bookkeeping.bestCost hkept).trans
        ((congrArg (fun s => s.book.bestCost) hw).trans hbest)
    unfold Outcome.isWritable
    rw [hbestCost, Value.isWritable, vast_unwritable, Bool.and_false]
  exact ⟨c.1, c.2, hrun, hphase, herror, hunwritable⟩

/-- A run can come to an outcome, with the failure that broke it off, that its
caller does not get. -/
theorem an_outcome_can_be_kept_from_its_caller :
    ∃ h o, vastly.run 0 = .ok (some (h, o)) ∧ h.executor.phase = .terminated ∧
      o.error = some (.slip .tooLarge) ∧ o.handedBack = .error (.slip .tooManyDigits) := by
  obtain ⟨h, o, hrun, hphase, herror, hunwritable⟩ := vastly_ends
  exact ⟨h, o, hrun, hphase, herror, ((o.lastWord_cases "").2 hunwritable).1⟩

end Engine

end Minimize
