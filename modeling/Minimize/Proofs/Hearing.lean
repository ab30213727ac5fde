-- Who hears of what. A run passes through its iterations one after another:
-- the call of the solver, the completed state, what became of its save, and
-- then the word to every observer that wants to hear of the iteration. So each
-- observer hears of exactly those, once and in their order.
import Mathlib.Data.List.Nodup
import Minimize.Proofs.Account
import Minimize.Proofs.Breaks
import Minimize.Proofs.Replay
import Minimize.Proofs.Schedule

namespace Minimize

variable {τ : Type}

/-! ## What observers want to hear -/

/-- What an observer with a mode wants to hear of: every iteration, none, the
multiples of a number, or those that gave a new best point. A mode that was made
of a text wants what the kind of that name wants, and nothing if there is none. -/
def Mode.Wants : Mode → Int → Bool → Prop
  | .always, _, _ => True
  | .never, _, _ => False
  | .every p, i, _ => p.count ∣ i
  | .newBest, _, improved => improved = true
  | .misnamed kind _, _, improved => kind = "always" ∨ kind = "new_best" ∧ improved = true

theorem Mode.fires_iff {m : Mode} {i : Int} {improved : Bool} :
    m.fires i improved = true ↔ m.Wants i improved := by
  cases m with
  | every p =>
    unfold fires Wants Period.divides
    rw [beq_iff_eq]
    exact (Int.dvd_iff_emod_eq_zero).symm
  | _ => simp [fires, Wants]

instance (m : Mode) (i : Int) (improved : Bool) : Decidable (m.Wants i improved) :=
  decidable_of_iff _ Mode.fires_iff

/-- What an event tells an observer of an iteration: its name, the iteration,
and the record. -/
def Event.heard? : Event τ → Option (String × Int × Record)
  | .notified name i record => some (name, i, record)
  | _ => none

/-- The iterations that an observer hears of in a history. -/
def heardBy (name : String) (es : List (Event τ)) : List Int :=
  (es.filterMap Event.heard?).filterMap fun x => if x.1 = name then some x.2.1 else none

theorem heardBy_append (name : String) (es es' : List (Event τ)) :
    heardBy name (es ++ es') = heardBy name es ++ heardBy name es' := by
  simp [heardBy, List.filterMap_append]

theorem heardBy_of_silent {es : List (Event τ)} (h : ∀ e ∈ es, e.heard? = none) (name : String) :
    heardBy name es = [] := by
  unfold heardBy
  rw [List.filterMap_eq_nil_iff.mpr h]
  rfl

/-! ## Iterations as they are put down -/

/-- An iteration as it is put down: the call of the solver with its
evaluations, the completed state, what became of its save, and the words to the
observers. -/
structure Passage (τ : Type) where
  kind : CallKind
  calledAt : Int
  evals : List (Event τ)
  state : State τ
  improved : Bool
  saves : List (Event τ)
  words : List (Event τ)

namespace Passage

def iteration (p : Passage τ) : Int := p.state.book.iteration

/-- The events of an iteration, in their order. -/
def events (p : Passage τ) : List (Event τ) :=
  .called p.kind p.calledAt :: p.evals ++ [.completed p.state] ++ p.saves ++ p.words

/-- The observers that want to hear of an iteration, in the order of
registration. -/
def hearers (r : Registry τ) (p : Passage τ) : List String :=
  (r.entries.filter fun e => decide (e.2.mode.Wants p.iteration p.improved)).map (·.1)

end Passage

/-- Whether an event is of a save: an attempt, or what came of it. -/
def Event.ofSave : Event τ → Bool
  | .attempted _ _ => true
  | .saved _ _ => true
  | .saveFailed _ => true
  | _ => false

/-- Whether an event is of the words of an iteration: one of them, a file that
an observer opened, or a failure of an observer. -/
def Event.ofWord : Event τ → Bool
  | .notified _ _ _ => true
  | .opened _ => true
  | .notifyFailed _ => true
  | _ => false

/-- What an iteration puts down. Its record tells the status that it was judged to
have; and the observers that want to hear of it are told one after another, in the
order of registration, of its number and its record. -/
structure Passage.Told (r : Registry τ) (p : Passage τ) : Prop where
  record : ∃ standard own, p.state.record = Engine.fullRecord standard own p.state.status
  evals : ∀ e ∈ p.evals, e.IsEvaluation
  saves : ∀ e ∈ p.saves, e.ofSave = true
  words : ∀ e ∈ p.words, e.ofWord = true
  heard : p.words.filterMap Event.heard? =
    (p.hearers r).map fun name => (name, p.iteration, p.state.record)

/-- What an iteration after a state is like. It is the next one, and its cost is
held against the best so far. -/
structure Passage.After (r : Registry τ) (s : State τ) (p : Passage τ) : Prop extends
    p.Told r where
  calledAt : p.calledAt = s.book.iteration
  iteration : p.iteration = p.kind.target s.book.iteration
  improved : s.book.betters p.state.cost = .ok p.improved

/-- The iterations of a run, one after another. Only the first can be an
opening, and a step is made only from a state that is not terminated. -/
inductive Passages (r : Registry τ) (s₀ : State τ) : List (Passage τ) → State τ → Prop
  | none : Passages r s₀ [] s₀
  | opened {p : Passage τ} (hk : p.kind = .opening) (h : p.After r s₀) :
      Passages r s₀ [p] p.state
  | stepped {ps : List (Passage τ)} {s : State τ} {p : Passage τ} (hs : Passages r s₀ ps s)
      (hr : s.terminated = false) (hk : p.kind = .step) (h : p.After r s) :
      Passages r s₀ (ps ++ [p]) p.state

/-- An event between the calls of a run that is neither a word of an iteration
nor a completed state. -/
def Event.Aside (e : Event τ) : Prop := e.heard? = none ∧ ∀ s, e ≠ .completed s

theorem Event.aside_of_not_completes {e : Event τ} (h : e.completes = false) : e.Aside := by
  refine ⟨?_, ?_⟩
  · cases e <;> first | rfl | cases h
  · rintro s rfl
    cases h

theorem Passages.after {r : Registry τ} {s₀ s : State τ} {ps : List (Passage τ)}
    (h : Passages r s₀ ps s) : ∀ p ∈ ps, ∃ t, p.After r t := by
  induction h with
  | none => exact fun _ hp => absurd hp List.not_mem_nil
  | opened _ h =>
    intro p hp
    exact List.mem_singleton.mp hp ▸ ⟨_, h⟩
  | stepped _ _ _ h ih =>
    intro p hp
    rcases List.mem_append.mp hp with h1 | h1
    · exact ih p h1
    · exact List.mem_singleton.mp h1 ▸ ⟨_, h⟩

/-! ## What one observer hears -/

section

variable {r : Registry τ} {s : State τ} {p : Passage τ}

/-- Of an iteration, only its words are heard. -/
theorem Passage.After.heard_events (h : p.After r s) :
    p.events.filterMap Event.heard? = p.words.filterMap Event.heard? := by
  have hevals : p.evals.filterMap Event.heard? = [] := by
    apply List.filterMap_eq_nil_iff.mpr
    intro e he
    obtain ⟨c, rfl⟩ := h.evals e he
    rfl
  have hsaves : p.saves.filterMap Event.heard? = [] := by
    apply List.filterMap_eq_nil_iff.mpr
    intro e he
    have hsave := h.saves e he
    cases e <;> first | rfl | cases hsave
  unfold Passage.events
  rw [List.filterMap_append, List.filterMap_append, List.filterMap_append,
    List.filterMap_cons_none rfl, hevals, hsaves]
  rfl

theorem filterMap_name {α : Type} {names : List String} (hn : names.Nodup) (name : String) (a : α) :
    (names.filterMap fun n => if n = name then some a else none) =
      if name ∈ names then [a] else [] := by
  induction names with
  | nil => rfl
  | cons n rest ih =>
    obtain ⟨hnot, hrest⟩ := List.nodup_cons.mp hn
    by_cases hname : n = name
    · subst hname
      rw [List.filterMap_cons, ih hrest]
      simp [hnot]
    · rw [List.filterMap_cons, ih hrest]
      simp [hname, Ne.symm hname]

/-- An observer hears of an iteration once if it wants to, and not at all
otherwise. -/
theorem Passage.After.heardBy (h : p.After r s) {e : String × Registered τ} (he : e ∈ r.entries) :
    heardBy e.1 p.events =
      if e.2.mode.Wants p.iteration p.improved then [p.iteration] else [] := by
  have hnodup : (p.hearers r).Nodup := (List.filter_sublist.map _).nodup r.distinct
  have hmem : e.1 ∈ p.hearers r ↔ e.2.mode.Wants p.iteration p.improved := by
    simp only [Passage.hearers, List.mem_map, List.mem_filter, decide_eq_true_eq]
    constructor
    · rintro ⟨e', ⟨he', hwants⟩, hname⟩
      rw [← List.inj_on_of_nodup_map r.distinct he' he hname]
      exact hwants
    · intro hwants
      exact ⟨e, ⟨he, hwants⟩, rfl⟩
  unfold Minimize.heardBy
  rw [h.heard_events, h.heard, List.filterMap_map]
  have hpick := filterMap_name hnodup e.1 p.iteration
  simp only [hmem] at hpick
  exact hpick

/-- Over the iterations of a run, an observer hears of those that it wants to
hear of. -/
theorem Passages.heardBy {s₀ : State τ} {ps : List (Passage τ)} (h : Passages r s₀ ps s)
    {e : String × Registered τ} (he : e ∈ r.entries) :
    Minimize.heardBy e.1 (ps.flatMap Passage.events) =
      (ps.filter fun p => decide (e.2.mode.Wants p.iteration p.improved)).map
        Passage.iteration := by
  have hafter := h.after
  clear h
  induction ps with
  | nil => rfl
  | cons p rest ih =>
    obtain ⟨t, ht⟩ := hafter p List.mem_cons_self
    rw [List.flatMap_cons, heardBy_append, ht.heardBy he,
      ih fun q hq => hafter q (List.mem_cons_of_mem p hq)]
    by_cases hw : e.2.mode.Wants p.iteration p.improved
    · rw [if_pos hw, List.filter_cons_of_pos (by simpa using hw)]
      rfl
    · rw [if_neg hw, List.filter_cons_of_neg (by simpa using hw)]
      rfl

end

variable [Clock τ]

/-! ## The iterations of a run -/

namespace Bookkeeping

omit [Clock τ] in
/-- A point that was recorded is better or not as its cost tells. -/
theorem betters_of_recorded {b b' : Bookkeeping τ} {param cost : Value} {improved : Bool}
    (h : b.recorded param cost = .ok (b', improved)) : b.betters cost = .ok improved := by
  cases hb : b.betters cost with
  | error e =>
    unfold recorded at h
    rw [hb] at h
    cases h
  | ok better =>
    rw [recorded_of_betters hb] at h
    cases better <;> cases h <;> rfl

end Bookkeeping

namespace Engine

variable {g₀ g g' : Engine τ} {kind : CallKind} {started : τ} {es : List (Event τ)}
  {fs : List Fault}

omit [Clock τ] in
theorem SaveNoted.ofSave {final : Bool} (h : g.SaveNoted final es fs) :
    ∀ e ∈ es, e.ofSave = true := by
  cases h with
  | nowhere _ => exact fun _ he => absurd he List.not_mem_nil
  | notDue _ _ => exact fun _ he => absurd he List.not_mem_nil
  | made _ _ _ => simp [Event.ofSave]
  | missed _ _ _ => simp [Event.ofSave]

theorem Round.told (h : g.Round kind started g' es fs) :
    ∃ p : Passage τ, es = p.events ∧ p.kind = kind ∧ p.state = g'.executor.state ∧
      p.improved = g'.executor.improved ∧ p.calledAt = g.executor.state.book.iteration ∧
      p.Told g.executor.observers ∧
      ∃ u, g.advance kind started = .ok u ∧ u.executor.state = g'.executor.state ∧
        u.executor.improved = g'.executor.improved := by
  cases h with
  | @round u v evals saves words missed deaf he ha hs hn hw =>
    have hstands := save_stands u false
    rw [hs] at hstands
    have hobservers : v.executor.observers = g.executor.observers := by
      obtain ⟨_, _, hadvance⟩ := advance_puts kind started g
      rw [ha] at hadvance
      obtain ⟨_, _, _, hsave⟩ := save_puts hs
      exact hsave.observers.trans hadvance.observers
    obtain ⟨_, _, w, _, _, hcomplete⟩ := advance_ok ha
    obtain ⟨standard, _, hcompleted⟩ := complete_ok hcomplete
    have hstate : v.executor.state = u.executor.state := hstands.state
    have himproved : v.executor.improved = u.executor.improved := hstands.improved
    rw [hstate, himproved, hobservers] at hw
    refine ⟨⟨kind, g.executor.state.book.iteration, evals, u.executor.state,
      u.executor.improved, saves, words⟩, rfl, rfl, hstate.symm, himproved.symm, rfl,
      ⟨?_, he, hn.ofSave, ?_, ?_⟩, u, ha, hstate.symm, himproved.symm⟩
    · rw [hcompleted]
      exact ⟨standard, _, rfl⟩
    · exact hw.all (fun _ => rfl) (fun _ => rfl) fun _ => rfl
    · have hread := hw.read Event.heard?
        (fun name => (name, u.executor.state.book.iteration, u.executor.state.record))
        (fun _ => rfl) (fun _ => rfl) fun _ => rfl
      rw [hread, Word.iteration_concerns]
      unfold Passage.hearers
      rw [List.map_map]
      simp only [← Mode.fires_iff, Bool.decide_eq_true]
      rfl

/-- A completed iteration is put down as one after the state before. -/
theorem Round.passage (hx : g.executor.solver.OnlyJudges) (h : g.Round kind started g' es fs) :
    ∃ p : Passage τ, es = p.events ∧ p.kind = kind ∧ p.state = g'.executor.state ∧
      p.After g.executor.observers g.executor.state := by
  obtain ⟨p, hevents, rfl, hstate, himproved, hcalled, htold, u, ha, hu, hui⟩ := h.told
  obtain ⟨elapsed, hrecorded⟩ := advance_book hx ha
  have hiteration := advance_iteration hx.leavesIteration ha
  rw [hu, ← hstate] at hiteration
  refine ⟨p, hevents, rfl, hstate, htold, hcalled, hiteration, ?_⟩
  -- a change of the best point in place leaves what a cost is held against
  have hkept := Bookkeeping.betters_of_recorded hrecorded
  rw [hui, ← himproved, hu, ← hstate] at hkept
  simp only [Bookkeeping.betters, kept_hasBest, kept_bestCost] at hkept
  exact hkept

/-- The state from which the iterations of a run depart, and the number of the
first: the state that is opened, or that with which the run goes on from a
snapshot. -/
inductive Departs (g₀ : Engine τ) : State τ → Int → Prop
  | opening (hn : g₀.stored = .ok none) :
      Departs g₀ g₀.executor.state.settled g₀.executor.state.book.iteration
  | resumed {s : Snapshot τ} (hs : g₀.stored = .ok (some s)) :
      Departs g₀ ((g₀.begun.settled.noteLoaded s).resume s).executor.state
        (s.state.book.iteration + 1)

omit [Clock τ] in
theorem resumption_aside (g : Engine τ) (s : Snapshot τ) : ∀ e ∈ g.resumption s, e.Aside := by
  intro e he
  exact Event.aside_of_not_completes (resumption_idle g s e he)

variable {past : List (State τ)} {s₀ : State τ} {first : Int}

/-- What a run has put down between its beginning and an engine that it comes to
is its iterations, one after another, with their numbers in a row. -/
theorem Course.passages (hj : g₀.OnlyJudges) (hd : g₀.Departs s₀ first)
    (hc : g₀.Course past g) :
    ∃ before ps, g.world.history = g₀.world.history ++ (before ++ ps.flatMap Passage.events) ∧
      (∀ e ∈ before, e.Aside) ∧ Passages g₀.executor.observers s₀ ps g.executor.state ∧
      ps.map Passage.iteration = (List.range ps.length).map (fun n : Nat => first + n) ∧
      g.executor.state.book.iteration + 1 = first + ps.length ∧
      g.executor.observers = g₀.executor.observers := by
  have hstarted (es : List (Event τ)) (hes : ∀ e ∈ es, e.Aside) :
      ∀ e ∈ .started g₀.executor.runName :: es, e.Aside := by
    intro e he
    rcases List.mem_cons.mp he with rfl | h1
    · exact Event.aside_of_not_completes rfl
    · exact hes e h1
  induction hc with
  | @start g hs =>
    cases hd with
    | opening hn =>
      rw [start_fresh hn] at hs
      obtain ⟨es, fs, hround, hputs⟩ := iterate_puts hs
      have hown : g₀.begun.settled.executor.solver.OnlyJudges := hj.own hn
      obtain ⟨p, rfl, hkind, hstate, hafter⟩ := hround.passage hown
      have hiteration : p.iteration = g₀.executor.state.book.iteration := by
        rw [hafter.iteration, hkind]
        rfl
      refine ⟨[.started g₀.executor.runName], [p], ?_, hstarted [] (by simp), ?_, ?_, ?_,
        hputs.observers⟩
      · have hhistory := ((begun_puts g₀).trans (settled_puts g₀.begun)).trans hputs
        simpa using hhistory.history
      · rw [← hstate]
        exact .opened hkind hafter
      · simp [hiteration]
      · rw [← hstate]
        exact congrArg (· + 1) hiteration
    | @resumed s hs' =>
      rw [start_resumed hs'] at hs
      cases hs
      have hputs := (begun_puts g₀).trans (resumed_puts g₀.begun s)
      refine ⟨.started g₀.executor.runName :: g₀.begun.resumption s, [], ?_,
        hstarted _ (resumption_aside _ s), .none, rfl, ?_, hputs.observers⟩
      · simpa using hputs.history
      · rw [resume_iteration]
        exact (Int.add_zero _).symm
  | @step past v w hc hr hi ih =>
    obtain ⟨before, ps, hhistory, hbefore, hps, hnumbers, hcount, hobservers⟩ := ih
    obtain ⟨es, fs, hround, hputs⟩ := iterate_puts hi
    obtain ⟨p, rfl, hkind, hstate, hafter⟩ := hround.passage (hc.works hj)
    rw [hobservers] at hafter
    have hiteration : p.iteration = first + ps.length := by
      rw [hafter.iteration, hkind, ← hcount]
      rfl
    refine ⟨before, ps ++ [p], ?_, hbefore, ?_, ?_, ?_, hputs.observers.trans hobservers⟩
    · rw [hputs.history, hhistory]
      simp
    · rw [← hstate]
      exact hps.stepped hr hkind hafter
    · rw [List.map_append, hnumbers, List.length_append, List.length_singleton, List.range_succ,
        List.map_append]
      simp [hiteration]
    · rw [← hstate]
      have hlast : p.state.book.iteration = first + ps.length := hiteration
      rw [hlast]
      simp
      omega

/-! ## The law -/

/-- What a run puts down after the last engine that it comes to, if no failure
is met or the next call of the solver fails, is no word of an iteration. -/
theorem run_closes (hp : g₀.executor.phase = .created) {limit : Nat} {h : Engine τ}
    {o : Outcome τ} (hrun : g₀.run limit = .ok (some (h, o)))
    (hends : o.error = none ∨ ∃ past g f, g₀.ComesTo .step past g ∧
      (g.asked .step).answer.Fails g.executor.solver .step f) :
    ∃ past g after, g₀.Course past g ∧ h.world.history = g.world.history ++ after ∧
      (∀ e ∈ after, e.Aside) ∧ o.iterations = g.executor.state.book.iteration ∧
      (o.error = none → o.state = g.executor.state ∧ g.executor.state.terminated = true) := by
  rcases hends with he | ⟨_, g, f, hcomes, hfails⟩
  · obtain ⟨past, g, g', hc, ht, hsave, hclosed, hlast⟩ := run_over hp hrun he
    obtain ⟨exit, fs, hnoted, hputs⟩ := save_puts hsave
    obtain ⟨es, hes, hquiet⟩ := (close_follows g' g₀.executor.runName none).toGrows.history
    rw [← hclosed] at hes
    have hlast' : o.state = g.executor.state := hlast
    refine ⟨past, g, exit ++ es, hc, ?_, ?_, congrArg (·.book.iteration) hlast',
      fun _ => ⟨hlast', ht⟩⟩
    · rw [hes, hputs.history, List.append_assoc]
    · intro e hmem
      rcases List.mem_append.mp hmem with h1 | h1
      · have hsave := hnoted.ofSave e h1
        refine ⟨?_, ?_⟩
        · cases e <;> first | rfl | cases hsave
        · rintro s rfl
          cases hsave
      · exact Event.aside_of_not_completes (Event.completes_of_ends (hquiet e h1))
  · cases hcomes with
    | @step past _ hc hr =>
      obtain ⟨h', o', hrun', herror, hstate, hfollows⟩ :=
        run_of_fails hp (.step hc hr) hr hfails 0
      cases run_agree hp hrun hrun'
      obtain ⟨es, hes, hquiet⟩ := hfollows.toGrows.history
      refine ⟨past, g, es, hc, hes, ?_, congrArg (·.book.iteration) hstate, ?_⟩
      · intro e hmem
        exact Event.aside_of_not_completes (hquiet e hmem)
      · intro he
        cases he.symm.trans herror

/-- Every observer hears exactly of the iterations that it wants to hear of, if asking
the solver whether the run is to stop leaves the state alone. If a run meets with no
failure, or its last call of the solver fails, it has put down its iterations one after
another, from the first to the last, and but for them no word of an iteration. In each,
the call of the solver and the completed state, with the status that it was judged to
have, come before what became of its save, and the words to the observers come last, in
the order of registration. The state of the last is that of the outcome if there is no
error. -/
theorem every_observer_hears_what_it_wants (hj : g₀.OnlyJudges)
    (hp : g₀.executor.phase = .created) (hd : g₀.Departs s₀ first) {limit : Nat} {h : Engine τ}
    {o : Outcome τ}
    (hrun : g₀.run limit = .ok (some (h, o)))
    (hends : o.error = none ∨ ∃ past g f, g₀.ComesTo .step past g ∧
      (g.asked .step).answer.Fails g.executor.solver .step f) :
    ∃ before ps after last,
      h.world.history = g₀.world.history ++ (before ++ ps.flatMap Passage.events ++ after) ∧
      (∀ e ∈ before, e.Aside) ∧ (∀ e ∈ after, e.Aside) ∧
      Passages g₀.executor.observers s₀ ps last ∧
      ps.map Passage.iteration = (List.range ps.length).map (fun n : Nat => first + n) ∧
      o.iterations + 1 = first + ps.length ∧
      (o.error = none → o.state = last ∧ last.terminated = true) ∧
      ∀ e ∈ g₀.executor.observers.entries,
        heardBy e.1 (before ++ ps.flatMap Passage.events ++ after) =
          (ps.filter fun p => decide (e.2.mode.Wants p.iteration p.improved)).map
            Passage.iteration ∧
        (heardBy e.1 (before ++ ps.flatMap Passage.events ++ after)).Pairwise (· < ·) := by
  obtain ⟨past, g, after, hc, hhistory, hafter, hiterations, hlast⟩ := run_closes hp hrun hends
  obtain ⟨before, ps, hcourse, hbefore, hps, hnumbers, hcount, _⟩ := hc.passages hj hd
  refine ⟨before, ps, after, g.executor.state, ?_, hbefore, hafter, hps, hnumbers, ?_, hlast, ?_⟩
  · rw [hhistory, hcourse, List.append_assoc]
  · rw [hiterations]
    exact hcount
  · intro e he
    have hheard : heardBy e.1 (before ++ ps.flatMap Passage.events ++ after) =
        (ps.filter fun p => decide (e.2.mode.Wants p.iteration p.improved)).map
          Passage.iteration := by
      rw [heardBy_append, heardBy_append, heardBy_of_silent (fun e he => (hbefore e he).1),
        heardBy_of_silent (fun e he => (hafter e he).1), List.nil_append, List.append_nil,
        hps.heardBy he]
    refine ⟨hheard, ?_⟩
    have hrow : (ps.map Passage.iteration).Pairwise (· < ·) := by
      rw [hnumbers, List.pairwise_map]
      exact List.pairwise_lt_range.imp fun hlt => by omega
    rw [hheard]
    exact hrow.sublist (List.filter_sublist.map _)

theorem two_positive : (0 : Int) < 2 := by decide

/-- The period of every second iteration. -/
def second : Period := ⟨2, two_positive⟩

/-- An engine that replays three costs up to the third iteration, for an observer
of everything that always fails, one of every second iteration, and one of
nothing. -/
def attended : Engine Float where
  executor := { (underLimit (Sample.replay [true, false, true]) 3 none none (.start 0)).executor with
    observers := ⟨[("all", ⟨onlooker (some .notImplemented), .always⟩),
      ("even", ⟨onlooker none, .every second⟩), ("none", ⟨onlooker none, .never⟩)],
      by decide⟩ }
  world := .start 0

theorem attended_ends :
    ∃ a, attended.run 3 = .ok (some a) ∧ a.2.error = none ∧ a.2.iterations = 3 := by
  have hphase : attended.executor.phase = .created := rfl
  have hreach : ((3 : Nat) : Int) ≤ 0 + (3 : Nat) := by omega
  obtain ⟨a, hrun, herror, hiterations, _⟩ := Replays.run hphase rfl
    ⟨rfl, List.cons_ne_nil true [false, true], Int.le_refl 0⟩
    ⟨rfl, rfl, fun _ => rfl, fun h => nomatch h⟩ rfl (fun _ h => nomatch h) rfl hreach
  exact ⟨a, hrun, herror, hiterations⟩

/-- The law for a run with four iterations. -/
theorem a_replay_is_heard :
    ∃ h o es, attended.run 3 = .ok (some (h, o)) ∧ o.error = none ∧
      h.world.history = attended.world.history ++ es ∧ heardBy "all" es = [0, 1, 2, 3] ∧
      heardBy "even" es = [0, 2] ∧ heardBy "none" es = [] := by
  obtain ⟨⟨h, o⟩, hrun, herror, hiterations⟩ := attended_ends
  obtain ⟨before, ps, after, last, hhistory, _, _, _, hnumbers, hcount, _, hheard⟩ :=
    every_observer_hears_what_it_wants (.fresh rfl fun _ => rfl) rfl (.opening rfl) hrun
      (.inl herror)
  have hfour : ps.length = 4 := by
    have hthree : o.iterations = 3 := hiterations
    have hzero : attended.executor.state.book.iteration = 0 := rfl
    omega
  rw [hfour] at hnumbers
  -- what is wanted does not depend on the improvement here, so it is read off the numbers
  have hwanted (wants : Int → Bool) : (ps.filter fun p => wants p.iteration).map
      Passage.iteration = [0, 1, 2, 3].filter wants := by
    have hrow : ps.map Passage.iteration = [0, 1, 2, 3] := hnumbers
    rw [← hrow, List.filter_map]
    rfl
  refine ⟨h, o, _, hrun, herror, hhistory, ?_, ?_, ?_⟩
  · have hall := (hheard ("all", ⟨onlooker (some .notImplemented), .always⟩) (by simp [attended])).1
    exact hall.trans (hwanted fun i => decide (Mode.always.Wants i true))
  · have heven := (hheard ("even", ⟨onlooker none, .every second⟩) (by simp [attended])).1
    exact heven.trans (hwanted fun i => decide ((Mode.every second).Wants i true))
  · have hnone := (hheard ("none", ⟨onlooker none, .never⟩) (by simp [attended])).1
    exact hnone.trans (hwanted fun i => decide (Mode.never.Wants i true))

end Engine

end Minimize
