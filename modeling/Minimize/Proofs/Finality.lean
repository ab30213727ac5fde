-- A run that has ended for good stays ended. An executor that goes on from a
-- state that is terminated, and not by an abort, has nothing left to do: it
-- calls no solver, saves nothing and tells no observer of an iteration, and
-- hands out what was stored. So a run whose end was saved can be made over
-- again any number of times, and comes to the same.
import Minimize.Proofs.Schedule

namespace Minimize

variable {τ : Type}

/-! ## Counters, states and cabinets -/

theorem Capability.eq_of_ofCounter? {name : String} {c : Capability}
    (h : Capability.ofCounter? name = some c) : c.counter = name := by
  unfold Capability.ofCounter? at h
  simpa using List.find?_some h

/-- A counter that a table names is put to its number, and the others stay. -/
theorem Counts.get_overlay (n : Counts) (t : Table Int) (c : Capability) :
    (n.overlay t).get c = (t.get? c.counter).getD (n.get c) := by
  obtain ⟨es, hd⟩ := t
  unfold Counts.overlay Table.get?
  dsimp only
  induction es generalizing n with
  | nil => rfl
  | cons e es ih =>
    obtain ⟨name, i⟩ := e
    simp only [List.map_cons, List.nodup_cons] at hd
    rw [List.foldl_cons, ih _ hd.2]
    by_cases hname : name = c.counter
    · subst hname
      -- the counter stands in the table once
      have hrest : es.find? (fun e => e.1 = c.counter) = none := by
        refine List.find?_eq_none.mpr fun e he heq => hd.1 ?_
        exact of_decide_eq_true heq ▸ List.mem_map_of_mem he
      rw [hrest, List.find?_cons_of_pos (by simp), Capability.ofCounter?_counter]
      exact (n.get_set c c i).trans (if_pos rfl)
    · rw [List.find?_cons_of_neg (by simpa using hname)]
      cases hcounter : Capability.ofCounter? name with
      | none => rfl
      | some d =>
        have hne : c ≠ d := by
          rintro rfl
          exact hname (Capability.eq_of_ofCounter? hcounter).symm
        dsimp only
        rw [n.get_set d c i, if_neg hne]

namespace State

/-- Whether a run is over for good in the state: it is terminated, and not by
an abort. -/
def Finished (s : State τ) : Prop := ∃ r, s.status = ⟨some r⟩ ∧ r.kind ≠ .aborted

theorem Finished.terminated {s : State τ} (h : s.Finished) : s.terminated = true := by
  obtain ⟨r, hr, _⟩ := h
  unfold State.terminated
  rw [hr]
  rfl

end State

/-- No cabinet changes where one is put back as it is. -/
theorem World.cabinet_putBack (w : World τ) (name other : String) :
    (w.putCabinet name (w.cabinet name)).cabinet other = w.cabinet other := by
  by_cases h : other = name
  · subst h
    exact Engine.cabinet_putCabinet w other _
  · unfold World.putCabinet
    unfold World.cabinet
    dsimp only
    rw [Table.get?_insert_ne _ _ h]

/-- A store of which a save that goes well can be loaded again. Of a save that
fails nothing is asked but that the store stays in order. -/
structure Store.Truthful (s : Store τ) (key : String) (x : Solver τ) (good : Cabinet τ → Prop) :
    Prop where
  saved : ∀ (c c' : Cabinet τ) (t : State τ), good c →
    s.save (.text key) ⟨x, t⟩ c = (c', .ok ()) →
      s.holds (.text key) c' = .ok true ∧ s.load (.text key) c' = .ok ⟨x, t⟩
  good : ∀ (c : Cabinet τ) (t : State τ), good c → good (s.save (.text key) ⟨x, t⟩ c).1

theorem Store.Faithful.truthful {s : Store τ} {key : String} {x : Solver τ}
    {good : Cabinet τ → Prop} (h : s.Faithful key x good) : s.Truthful key x good where
  saved c c' t hc hs := (h.saved c c' t hc hs).2
  good c t hc := by
    cases hs : s.save (.text key) ⟨x, t⟩ c with
    | mk c' r =>
      cases r with
      | ok _ => exact (h.saved c c' t hc hs).1
      | error f => exact h.failed c c' t f hc hs ▸ hc

/-- Whether an event tells of work: a call of the solver, an evaluation, or
what comes of an iteration that was completed. -/
def Event.works : Event τ → Bool
  | .called _ _ => true
  | .evaluated _ => true
  | e => e.completes

theorem Event.works_of_ends {e : Event τ} (h : e.ends = true) : e.works = false := by
  cases e <;> first | rfl | cases h

namespace Engine

variable [Clock τ] {g g' g₀ : Engine τ} {s : Snapshot τ}

/-! ## Runs that rest -/

/-- What comes of a run that finds a snapshot and has nothing left to do: it
puts down no work and changes no cabinet, the counters that the snapshot names
have its numbers, and the outcome is no failure but the snapshot's solver with
its state. -/
structure Rests (g₀ : Engine τ) (s : Snapshot τ) (h : Engine τ) (o : Outcome τ) : Prop where
  idle : ∃ es, h.world.history = g₀.world.history ++ es ∧ ∀ e ∈ es, e.works = false
  cabinets : ∀ name, h.world.cabinet name = g₀.world.cabinet name
  counts : ∀ c, o.problem.counts.get c =
    (s.state.counts.get? c.counter).getD (g₀.executor.problem.counts.get c)
  error : o.error = none
  solver : o.solver = s.solver
  state : o.state.told [] = s.state.told []

omit [Clock τ] in
/-- A state that is over for good is not opened again. -/
theorem resume_finished (h : Engine τ) (hf : s.state.Finished) :
    (h.resume s).executor.state = (s.state.renumbered h.executor.state.sharing.next).settled := by
  obtain ⟨⟨kind, streak, text⟩, hr, hkind⟩ := hf
  unfold resume
  rw [hr]
  cases kind with
  | aborted => exact absurd rfl hkind
  | _ => rfl

omit [Clock τ] in
theorem policy_of_stored (hn : g₀.stored = .ok (some s)) : ∃ p, g₀.executor.policy = some p := by
  unfold stored at hn
  cases hp : g₀.executor.policy with
  | none =>
    rw [hp] at hn
    cases hn
  | some p => exact ⟨p, rfl⟩

omit [Clock τ] in
theorem save_uncalled {p : Policy τ} (hp : g.executor.policy = some p) {final : Bool}
    (hd : p.isDue g.executor.state.book.iteration final = false) :
    ∃ g', g.save final = .ok g' ∧ g'.executor = g.executor ∧
      g'.world.history = g.world.history ∧
      ∀ name, g'.world.cabinet name = g.world.cabinet name := by
  rw [save_eq hp]
  unfold Policy.maybeSave
  simp only [hd, Bool.false_eq_true, if_false]
  refine ⟨_, rfl, ?_, rfl, World.cabinet_putBack _ _⟩
  rw [← hp]

/-- A run that goes on from a state that is over for good is at its end at
once. The save at the end is not made: the iteration of the snapshot counts as
tried. -/
theorem run_rests (hphase : g₀.executor.phase = .created) (hn : g₀.stored = .ok (some s))
    (hf : s.state.Finished) (limit : Nat) :
    ∃ h o, g₀.run limit = .ok (some (h, o)) ∧ g₀.Rests s h o := by
  obtain ⟨v, hv, hresumes⟩ := start_resumes hn
  have hv' : (g₀.begun.settled.noteLoaded s).resume s = v :=
    Except.ok.inj ((start_resumed hn _).symm.trans hv.begins)
  have hputs := (begun_puts g₀).trans (resumed_puts g₀.begun s)
  have hstate := resume_finished (g₀.begun.settled.noteLoaded s) hf
  have hiteration := resume_iteration (g₀.begun.settled.noteLoaded s) s
  rw [hv'] at hputs hstate hiteration
  obtain ⟨p, hp⟩ := policy_of_stored hn
  have hpolicy : v.executor.policy =
      some { p with lastAttempted := some s.state.book.iteration } := by
    rw [hresumes.policy, hp]
    rfl
  have hover : v.executor.state.terminated = true := by
    rw [hstate]
    exact hf.terminated
  have hd : ({ p with lastAttempted := some s.state.book.iteration } : Policy τ).isDue
      v.executor.state.book.iteration true = false := by
    rw [hiteration]
    simp [Policy.isDue]
  obtain ⟨w, hw, hexecutor, hhistory, hcabinets⟩ := save_uncalled hpolicy hd
  have hrun := run_of_course hphase hv limit
  rw [onward_terminated _ _ hover, hw, List.length_nil, Nat.zero_add] at hrun
  have hclose := close_follows w g₀.executor.runName none
  obtain ⟨closing, hclosing, hends⟩ := hclose.toGrows.history
  have hidle : ∀ e ∈ [.started g₀.executor.runName] ++ g₀.begun.resumption s ++ closing,
      e.works = false := by
    intro e he
    rcases List.mem_append.mp he with h1 | h1
    · rcases List.mem_append.mp h1 with h2 | h2
      · rw [List.mem_singleton.mp h2]
        rfl
      · exact resumption_all (P := (·.works = false)) (fun _ _ => rfl) (fun _ => rfl)
          (fun _ => rfl) _ s e h2
    · exact Event.works_of_ends (hends e h1)
  refine ⟨_, _, hrun, ⟨_, ?_, hidle⟩, fun name => ?_, fun c => ?_, rfl, ?_, ?_⟩
  · rw [← List.append_assoc, ← hputs.history, ← hhistory]
    exact hclosing
  · rw [← World.cabinet_of_cabinets hresumes.world.cabinets, ← hcabinets]
    exact World.cabinet_of_cabinets hclose.cabinets name
  · show w.executor.problem.counts.get c = _
    rw [hexecutor, hresumes.problem]
    exact Counts.get_overlay _ _ c
  · show w.executor.solver = _
    rw [hexecutor, hresumes.solver]
  · show w.executor.state.told [] = _
    rw [hexecutor, hstate]
    exact State.told_renumbered s.state _

/-! ## Runs whose end was saved -/

variable {p : Policy τ} {good : Cabinet τ → Prop} {x : Solver τ} {l : Option Int} {i : Int}
  {kind : CallKind} {started : τ} {final : Bool} {es es' : List (Event τ)} {fs : List Fault}

omit [Clock τ] in
/-- What a save comes to with a store that tells the truth: it was not called
for; or it was, its verdict is in the journal, and if it went well the state is
stored. -/
theorem Guarded.judged (hw : p.store.Truthful p.key x good) (hg : g.Guarded p good x l)
    (hs : g.save final = .ok g') (hn : g.SaveNoted final es fs) :
    (({ p with lastAttempted := l } : Policy τ).isDue g.executor.state.book.iteration final =
        false ∧ verdictsIn es = [] ∧ g'.Guarded p good x l ∧
      g'.world.cabinet p.cabinet = g.world.cabinet p.cabinet) ∨
    ({ p with lastAttempted := l } : Policy τ).isDue g.executor.state.book.iteration final = true ∧
      g'.Guarded p good x (some g.executor.state.book.iteration) ∧ ∃ v, verdictsIn es = [v] ∧
      ∀ i, v = .ok i → p.Holds x g.executor.state (g'.world.cabinet p.cabinet) := by
  have hkeeps := save_keeps g final
  rw [hs] at hkeeps
  have hsolver : g'.executor.solver = x := hkeeps.solver.trans hg.solver
  rcases hn.leaves hg.policy hs with ⟨hd, rfl, hexecutor, hc⟩ | ⟨r, hd, hsave, hpolicy, rfl⟩
  · have hsame : g'.world.cabinet p.cabinet = g.world.cabinet p.cabinet := hc
    exact .inl ⟨hd, rfl, ⟨hsolver, hexecutor ▸ hg.policy, hsame ▸ hg.good⟩, hsame⟩
  · rw [hg.solver] at hsave
    have hgood := hw.good _ g.executor.state hg.good
    rw [hsave] at hgood
    refine .inr ⟨hd, ⟨hsolver, hpolicy, hgood⟩, ?_⟩
    cases r with
    | ok _ => exact ⟨_, rfl, fun _ _ => (hw.saved _ _ _ hg.good hsave).elim .mk⟩
    | error f => exact ⟨_, rfl, fun _ h => nomatch h⟩

/-- An engine that saves by a policy, with what was put down since its run
began. What was tried last was due, or nothing was tried yet; and if that was the
iteration of the engine, and the last verdict is that it went well, its state is
stored. -/
structure Attested (p : Policy τ) (good : Cabinet τ → Prop) (x : Solver τ) (l : Option Int)
    (es : List (Event τ)) (g : Engine τ) : Prop extends Guarded p good x l g where
  tried : ∀ i, l = some i → p.frequency.due i = true ∨ verdictsIn es = []
  stored : l = some g.executor.state.book.iteration → ∀ i, (verdictsIn es).getLast? = some (.ok i) →
    p.Holds x g.executor.state (g.world.cabinet p.cabinet)

/-- An iteration attests to the state that it has come to, if it was saved. -/
theorem Guarded.attested (hw : p.store.Truthful p.key x good) (hg : g.Guarded p good x l)
    (hl : ∀ i, l = some i → p.frequency.due i = true ∨ verdictsIn es = [])
    (hr : g.Round kind started g' es' fs) : ∃ l', g'.Attested p good x l' (es ++ es') := by
  cases hr with
  | @round u v evals saves words missed deaf he ha hs hn hwords =>
    have hstays := advance_stays kind started g
    rw [ha] at hstays
    have hu : u.Guarded p good x l :=
      ⟨hstays.solver.trans hg.solver, hstays.policy.trans hg.policy,
        World.cabinet_of_cabinets hstays.cabinets p.cabinet ▸ hg.good⟩
    have hstands := save_stands u false
    rw [hs] at hstands
    have hstate : v.executor.state = u.executor.state := hstands.state
    have hdispatch := dispatch_stays v
    have hcabinet := World.cabinet_of_cabinets hdispatch.cabinets p.cabinet
    have hcall : ∀ e ∈ Event.called kind g.executor.state.book.iteration :: evals,
        e.completes = false := by
      intro e hm
      rcases List.mem_cons.mp hm with rfl | h1
      · rfl
      · obtain ⟨c, rfl⟩ := he e h1
        rfl
    have hspeak : ∀ e ∈ words, e.speaksOf v.executor.state.book.iteration :=
      hwords.all (fun _ => rfl) (fun _ => trivial) fun _ => trivial
    have hverdicts : verdictsIn (es ++ (Event.called kind g.executor.state.book.iteration :: evals ++
        [.completed u.executor.state] ++ saves ++ words)) = verdictsIn es ++ verdictsIn saves := by
      have hcompleted : verdictsIn [Event.completed u.executor.state] = [] := rfl
      simp only [verdictsIn_append, verdictsIn_of_idle hcall, hcompleted,
        verdictsIn_of_words hspeak, List.append_nil, List.nil_append]
    rcases hu.judged hw hs hn with ⟨hd, hnone, hv, _⟩ | ⟨hd, hv, w, hverdict, hholds⟩
    · rw [hnone, List.append_nil] at hverdicts
      refine ⟨l, hv.stays hdispatch, fun i h => hverdicts ▸ hl i h, fun h i hlast => ?_⟩
      -- what is not due and was tried last was tried before the run began
      have hsame : l = some v.executor.state.book.iteration := h
      rw [hstate] at hsame
      rw [hverdicts] at hlast
      rcases hl _ hsame with hdue | hempty
      · cases hdue.symm.trans hd
      · rw [hempty] at hlast
        cases hlast
    · refine ⟨_, hv.stays hdispatch, fun i h => .inl (Option.some.inj h ▸ hd),
        fun _ i hlast => ?_⟩
      rw [hverdicts, hverdict, List.getLast?_concat] at hlast
      show p.Holds x v.executor.state _
      rw [hcabinet, hstate]
      exact hholds i (Option.some.inj hlast)

theorem Course.attested {past : List (State τ)} (hc : g₀.Course past g) (hs : g₀.Saves p good)
    (hw : p.store.Truthful p.key x good) (hx : g.executor.solver = x) :
    ∃ l es, g.world.history = g₀.world.history ++ es ∧ g.Attested p good x l es := by
  induction hc with
  | @step past v w hc hr hi ih =>
    have hkeeps := iterate_keeps .step g₀.world.clock v
    rw [hi] at hkeeps
    have hv : v.executor.solver = w.executor.solver := hkeeps.solver.symm
    obtain ⟨l, es, hhistory, hg⟩ := ih (hv.trans hx)
    obtain ⟨es', fs, hround, hputs⟩ := iterate_puts hi
    obtain ⟨l', hg'⟩ := hg.toGuarded.attested hw hg.tried hround
    refine ⟨l', es ++ es', ?_, hg'⟩
    rw [hputs.history, hhistory, List.append_assoc]
  | @start g hstart =>
    rcases start_ok hstart with ⟨_, hi⟩ | ⟨s, hn, hv'⟩
    · have hkeeps := iterate_keeps .opening g₀.world.clock g₀.begun.settled
      rw [hi] at hkeeps
      have hsolver : g₀.executor.solver = g.executor.solver := hkeeps.solver.symm
      have hg : g₀.begun.settled.Guarded p good x none := by
        refine ⟨hsolver.trans hx, ?_, hs.good⟩
        rw [← hs.untried]
        exact hs.policy
      obtain ⟨es', fs, hround, hputs⟩ := iterate_puts hi
      have huntried : ∀ i, none = some i → p.frequency.due i = true ∨
          verdictsIn ([.started g₀.executor.runName] : List (Event τ)) = [] := fun _ h => nomatch h
      obtain ⟨l', hg'⟩ := hg.attested hw huntried hround
      exact ⟨l', _, (((begun_puts g₀).trans (settled_puts _)).trans hputs).history, hg'⟩
    · obtain ⟨v, hv, hresumes⟩ := start_resumes hn
      obtain rfl := Except.ok.inj (hv.begins.symm.trans hstart)
      have hcabinet := World.cabinet_of_cabinets hresumes.world.cabinets p.cabinet
      have hputs := (begun_puts g₀).trans (resumed_puts g₀.begun s)
      have hnone : verdictsIn ([.started g₀.executor.runName] ++ g₀.begun.resumption s) = [] :=
        verdictsIn_append.trans (verdictsIn_of_idle (resumption_idle _ s))
      rw [hv'] at hputs
      refine ⟨some s.state.book.iteration, _, hputs.history, ⟨hx, ?_, hcabinet ▸ hs.good⟩,
        fun _ _ => .inr hnone, fun _ i hlast => ?_⟩
      · rw [hresumes.policy, hs.policy]
        rfl
      · rw [hnone] at hlast
        cases hlast

/-- A run whose end was saved has its last state in the store. -/
theorem run_leaves_its_end (hphase : g₀.executor.phase = .created) (hs : g₀.Saves p good)
    {limit : Nat} {h : Engine τ} {o : Outcome τ} (hw : p.store.Truthful p.key o.solver good)
    (hr : g₀.run limit = .ok (some (h, o))) (he : o.error = none)
    (hes : h.world.history = g₀.world.history ++ es)
    (hv : (verdictsIn es).getLast? = some (.ok i)) :
    o.state.terminated = true ∧ p.Holds o.solver o.state (h.world.cabinet p.cabinet) := by
  obtain ⟨past, g, g', hc, ht, hsave, hclosed, hlast⟩ := run_over hphase hr he
  have hkeeps := save_keeps g true
  rw [hsave] at hkeeps
  have hsolver : g'.executor.solver = g.executor.solver := hkeeps.solver
  have houtcome : o = (g'.close g₀.executor.runName none).2 := congrArg Prod.snd hclosed
  have hx : g.executor.solver = o.solver := by
    rw [houtcome]
    exact hsolver.symm
  obtain ⟨l, before, hbefore, hg⟩ := hc.attested hs hw hx
  obtain ⟨exit, fs, hn, hputs⟩ := save_puts hsave
  have hclose := close_follows g' g₀.executor.runName none
  rw [← hclosed] at hclose
  obtain ⟨closing, hclosing, hends⟩ := hclose.toGrows.history
  have hcabinet := World.cabinet_of_cabinets hclose.cabinets p.cabinet
  have hquiet : verdictsIn closing = [] :=
    verdictsIn_of_idle fun e hm => Event.completes_of_ends (hends e hm)
  have hsplit : es = before ++ exit ++ closing := by
    refine List.append_cancel_left (hes.symm.trans ?_)
    have hall : h.world.history = _ := hclosing
    rw [hall, hputs.history, hbefore]
    simp only [List.append_assoc]
  rw [hsplit, verdictsIn_append, hquiet, List.append_nil, verdictsIn_append] at hv
  have hcab : h.world.cabinet p.cabinet = g'.world.cabinet p.cabinet := hcabinet
  have hstate : o.state = g.executor.state := hlast
  rw [hcab, hstate]
  refine ⟨ht, ?_⟩
  rcases hg.toGuarded.judged hw hsave hn with ⟨hd, hnone, _, hsame⟩ | ⟨_, _, v, hverdict, hholds⟩
  · rw [hnone, List.append_nil] at hv
    have hl : l = some g.executor.state.book.iteration := by
      simpa [Policy.isDue] using hd
    rw [hsame]
    exact hg.stored hl i hv
  · rw [hverdict, List.getLast?_concat] at hv
    exact hholds i (Option.some.inj hv)

/-! ## The law -/

/-- An executor that has not run yet, and goes on from what stands under the key
of a policy. How often it saves, and whether a save may fail, is its own. -/
structure Reopens (p : Policy τ) (g : Engine τ) : Prop where
  created : g.executor.phase = .created
  policy : ∃ q, g.executor.policy = some q ∧ q.cabinet = p.cabinet ∧ q.store = p.store ∧
    q.key = p.key ∧ q.resume = true

/-- The executors with which a run is made over again, any number of times: each
reopens what stands under the key, and finds the cabinet as the run before it
has left it. All else about them and about their worlds may differ. -/
inductive Again (p : Policy τ) (w : World τ) : Engine τ → Prop
  | once {g : Engine τ} (hg : g.Reopens p) (hc : g.world.cabinet p.cabinet = w.cabinet p.cabinet) :
      Again p w g
  | more {g g' h : Engine τ} {o : Outcome τ} {limit : Nat} (ha : Again p w g)
      (hr : g.run limit = .ok (some (h, o))) (hg : g'.Reopens p)
      (hc : g'.world.cabinet p.cabinet = h.world.cabinet p.cabinet) : Again p w g'

omit [Clock τ] in
theorem Reopens.stored (hg : g.Reopens p) {t : State τ}
    (hholds : p.Holds x t (g.world.cabinet p.cabinet)) : g.stored = .ok (some ⟨x, t⟩) := by
  obtain ⟨q, hq, hcabinet, hstore, hkey, hresume⟩ := hg.policy
  unfold Engine.stored
  rw [hq]
  dsimp only
  unfold Policy.load
  rw [hcabinet, hstore, hkey, hresume, hholds.holds, hholds.load]
  rfl

/-- However often a run is made over again, it finds what the first run has
left. -/
theorem Again.finds {w : World τ} {t : State τ} (ha : Again p w g) (hf : t.Finished)
    (hholds : p.Holds x t (w.cabinet p.cabinet)) :
    g.executor.phase = .created ∧ g.stored = .ok (some ⟨x, t⟩) ∧
      g.world.cabinet p.cabinet = w.cabinet p.cabinet := by
  induction ha with
  | once hg hc => exact ⟨hg.created, hg.stored (hc ▸ hholds), hc⟩
  | @more g g' h o limit _ hr hg hc ih =>
    obtain ⟨hphase, hn, hsame⟩ := ih
    obtain ⟨h', o', hrun, hrests⟩ := run_rests hphase hn hf limit
    cases hr.symm.trans hrun
    have hcabinet := hc.trans ((hrests.cabinets p.cabinet).trans hsame)
    exact ⟨hg.created, hg.stored (hcabinet ▸ hholds), hcabinet⟩

/-- A finished run is final. An executor that goes on from a snapshot whose
state is over for good comes to an end, without any work, with what the snapshot
has. So a run that ended without a failure and not by an abort, and whose last
save went well, can be made over again any number of times, and each time has
its state. -/
theorem a_finished_run_is_final :
    (∀ (g : Engine τ) (s : Snapshot τ), g.executor.phase = .created →
      g.stored = .ok (some s) → s.state.Finished → ∀ limit,
        ∃ h o, g.run limit = .ok (some (h, o)) ∧ g.Rests s h o) ∧
    ∀ (p : Policy τ) (good : Cabinet τ → Prop) (g₀ h₀ : Engine τ) (o₀ : Outcome τ) (limit₀ : Nat)
      (es : List (Event τ)) (i : Int), g₀.executor.phase = .created → g₀.Saves p good →
      p.store.Truthful p.key o₀.solver good → g₀.run limit₀ = .ok (some (h₀, o₀)) →
      o₀.error = none → (∀ r, o₀.reason? = some r → r.kind ≠ .aborted) →
      h₀.world.history = g₀.world.history ++ es → (verdictsIn es).getLast? = some (.ok i) →
      ∀ g, Again p h₀.world g → ∀ limit,
        ∃ h o, g.run limit = .ok (some (h, o)) ∧ g.Rests ⟨o₀.solver, o₀.state⟩ h o := by
  refine ⟨fun g s hphase hn hf limit => run_rests hphase hn hf limit, ?_⟩
  intro p good g₀ h₀ o₀ limit₀ es i hphase hs hw hr he hreason hes hv g ha limit
  obtain ⟨hover, hholds⟩ := run_leaves_its_end hphase hs hw hr he hes hv
  have hf : o₀.state.Finished := by
    obtain ⟨r, hstatus⟩ := Option.isSome_iff_exists.mp hover
    have hsome : o₀.reason? = some r := hstatus
    refine ⟨r, ?_, hreason r hsome⟩
    rw [← hstatus]
  obtain ⟨hcreated, hn, _⟩ := ha.finds hf hholds
  exact run_rests hcreated hn hf limit

def converged : State Float := { State.fresh .point with status := ⟨some .solverConverged⟩ }

def findsConverged : Engine Float :=
  underLimit (Sample.replay [false]) 3 (some (inMemory true)) none
    ((World.start 0).putCabinet "memory"
      (Checkpoint.Memory.put "run" (.pair ⟨Sample.replay [true], converged⟩) .empty))

/-- The law for a state that was put into the store, and for a replay that is
run again, with another replay in hand, and then once more. -/
theorem a_replay_is_not_run_again :
    (∃ h o, findsConverged.run 0 = .ok (some (h, o)) ∧
      findsConverged.Rests ⟨Sample.replay [true], converged⟩ h o) ∧
    ∃ h₀ o₀ h o h' o',
      (underLimit (Sample.replay [true, false]) 2 (some (inMemory false)) none (.start 0)).run 2 =
        .ok (some (h₀, o₀)) ∧
      (underLimit (Sample.replay [false]) 9 (some (inMemory true)) none h₀.world).run 0 =
        .ok (some (h, o)) ∧
      (underLimit (Sample.replay [false]) 7 (some (inMemory true)) none h.world).run 0 =
        .ok (some (h', o')) ∧
      o.state.told [] = o₀.state.told [] ∧ o'.state.told [] = o₀.state.told [] := by
  refine ⟨a_finished_run_is_final.1 findsConverged _ rfl rfl ⟨_, rfl, by decide⟩ 0, ?_⟩
  obtain ⟨⟨h₀, o₀⟩, hrun, herror, _, hreason⟩ := saving_replay_ends (List.cons_ne_nil true [false]) 2
    (rfl : (underLimit _ _ (some (inMemory false)) none (.start 0)).stored = _) rfl
  have hworks : (inMemory false).store.Works (inMemory false).key (Sample.replay [true, false])
      fun _ => True := memory_works rfl rfl
  have hsaves : (underLimit (Sample.replay [true, false]) 2 (some (inMemory false)) none
      (.start 0)).Saves (inMemory false) fun _ => True := ⟨rfl, rfl, trivial⟩
  obtain ⟨g, g', l, rounds, exit, closing, hhistory, _, _, hexit, hquiet, _, hsolver, _⟩ :=
    run_exits (fun _ => rfl) rfl hsaves hworks.faithful (.opening rfl rfl) hrun herror
  have hwell := Policy.verdicts_of_works hworks hexit.verdicts
  have hlast : (verdictsIn (rounds ++ (exit ++ closing))).getLast? =
      some (.ok g.executor.state.book.iteration) := by
    rw [← List.append_assoc, verdictsIn_append,
      verdictsIn_of_idle fun e hm => Event.completes_of_ends (hquiet e hm), List.append_nil]
    rcases hexit.leaves with ⟨hv, _⟩ | ⟨f, hv, _⟩
    · exact hv
    · rw [hwell] at hv
      have hmem := List.mem_of_getLast? hv
      simp at hmem
  have hfinal := a_finished_run_is_final.2 (inMemory false) (fun _ => True) _ h₀ o₀ 2
    (rounds ++ (exit ++ closing)) g.executor.state.book.iteration rfl hsaves
    (hsolver ▸ hworks.faithful.truthful) hrun herror
    (fun r hr => by
      cases hreason.symm.trans hr
      decide)
    (by rw [hhistory, List.append_assoc]) hlast
  have hreopens (m : Nat) (w : World Float) :
      (underLimit (Sample.replay [false]) m (some (inMemory true)) none w).Reopens
        (inMemory false) := ⟨rfl, _, rfl, rfl, rfl, rfl, rfl⟩
  have honce : Again (inMemory false) h₀.world
      (underLimit (Sample.replay [false]) 9 (some (inMemory true)) none h₀.world) :=
    .once (hreopens 9 _) rfl
  obtain ⟨h, o, hagain, hrests⟩ := hfinal _ honce 0
  obtain ⟨h', o', honcemore, hrests'⟩ := hfinal _ (.more honce hagain (hreopens 7 _) rfl) 0
  exact ⟨h₀, o₀, h, o, h', o', hrun, hagain, honcemore, hrests.state, hrests'.state⟩

end Engine

end Minimize
