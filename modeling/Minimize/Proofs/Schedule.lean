-- When a run saves, and what it leaves in its store. A run that no failure ended
-- has tried its last iteration, so the store has its last state or the run tells
-- why not. A run that a failure ended tries nothing more: of what it completed
-- the store has the last iteration that was due.
import Minimize.Proofs.Books

namespace Minimize

variable {τ : Type}

/-! ## Verdicts -/

namespace Policy

variable {p : Policy τ} {good : Cabinet τ → Prop} {x : Solver τ} {as : List (String × Int)}
  {vs : List (Except Fault Int)}

theorem verdict_isCheckpoint (h : List.Forall₂ (p.Verdict good x) as vs) {f : Fault}
    (hf : .error f ∈ vs) : f.isCheckpoint = true := by
  induction h with
  | nil => cases hf
  | cons hv _ ih =>
    rcases List.mem_cons.mp hf with rfl | h1
    · rcases hv with hok | ⟨_, _, _, e, _, _, heq⟩
      · cases hok
      · cases heq
        exact p.saveFault_isCheckpoint _ e
    · exact ih h1

theorem verdicts_of_works (hw : p.store.Works p.key x good)
    (h : List.Forall₂ (p.Verdict good x) as vs) : vs = as.map fun a => .ok a.2 := by
  induction h with
  | nil => rfl
  | cons hv _ ih =>
    rcases hv with rfl | ⟨c, t, c', f, hgood, hsave, _⟩
    · rw [ih, List.map_cons]
    · obtain ⟨_, hok, _⟩ := hw.saves c t hgood
      cases hsave.symm.trans hok

/-- What the last attempt of a run has left: the last state is stored; or the
run warns of the failure, and the store has what was saved last. -/
inductive Leaves (p : Policy τ) (x : Solver τ) (c₀ : Cabinet τ) (es : List (Event τ))
    (o : Outcome τ) (c : Cabinet τ) : Prop
  | stored (hv : (verdictsIn es).getLast? = some (.ok o.iterations)) (hc : p.Holds x o.state c)
  | missed {f : Fault} (hv : (verdictsIn es).getLast? = some (.error f))
      (hf : f.isCheckpoint = true) (hw : f ∈ o.warnings) (hc : p.Kept x c₀ es c)

/-- What is put down at the end leaves no less. -/
theorem Kept.idle {c₀ c : Cabinet τ} {es es' : List (Event τ)} (h : p.Kept x c₀ es c)
    (hes : ∀ e ∈ es', e.completes = false) : p.Kept x c₀ (es ++ es') c := by
  apply h.append
  rw [verdictsIn_of_idle hes]
  exact fun _ => List.not_mem_nil

end Policy

namespace Engine

variable [Clock τ] {p : Policy τ} {good : Cabinet τ → Prop} {x : Solver τ} {c₀ : Cabinet τ}
  {g g' g₀ : Engine τ} {l : Option Int} {s : Int} {es es' : List (Event τ)} {fs : List Fault}

/-! ## The end of a run -/

/-- What the save at the end of a run comes to. The last iteration was tried
before, or it is tried now. -/
structure Exit (p : Policy τ) (good : Cabinet τ → Prop) (x : Solver τ) (c₀ : Cabinet τ)
    (es es' : List (Event τ)) (g g' : Engine τ) : Prop where
  attempts : attemptsIn es' = if p.frequency.due g.executor.state.book.iteration then []
    else [(p.key, g.executor.state.book.iteration)]
  unheard : ∀ name i record, .notified name i record ∉ es'
  verdicts : List.Forall₂ (p.Verdict good x) (attemptsIn (es ++ es')) (verdictsIn (es ++ es'))
  leaves : ((verdictsIn (es ++ es')).getLast? = some (.ok g.executor.state.book.iteration) ∧
      p.Holds x g.executor.state (g'.world.cabinet p.cabinet)) ∨
    ∃ f, (verdictsIn (es ++ es')).getLast? = some (.error f) ∧
      p.Kept x c₀ (es ++ es') (g'.world.cabinet p.cabinet)

omit [Clock τ] in
theorem Books.exit (hw : p.store.Faithful p.key x good)
    (hb : g.Books p good x s c₀ l (g.executor.state.book.iteration + 1) es)
    (hl : g.Latest p x l es) (hs : g.save true = .ok g') (hn : g.SaveNoted true es' fs) :
    Exit p good x c₀ es es' g g' := by
  obtain ⟨l', ht⟩ := hn.tried hw hb.guarded hs
  have hagain (i : Int) : ({ p with lastAttempted := l } : Policy τ).isDue i true = (l != some i) :=
    rfl
  -- only an iteration that was not tried is tried at the end
  have hnew (v : Except Fault Int) (hv : p.Verdict good x (p.key, g.executor.state.book.iteration) v)
      (ha : attemptsIn es' = [(p.key, g.executor.state.book.iteration)])
      (hes : verdictsIn es' = [v]) :
      List.Forall₂ (p.Verdict good x) (attemptsIn (es ++ es')) (verdictsIn (es ++ es')) ∧
        (verdictsIn (es ++ es')).getLast? = some v := by
    rw [attemptsIn_append, verdictsIn_append, ha, hes]
    exact ⟨List.rel_append hb.verdicts (.cons hv .nil), List.getLast?_concat⟩
  have hold (hd : p.frequency.due g.executor.state.book.iteration = true) (hes : es' = [])
      (hlast : ((verdictsIn es).getLast? = some (.ok g.executor.state.book.iteration) ∧
          p.Holds x g.executor.state (g'.world.cabinet p.cabinet)) ∨
        ∃ f, (verdictsIn es).getLast? = some (.error f) ∧
          p.Kept x c₀ es (g'.world.cabinet p.cabinet)) :
      Exit p good x c₀ es es' g g' := by
    subst hes
    refine ⟨by rw [if_pos hd]; rfl, by simp, ?_, ?_⟩
    · rw [List.append_nil]
      exact hb.verdicts
    · rw [List.append_nil]
      exact hlast
  cases hl with
  | idle hd hl =>
    cases ht with
    | skipped hsame _ _ =>
      rw [hagain] at hsame
      simp [hl] at hsame
    | made _ _ hc =>
      obtain ⟨hverdicts, hlast⟩ := hnew (.ok _) (.inl rfl) rfl rfl
      exact ⟨by rw [hd]; rfl, by simp, hverdicts, .inl ⟨hlast, hc⟩⟩
    | missed _ _ hc hf =>
      obtain ⟨hverdicts, hlast⟩ := hnew _ hf rfl rfl
      refine ⟨by rw [hd]; rfl, by simp, hverdicts, .inr ⟨_, hlast, ?_⟩⟩
      rw [hc]
      exact hb.kept.append (by simp [verdictsIn, Event.verdict?])
  | saved hd hl hv hc =>
    cases ht with
    | skipped _ _ hsame => exact hold hd rfl (.inl ⟨hv, hsame ▸ hc⟩)
    | made hnot _ _ =>
      rw [hagain] at hnot
      simp [hl] at hnot
    | missed hnot _ _ _ =>
      rw [hagain] at hnot
      simp [hl] at hnot
  | missed hd hl hv =>
    cases ht with
    | skipped _ _ hsame => exact hold hd rfl (.inr ⟨_, hv, hsame ▸ hb.kept⟩)
    | made hnot _ _ =>
      rw [hagain] at hnot
      simp [hl] at hnot
    | missed hnot _ _ _ =>
      rw [hagain] at hnot
      simp [hl] at hnot

/-- A run that no failure ended has come to a state at an iteration of its own,
has saved it, and has put down nothing but its end since. -/
theorem run_exits (hj : x.OnlyJudges) (hphase : g₀.executor.phase = .created) (hs : g₀.Saves p good)
    (hw : p.store.Faithful p.key x good) (hx : g₀.StartsAt x s) {limit : Nat} {h : Engine τ}
    {o : Outcome τ} (hr : g₀.run limit = .ok (some (h, o))) (he : o.error = none) :
    ∃ g g' l rounds exit closing,
      h.world.history = g₀.world.history ++ rounds ++ (exit ++ closing) ∧
      g.Books p good x s (g₀.world.cabinet p.cabinet) l (g.executor.state.book.iteration + 1)
        rounds ∧
      s ≤ g.executor.state.book.iteration ∧
      Exit p good x (g₀.world.cabinet p.cabinet) rounds exit g g' ∧
      (∀ e ∈ closing, e.ends = true) ∧ o.state = g.executor.state ∧ o.solver = x ∧
      h.world.cabinet p.cabinet = g'.world.cabinet p.cabinet := by
  obtain ⟨past, g, g', hc, ht, hsave, hclosed, hlast⟩ := run_over hphase hr he
  obtain ⟨l, rounds, hrounds, hb, hlatest⟩ := hc.books hj hs hw hx
  rcases hlatest with ⟨hbegun, hlatest⟩ | ⟨_, hopen⟩
  · obtain ⟨exit, fs, hn, hputs⟩ := save_puts hsave
    have hkeeps := save_keeps g true
    rw [hsave] at hkeeps
    have hsolver : g'.executor.solver = x := hkeeps.solver.trans hb.guarded.solver
    have hends := close_follows g' g₀.executor.runName none
    rw [← hclosed] at hends
    obtain ⟨closing, hclosing, hquiet⟩ := hends.toGrows.history
    refine ⟨g, g', l, rounds, exit, closing, ?_, hb, hbegun, hb.exit hw hlatest hsave hn, hquiet,
      hlast, ?_, World.cabinet_of_cabinets hends.cabinets p.cabinet⟩
    · have hall : h.world.history = _ := hclosing
      rw [hall, hputs.history, hrounds]
      simp only [List.append_assoc]
    · have houtcome : o = (g'.close g₀.executor.runName none).2 := congrArg Prod.snd hclosed
      rw [houtcome]
      exact hsolver
  · cases hopen.symm.trans ht

/-- The saves of a run that no failure ended, which counts its iterations from `s` and
whose solver only judges when it is asked whether the run is to stop. Over the rounds,
tried are just those from there to the last that are due, one after another, each before
any observer is told of it; at the end, the last iteration is tried if it was not due.
Every attempt has its verdict. If that on the last attempt is that it went well, the
store has the solver with the last state; else the run warns of its failure, and the
store has what was saved last. -/
theorem a_run_saves_what_is_due_and_its_end (hj : x.OnlyJudges)
    (hphase : g₀.executor.phase = .created) (hs : g₀.Saves p good)
    (hw : p.store.Faithful p.key x good) (hx : g₀.StartsAt x s)
    {limit : Nat} {h : Engine τ} {o : Outcome τ} (hr : g₀.run limit = .ok (some (h, o)))
    (he : o.error = none) :
    ∃ rounds closing, h.world.history = g₀.world.history ++ rounds ++ closing ∧
      o.solver = x ∧ s ≤ o.iterations ∧
      attemptsIn rounds = (p.frequency.dueFrom s o.iterations).map (p.key, ·) ∧
      p.TriedFirst rounds ∧
      attemptsIn closing = (if p.frequency.due o.iterations then [] else [(p.key, o.iterations)]) ∧
      (∀ name i record, .notified name i record ∉ closing) ∧
      List.Forall₂ (p.Verdict good x) (attemptsIn (rounds ++ closing))
        (verdictsIn (rounds ++ closing)) ∧
      p.Leaves x (g₀.world.cabinet p.cabinet) (rounds ++ closing) o
        (h.world.cabinet p.cabinet) := by
  obtain ⟨g, g', l, rounds, exit, closing, hhistory, hb, hbegun, hexit, hquiet, hstate, hsolver,
    hcabinet⟩ := run_exits hj hphase hs hw hx hr he
  have hiterations : o.iterations = g.executor.state.book.iteration := by
    unfold Outcome.iterations
    rw [hstate]
  have hidle : ∀ e ∈ closing, e.completes = false := fun e hm =>
    Event.completes_of_ends (hquiet e hm)
  have hverdicts : verdictsIn (rounds ++ (exit ++ closing)) = verdictsIn (rounds ++ exit) := by
    rw [← List.append_assoc, verdictsIn_append, verdictsIn_of_idle hidle, List.append_nil]
  have hattempts : attemptsIn (rounds ++ (exit ++ closing)) = attemptsIn (rounds ++ exit) := by
    rw [← List.append_assoc, attemptsIn_append, attemptsIn_of_idle hidle, List.append_nil]
  have hone : g.executor.state.book.iteration + 1 - 1 = g.executor.state.book.iteration := by omega
  refine ⟨rounds, exit ++ closing, hhistory, hsolver, ?_, ?_, hb.first, ?_, ?_, ?_, ?_⟩
  · rw [hiterations]
    exact hbegun
  · rw [hiterations, hb.attempts, hone]
  · rw [attemptsIn_append, attemptsIn_of_idle hidle, List.append_nil, hiterations]
    exact hexit.attempts
  · intro name i record hm
    rcases List.mem_append.mp hm with h1 | h1
    · exact hexit.unheard name i record h1
    · cases hquiet _ h1
  · rw [hattempts, hverdicts]
    exact hexit.verdicts
  · rw [hcabinet]
    rcases hexit.leaves with ⟨hlast, hc⟩ | ⟨f, hlast, hc⟩
    · refine .stored ?_ (hstate ▸ hc)
      rw [hverdicts, hiterations]
      exact hlast
    · have hmem := List.mem_of_getLast? hlast
      have hsaid : Event.saveFailed f ∈ rounds ++ (exit ++ closing) := by
        rw [← List.append_assoc]
        exact List.mem_append_left _ (mem_verdictsIn_error hmem)
      refine .missed (hverdicts ▸ hlast) (Policy.verdict_isCheckpoint hexit.verdicts hmem) ?_ ?_
      · obtain ⟨es, fs, _, htells, hes, hwarnings⟩ := run_account hphase hr
        rw [List.append_assoc] at hhistory
        have hsame : rounds ++ (exit ++ closing) = es :=
          List.append_cancel_left (hhistory.symm.trans hes)
        rw [hwarnings, ← htells, ← hsame]
        exact List.mem_append_right _ (List.mem_filterMap.mpr ⟨_, hsaid, rfl⟩)
      · rw [← List.append_assoc]
        exact hc.idle hidle

/-- A policy to save every second iteration, in a store that fails at the
third. -/
def everySecond : Policy Float :=
  ⟨"memory", Checkpoint.Memory.store.failing (some [3]) .notImplemented, "run",
    .every ⟨2, by decide⟩, false, false, none⟩

/-- The law for a replay of three iterations that saves every second one. -/
theorem a_replay_saves_every_second_iteration :
    ∃ h o rounds closing, (underLimit (Sample.replay [true, false]) 3 (some everySecond) none
        (.start 0)).run 3 = .ok (some (h, o)) ∧
      attemptsIn rounds = [("run", 0), ("run", 2)] ∧ attemptsIn closing = [("run", 3)] ∧
      everySecond.TriedFirst rounds ∧
      everySecond.Leaves (Sample.replay [true, false]) .empty (rounds ++ closing) o
        (h.world.cabinet "memory") := by
  obtain ⟨⟨h, o⟩, hrun, herror, hits, _⟩ := saving_replay_ends (List.cons_ne_nil true [false]) 3
    (rfl : (underLimit _ _ (some everySecond) none _).stored = _) rfl
  have hfaithful : everySecond.store.Faithful everySecond.key (Sample.replay [true, false])
      fun _ => True := (memory_works rfl rfl).faithful.failing _ _
  obtain ⟨rounds, closing, _, _, _, hrounds, hfirst, hclosing, _, _, hleaves⟩ :=
    a_run_saves_what_is_due_and_its_end (fun _ => rfl) rfl ⟨rfl, rfl, trivial⟩ hfaithful
      (.opening rfl rfl) hrun herror
  rw [hits] at hrounds hclosing
  exact ⟨h, o, rounds, closing, hrun, hrounds, hclosing, hfirst, hleaves⟩

/-! ## Runs that a failure ended -/

/-- Where every save goes well, a run has saved just the iterations that are
due, and the store has the last of them, or what it had before if there is
none. -/
theorem Course.stored {past : List (State τ)} (hj : x.OnlyJudges) (hc : g₀.Course past g)
    (hs : g₀.Saves p good)
    (hw : p.store.Works p.key x good) (hx : g₀.StartsAt x s) :
    ∃ es, g.world.history = g₀.world.history ++ es ∧
      attemptsIn es =
        (p.frequency.dueFrom s g.executor.state.book.iteration).map (p.key, ·) ∧
      verdictsIn es = (p.frequency.dueFrom s g.executor.state.book.iteration).map .ok ∧
      (∀ j, (p.frequency.dueFrom s g.executor.state.book.iteration).getLast? = some j →
        ∃ t, .completed t ∈ es ∧ t.book.iteration = j ∧
          p.Holds x t (g.world.cabinet p.cabinet)) ∧
      (p.frequency.dueFrom s g.executor.state.book.iteration = [] →
        g.world.cabinet p.cabinet = g₀.world.cabinet p.cabinet) ∧
      (s ≤ g.executor.state.book.iteration →
        p.frequency.due g.executor.state.book.iteration = true →
          p.Holds x g.executor.state (g.world.cabinet p.cabinet)) := by
  obtain ⟨l, es, hhistory, hb, hlatest⟩ := hc.books hj hs hw.faithful hx
  have hone : g.executor.state.book.iteration + 1 - 1 = g.executor.state.book.iteration := by omega
  have hattempts := hb.attempts
  rw [hone] at hattempts
  have hverdicts : verdictsIn es =
      (p.frequency.dueFrom s g.executor.state.book.iteration).map .ok := by
    rw [Policy.verdicts_of_works hw hb.verdicts, hattempts, List.map_map]
    rfl
  generalize p.frequency.dueFrom s g.executor.state.book.iteration = due at hattempts hverdicts ⊢
  have hwell (v : Except Fault Int) (hv : v ∈ verdictsIn es) : ∃ i, v = .ok i := by
    rw [hverdicts] at hv
    obtain ⟨i, _, rfl⟩ := List.mem_map.mp hv
    exact ⟨i, rfl⟩
  refine ⟨es, hhistory, hattempts, hverdicts, ?_, ?_, fun hbegun hd => ?_⟩
  · intro j hj
    cases hb.kept with
    | untouched hno _ =>
      refine absurd ?_ (hno j)
      rw [hverdicts]
      exact List.mem_map_of_mem (List.mem_of_getLast? hj)
    | @last before between after t hes _ hafter hholds =>
      have hsplit : verdictsIn es = verdictsIn before ++ verdictsIn between ++
          .ok t.book.iteration :: verdictsIn after := by
        rw [hes]
        exact verdictsIn_split before between after t p.key t.book.iteration
      -- after the last save that went well there is no verdict at all
      have hnone : verdictsIn after = [] := by
        refine List.eq_nil_iff_forall_not_mem.mpr fun v hv => ?_
        have hin : v ∈ verdictsIn es := by
          rw [hsplit]
          simp [hv]
        obtain ⟨i, rfl⟩ := hwell v hin
        exact hafter i hv
      have hlast : (verdictsIn es).getLast? = some (.ok t.book.iteration) := by
        rw [hsplit, hnone, List.getLast?_concat]
      rw [hverdicts, List.getLast?_map, hj] at hlast
      cases hlast
      refine ⟨t, ?_, rfl, hholds⟩
      rw [hes]
      simp
  · intro hdue
    cases hb.kept with
    | untouched _ hc => exact hc
    | @last before between after t hes _ _ _ =>
      rw [hdue, List.map_nil, hes, verdictsIn_split] at hverdicts
      simp at hverdicts
  · rcases hlatest with ⟨_, hlatest⟩ | ⟨hnew, _⟩
    · cases hlatest with
      | idle hidle _ => cases hidle.symm.trans hd
      | saved _ _ _ hc => exact hc
      | missed _ _ hv =>
        obtain ⟨i, hi⟩ := hwell _ (List.mem_of_getLast? hv)
        cases hi
    · omega

/-- A run ends at a call that fails. What it puts down from there on belongs to
no iteration, and it uses no store. -/
theorem run_of_fails {kind : CallKind} {past : List (State τ)} {f : Fault}
    (hphase : g₀.executor.phase = .created) (hc : g₀.ComesTo kind past g)
    (hr : g.executor.state.terminated = false)
    (hf : (g.asked kind).answer.Fails g.executor.solver kind f) (limit : Nat) :
    ∃ h o, g₀.run (past.length + limit) = .ok (some (h, o)) ∧ o.error = some f ∧
      o.state = { g.executor.state with status := ⟨some (.error f)⟩ } ∧
      g.world.Follows (·.completes = false) h.world := by
  obtain ⟨u, hi, hstate, _, hworld⟩ := iterate_of_fails hf g₀.world.clock
  obtain ⟨h, o, hend, hs, _, he, hfollows⟩ :=
    concluded_failed g₀.executor.runName f (hstate ▸ hr)
  have hcall := g.asked_follows kind
  rw [← hworld] at hcall
  have hnoted : g.world.Follows (·.completes = false)
      (g.world.note (.called kind g.executor.state.book.iteration)) := World.note_follows _ rfl
  refine ⟨h, o, ?_, he, ?_, (hnoted.trans (hcall.mono fun e he => ?_)).trans
    (hfollows.mono fun e he => Event.completes_of_ends he)⟩
  · rw [run_created hphase, attempt_of_comesTo hc, hi, ← hend]
    rfl
  · rw [hs, hstate]
  · obtain ⟨c, rfl⟩ := he
    rfl

/-- A run that ends by a call that fails, in a store in which every save goes
well, if the solver only judges when it is asked whether the run is to stop. Of the
iterations that it completed it has saved just those that are due, and it tries no
other at its end. So the store has the last that was due, or
what it had before if none was; and it has the last that was completed if that
was due. -/
theorem a_failed_run_leaves_what_was_due {past : List (State τ)} {f : Fault}
    (hj : x.OnlyJudges) (hphase : g₀.executor.phase = .created) (hs : g₀.Saves p good)
    (hw : p.store.Works p.key x good) (hx : g₀.StartsAt x s) (hc : g₀.Course past g)
    (hr : g.executor.state.terminated = false)
    (hf : (g.asked .step).answer.Fails g.executor.solver .step f) (limit : Nat) :
    ∃ h o es, g₀.run (past.length + 1 + limit) = .ok (some (h, o)) ∧ o.error = some f ∧
      o.state = { g.executor.state with status := ⟨some (.error f)⟩ } ∧
      h.world.history = g₀.world.history ++ es ∧
      attemptsIn es = (p.frequency.dueFrom s o.iterations).map (p.key, ·) ∧
      verdictsIn es = (p.frequency.dueFrom s o.iterations).map .ok ∧
      (∀ j, (p.frequency.dueFrom s o.iterations).getLast? = some j →
        ∃ t, .completed t ∈ es ∧ t.book.iteration = j ∧
          p.Holds x t (h.world.cabinet p.cabinet)) ∧
      (p.frequency.dueFrom s o.iterations = [] →
        h.world.cabinet p.cabinet = g₀.world.cabinet p.cabinet) ∧
      (s ≤ o.iterations → p.frequency.due o.iterations = true →
        p.Holds x g.executor.state (h.world.cabinet p.cabinet)) := by
  obtain ⟨es, hhistory, hattempts, hverdicts, hlast, hnone, hdue⟩ := hc.stored hj hs hw hx
  obtain ⟨h, o, hrun, he, hstate, hfollows⟩ := run_of_fails hphase (.step hc hr) hr hf limit
  rw [List.length_append, List.length_singleton] at hrun
  have hiterations : o.iterations = g.executor.state.book.iteration := by
    unfold Outcome.iterations
    rw [hstate]
  obtain ⟨later, hlater, hidle⟩ := hfollows.toGrows.history
  refine ⟨h, o, es ++ later, hrun, he, hstate, ?_⟩
  rw [hiterations, World.cabinet_of_cabinets hfollows.cabinets]
  refine ⟨?_, ?_, ?_, fun j hj => ?_, hnone, hdue⟩
  · rw [hlater, hhistory, List.append_assoc]
  · rw [attemptsIn_append, attemptsIn_of_idle hidle, List.append_nil, hattempts]
  · rw [verdictsIn_append, verdictsIn_of_idle hidle, List.append_nil, hverdicts]
  · obtain ⟨t, ht, hrest⟩ := hlast j hj
    exact ⟨t, List.mem_append_left _ ht, hrest⟩

/-- A run whose step scribbles, saving in memory with a given frequency. -/
def scribblingAt (q : Frequency) : Engine Float :=
  underLimit scribbling 3 (some { inMemory false with frequency := q }) none (.start 0)

theorem scribblingAt_fails (q : Frequency) :
    ∃ g, (scribblingAt q).Course [] g ∧ g.executor.state.book.iteration = 0 ∧
      g.executor.state.terminated = false ∧
      (g.asked .step).answer.Fails g.executor.solver .step
        (.malformedOutput "SequenceSolver" "next_iteration" "dict") := by
  have hopening : (scribblingAt q).begun.settled.Moves .opening := ⟨true, rfl⟩
  have hsaves : (scribblingAt q).SavesGoOn scribbling := by
    intro p hp
    cases hp
    exact .inl rfl
  obtain ⟨g, hg, _, hx, _, hgl⟩ := underLimit_opens rfl (fun _ => rfl) hopening rfl hsaves
  have hrun : g.executor.state.status = .running := hgl.status
  refine ⟨g, hg, hgl.iteration, State.not_terminated_iff.mpr hrun, ?_⟩
  have hplayed : (g.asked .step).answer = .malformed "dict" := by
    unfold asked
    dsimp only
    rw [hx]
    unfold Solver.call scribbling
    simp only [Sample.play, Sample.Play.begin, Sample.Play.on, State.terminateWith, hrun,
      Status.running]
    rfl
  rw [hplayed, hx]
  exact .malformed "dict"

theorem scribblingAt_saves (q : Frequency) :
    (scribblingAt q).Saves { inMemory false with frequency := q } fun _ => True :=
  ⟨rfl, rfl, trivial⟩

/-- The law for a run that saves every iteration. -/
theorem a_failed_run_leaves_its_opening :
    ∃ g h o, (scribblingAt .always).Course [] g ∧
      (scribblingAt .always).run 1 = .ok (some (h, o)) ∧
      o.state = { g.executor.state with status := ⟨some (.error
        (.malformedOutput "SequenceSolver" "next_iteration" "dict"))⟩ } ∧
      (inMemory false).Holds scribbling g.executor.state (h.world.cabinet "memory") := by
  obtain ⟨g, hg, hiteration, hopen, hfails⟩ := scribblingAt_fails .always
  obtain ⟨h, o, _, hrun, _, hstate, _, _, _, _, _, hdue⟩ :=
    a_failed_run_leaves_what_was_due (fun _ => rfl) rfl (scribblingAt_saves .always)
      (memory_works rfl rfl) (.opening rfl rfl) hg hopen hfails 0
  have hbegun : (0 : Int) ≤ o.iterations := by
    unfold Outcome.iterations
    rw [hstate]
    exact Int.le_of_eq hiteration.symm
  obtain ⟨hholds, hload⟩ := hdue hbegun rfl
  exact ⟨g, h, o, hg, hrun, hstate, hholds, hload⟩

/-- Under a frequency of never, nothing of it is stored. -/
theorem a_failed_run_can_lose_what_it_completed :
    ∃ g h o, (scribblingAt .never).Course [] g ∧ g.executor.state.book.iteration = 0 ∧
      (scribblingAt .never).run 1 = .ok (some (h, o)) ∧
      o.error = some (.malformedOutput "SequenceSolver" "next_iteration" "dict") ∧
      o.iterations = 0 ∧
      (inMemory false).store.holds (.text "run") (h.world.cabinet "memory") = .ok false := by
  obtain ⟨g, hg, hiteration, hopen, hfails⟩ := scribblingAt_fails .never
  obtain ⟨es, _, _, _, _, hnone, _⟩ := hg.stored (fun _ => rfl) (scribblingAt_saves .never)
    (memory_works rfl rfl) (.opening rfl rfl)
  obtain ⟨h, o, hrun, he, hstate, hfollows⟩ := run_of_fails rfl (.step hg hopen) hopen hfails 0
  have hiterations : o.iterations = 0 := by
    unfold Outcome.iterations
    rw [hstate]
    exact hiteration
  have hempty : g.world.cabinet "memory" = .empty := by
    refine hnone ?_
    unfold Frequency.dueFrom
    exact List.filter_eq_nil_iff.mpr fun _ _ h => nomatch h
  refine ⟨g, h, o, hg, hiteration, hrun, he, hiterations, ?_⟩
  rw [World.cabinet_of_cabinets hfollows.cabinets, hempty]
  rfl

end Engine

end Minimize
