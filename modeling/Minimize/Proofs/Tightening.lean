-- Tighter criteria. A run under criteria of which one fires wherever one of those
-- of another run does is a beginning of that run: up to its last state it comes
-- to the same states, and only the status and the word of the end tell the last
-- one from that of the other.
import Minimize.Proofs.Progress
import Minimize.Proofs.Stopping

namespace Minimize

variable {τ : Type}

/-! ## Criteria -/

/-- A reckoning of time that can be held against every limit. -/
def Span.Decides (τ : Type) [Span τ] : Prop :=
  ∀ (x : τ) (limit : Float), ∃ longer, Span.exceeds x limit = .ok longer

namespace Check

variable {say : Check → Except Fault (Option Reason)} {cs : List Check}

/-- If no check slips, there is a first word or none. -/
theorem first_ok (h : ∀ c ∈ cs, ∃ o, say c = .ok o) : ∃ o, first say cs = .ok o := by
  induction cs with
  | nil => exact ⟨none, rfl⟩
  | cons c cs ih =>
    obtain ⟨o, ho⟩ := h c List.mem_cons_self
    unfold first
    rw [ho]
    cases o with
    | none => exact ih fun d hd => h d (List.mem_cons_of_mem c hd)
    | some r => exact ⟨some r, rfl⟩

end Check

namespace Criteria

variable [Span τ] {c tight loose : Criteria} {s : State τ}
  {early : State τ → Except Fault (Option Reason)}

/-- Whether one of the criteria fires in a state: their check has a word, without
an abort and without the solver. -/
def Fires (c : Criteria) (s : State τ) : Prop :=
  ∃ check ∈ c.checks, ∃ r, c.word (fun _ => .ok none) false s check = .ok (some r)

/-- Criteria of which one fires wherever one of the others does, as far as the
best cost is a number. -/
def Tightens (τ : Type) [Span τ] (tight loose : Criteria) : Prop :=
  ∀ s : State τ, s.book.bestCost.IsNumber → loose.Fires s → tight.Fires s

/-- Where a criterion fires, its check has a word whatever the solver says. -/
theorem Fires.speaks (h : c.Fires s) (early : State τ → Except Fault (Option Reason)) :
    ∃ check ∈ c.checks, ∃ r, c.word early false s check = .ok (some r) := by
  obtain ⟨check, hm, r, hr⟩ := h
  cases check with
  | solver => cases hr
  | _ => exact ⟨_, hm, r, hr⟩

/-- The word of a check is that of a criterion or of the solver. -/
theorem fires_of_word {check : Check} {r : Reason} (hm : check ∈ c.checks)
    (h : c.word early false s check = .ok (some r)) : c.Fires s ∨ early s = .ok (some r) := by
  cases check with
  | solver => exact .inr h
  | _ => exact .inl ⟨_, hm, r, h⟩

theorem word_ok (ht : Span.Decides τ) (he : ∀ s, ∃ o, early s = .ok o)
    (hs : s.book.bestCost.IsNumber) (check : Check) :
    ∃ o, c.word early false s check = .ok o := by
  cases check with
  | time =>
    simp only [word, timeIsUp]
    cases c.maxTime with
    | none => exact ⟨none, rfl⟩
    | some limit =>
      obtain ⟨longer, hl⟩ := ht s.book.elapsed limit
      simp only [hl]
      exact ⟨_, rfl⟩
  | target =>
    simp only [word, targetIsMet]
    cases c.targetCost with
    | none => exact ⟨none, rfl⟩
    | some t =>
      obtain ⟨met, hm⟩ := hs.atMost t
      simp only [hm]
      exact ⟨_, rfl⟩
  | iterations =>
    simp only [word, itersAreUp]
    cases c.maxIters <;> exact ⟨_, rfl⟩
  | streak =>
    simp only [word]
    cases c.noImprovementThreshold <;> exact ⟨_, rfl⟩
  | abort => exact ⟨_, rfl⟩
  | budget counter limit => exact ⟨_, rfl⟩
  | solver => exact he s

theorem check_ok (ht : Span.Decides τ) (he : ∀ s, ∃ o, early s = .ok o)
    (hs : s.book.bestCost.IsNumber) (c : Criteria) :
    ∃ o, checkTermination c (some early) false s = .ok o := by
  rw [checkTermination_eq]
  exact Check.first_ok fun check _ => word_ok ht he hs check

/-- Where tighter criteria are silent, and no check slips, the others are. -/
theorem Tightens.silent (h : Tightens τ tight loose) (ht : Span.Decides τ)
    (he : ∀ s, ∃ o, early s = .ok o) (hs : s.book.bestCost.IsNumber)
    (hc : checkTermination tight (some early) false s = .ok none) :
    checkTermination loose (some early) false s = .ok none := by
  rw [checkTermination_eq, Check.first_eq_none] at hc ⊢
  intro check hm
  obtain ⟨o, ho⟩ := word_ok (c := loose) ht he hs check
  cases o with
  | none => exact ho
  | some r =>
    rcases fires_of_word hm ho with hf | hearly
    · obtain ⟨check', hm', r', hr'⟩ := (h s hs hf).speaks early
      cases (hc check' hm').symm.trans hr'
    · have hsolver := hc .solver (by simp [checks])
      cases hsolver.symm.trans hearly

/-- Criteria that are as strict as others or stricter: the same limit of time, no
higher one of iterations, no lower target, no longer streak and no higher budgets.
What the others do not limit, they may. -/
structure Stricter (tight loose : Criteria) : Prop where
  time : ∀ t, loose.maxTime = some t → tight.maxTime = some t
  iterations : ∀ n, loose.maxIters = some n → ∃ m ≤ n, tight.maxIters = some m
  target : ∀ t, loose.targetCost = some t →
    ∃ t', Number.atMost t t' = true ∧ tight.targetCost = some t'
  streak : ∀ p, loose.noImprovementThreshold = some p →
    ∃ q : Period, q.count ≤ p.count ∧ tight.noImprovementThreshold = some q
  budgets : ∀ counter p, (counter, p) ∈ loose.maxEvaluations.entries →
    ∃ q : Period, q.count ≤ p.count ∧ (counter, q) ∈ tight.maxEvaluations.entries

/-- A stricter criterion fires wherever the other does. -/
theorem Stricter.tightens (h : tight.Stricter loose) : Tightens τ tight loose := by
  rintro s hs ⟨check, hm, r, hr⟩
  cases grounds_of_word hr with
  | abort habort => cases habort
  | solver hsolver => cases hsolver
  | time hup =>
    refine ⟨.time, by simp [checks], .timeBudgetExceeded, ?_⟩
    unfold timeIsUp at hup
    cases hl : loose.maxTime with
    | none =>
      rw [hl] at hup
      cases hup
    | some t =>
      rw [hl] at hup
      have hlonger : Span.exceeds s.book.elapsed t = .ok true := hup
      simp only [word, timeIsUp, h.time t hl, hlonger]
      rfl
  | @iterations n hn hle =>
    obtain ⟨m, hmn, htight⟩ := h.iterations n hn
    have hreached : (m : Int) ≤ s.book.iteration := by omega
    refine ⟨.iterations, by simp [checks], .maxItersReached, ?_⟩
    simp only [word, itersAreUp, htight]
    rw [show Count.reaches s.book.iteration (m : Int) = .ok true from
      congrArg Except.ok (decide_eq_true hreached)]
    rfl
  | @target t ht hmet =>
    obtain ⟨t', hle, htight⟩ := h.target t ht
    refine ⟨.target, by simp [checks], .targetCostReached, ?_⟩
    simp only [word, targetIsMet, htight]
    rw [hs.reaches hmet hle]
    rfl
  | @streak p hp hle =>
    obtain ⟨q, hqp, htight⟩ := h.streak p hp
    have hlong : q.count ≤ s.book.noImprovementStreak := by omega
    refine ⟨.streak, by simp [checks], .noImprovementStreak q.count, ?_⟩
    simp only [word, htight, decide_eq_true hlong]
    rfl
  | @budget counter limit hle =>
    have hentry : (counter, limit) ∈ loose.maxEvaluations.entries := by simpa [checks] using hm
    obtain ⟨q, hqp, htight⟩ := h.budgets counter limit hentry
    have hspent : q.count ≤ s.counted counter := by omega
    refine ⟨.budget counter q, ?_, .evaluationBudgetExceeded counter, ?_⟩
    · simp only [checks, List.mem_cons, List.mem_append, List.mem_map]
      exact .inr (.inr (.inr (.inr (.inr (.inl ⟨_, htight, rfl⟩)))))
    · simp only [word, decide_eq_true hspent]
      rfl

end Criteria

/-! ## Ends of states -/

/-- A state that is another one but for its status and what its record tells of
the end, and that one itself if that one goes on. -/
structure State.EndsLike (s t : State τ) : Prop where
  same : { s with status := t.status, record := t.record } = t
  record : s.record.erase "termination" = t.record.erase "termination"
  running : t.terminated = false → s = t

namespace State.EndsLike

variable {s t : State τ}

theorem book (h : s.EndsLike t) : s.book = t.book :=
  show ({ s with status := t.status, record := t.record } : State τ).book = t.book by rw [h.same]

theorem counts (h : s.EndsLike t) : s.counts = t.counts :=
  show ({ s with status := t.status, record := t.record } : State τ).counts = t.counts by
    rw [h.same]

theorem of_eq (h : s = t) : s.EndsLike t := by
  subst h
  exact ⟨rfl, rfl, fun _ => rfl⟩

/-- A state ends like itself with another status and another word on the end in
its record. -/
theorem restated (s : State τ) {x y : Status} {r r' : Record}
    (hr : r.erase "termination" = r'.erase "termination")
    (h : y.terminated = false → x = y ∧ r = r') :
    { s with status := x, record := r }.EndsLike { s with status := y, record := r' } where
  same := rfl
  record := hr
  running hy := by
    obtain ⟨rfl, rfl⟩ := h hy
    rfl

end State.EndsLike

namespace Engine

/-- The record of an iteration tells the end under one name. -/
theorem fullRecord_erase (standard : Record) (record : Option Record) (x y : Status) :
    (fullRecord standard record x).erase "termination" =
      (fullRecord standard record y).erase "termination" := by
  have hbare (status : Status) : (fullRecord standard record status).erase "termination" =
      (standard.merge (record.getD .empty)).erase "termination" := by
    unfold fullRecord
    dsimp only
    cases status.reason with
    | none => rfl
    | some r => exact Table.erase_insert _ _ _
  rw [hbare, hbare]

variable [Clock τ]

/-! ## Peers -/

/-- Engines with one solver, whose word on the end never fails and leaves the state
alone, and one problem. Neither is timed or can be aborted, the criteria of the second
are tighter, and their states are related. They may differ in their worlds, their
observers and their stores. -/
structure Peers (R : State τ → State τ → Prop) (g h : Engine τ) : Prop where
  solver : h.executor.solver = g.executor.solver
  early : ∀ s, ∃ o, g.executor.solver.terminateEarly s = .ok o
  judges : g.executor.solver.OnlyJudges
  problem : h.executor.problem = g.executor.problem
  state : R g.executor.state h.executor.state
  criteria : Criteria.Tightens τ h.executor.settings.criteria g.executor.settings.criteria
  untimed : g.executor.settings.timer = false ∧ h.executor.settings.timer = false
  unsignalled : g.executor.signal = none ∧ h.executor.signal = none

variable {R : State τ → State τ → Prop} {g g' h h' : Engine τ}

/-- Peers stay so wherever neither a save nor a word to the observers moves
them. -/
theorem Peers.stands (hp : g.Peers R h) (hg : g.Stands g' ∧ g.Keeps g')
    (hh : h.Stands h' ∧ h.Keeps h') : g'.Peers R h' where
  solver := by rw [hg.2.solver, hh.2.solver, hp.solver]
  early := by rw [hg.2.solver]; exact hp.early
  judges := by rw [hg.2.solver]; exact hp.judges
  problem := by rw [hg.1.problem, hh.1.problem, hp.problem]
  state := by rw [hg.1.state, hh.1.state]; exact hp.state
  criteria := by rw [hg.2.settings, hh.2.settings]; exact hp.criteria
  untimed := by rw [hg.2.settings, hh.2.settings]; exact hp.untimed
  unsignalled := by rw [hg.2.signal, hh.2.signal]; exact hp.unsignalled

theorem Call.run_anywhere (c : Call τ) (p : Problem) (w w' : World τ) :
    ∃ v, c.run p w' = { c.run p w with world := v } := by
  induction c generalizing p w w' with
  | done left answer => exact ⟨w', rfl⟩
  | evaluate cap args next ih =>
    simp only [Call.run]
    cases p.supports cap with
    | true => exact ih _ _ _ _ _
    | false => exact ih _ _ _ _ _
  | change ch next ih =>
    obtain ⟨v, hv⟩ := ih (p.after ch) w w'
    refine ⟨v, ?_⟩
    simp only [Call.run, hv]
  | wait d next ih => exact ih p _ _
  | raise name next ih => exact ih p _ _

theorem Peers.asked (hp : g.Peers Eq h) (kind : CallKind) :
    ∃ v, h.asked kind = { g.asked kind with world := v } := by
  unfold Engine.asked
  dsimp only
  rw [hp.solver, hp.problem, ← hp.state]
  exact Call.run_anywhere _ _ _ _

/-- What a call does to the points in the bookkeeping does not depend on the world
either. -/
theorem Peers.kept (hp : g.Peers Eq h) (kind : CallKind) : h.kept kind = g.kept kind := by
  obtain ⟨v, hv⟩ := hp.asked kind
  unfold Engine.kept
  rw [hv, ← hp.state]

theorem Peers.consult (hp : g.Peers Eq h) (kind : CallKind) :
    Attempt.Both (fun a b => a.1.Peers Eq b.1 ∧ b.2 = a.2) (Peers Eq) (g.consult kind)
      (h.consult kind) := by
  have hstate := hp.state
  obtain ⟨v, hv⟩ := hp.asked kind
  unfold Engine.consult
  rw [hv]
  dsimp only
  rw [hp.solver]
  cases (g.asked kind).answer.returned g.executor.solver kind (g.asked kind).left with
  | error f =>
    exact .error
      ⟨rfl, hp.early, hp.judges, rfl, hstate, hp.criteria, hp.untimed, hp.unsignalled⟩
  | ok r =>
    exact .ok
      ⟨⟨rfl, hp.early, hp.judges, rfl, rfl, hp.criteria, hp.untimed, hp.unsignalled⟩, rfl⟩

theorem Peers.merge (hp : g.Peers Eq h) (r : Returned τ) (book : Bookkeeping τ) (i : Int)
    (started started' : τ) :
    Attempt.Both (Peers Eq) (Peers Eq) (g.merge r book i started) (h.merge r book i started') := by
  have hcarried : h.carried r.state book i started' = g.carried r.state book i started := by
    unfold carried elapsed
    rw [hp.untimed.1, hp.untimed.2, hp.problem]
    rfl
  have moved (s : State τ) : (g.withState s).Peers Eq (h.withState s) :=
    ⟨hp.solver, hp.early, hp.judges, hp.problem, rfl, hp.criteria, hp.untimed, hp.unsignalled⟩
  unfold Engine.merge
  dsimp only
  rw [hcarried]
  cases (g.carried r.state book i started).recordBest with
  | error e =>
    cases r.inPlace with
    | true => exact .error (moved _)
    | false => exact .error hp
  | ok s =>
    have hs := moved s.1
    cases r.inPlace <;>
      exact .ok
        ⟨hs.solver, hs.early, hs.judges, hs.problem, rfl, hs.criteria, hs.untimed, hs.unsignalled⟩

theorem Peers.enter (hp : g.Peers R h) (kind : CallKind) :
    (g.enter kind).Peers R (h.enter kind) := by
  cases kind <;>
    exact ⟨hp.solver, hp.early, hp.judges, hp.problem, hp.state, hp.criteria, hp.untimed,
      hp.unsignalled⟩

theorem Peers.take (hp : g.Peers Eq h) (kind : CallKind) (started started' : τ) :
    Attempt.Both (fun a b => a.1.Peers Eq b.1 ∧ b.2 = a.2) (Peers Eq) (g.take kind started)
      (h.take kind started') := by
  have hstate := hp.state
  unfold Engine.take
  refine (hp.consult kind).bind fun a b _ _ hab => ?_
  obtain ⟨u, r⟩ := a
  obtain ⟨v, r'⟩ := b
  obtain ⟨huv, rfl⟩ := hab
  dsimp only
  rw [← hstate, hp.kept kind]
  exact (huv.merge _ _ _ started started').bind fun a' b' _ _ hp' => .ok ⟨hp', rfl⟩

theorem Peers.ends (hp : g.Peers Eq h) : g.Peers State.EndsLike h :=
  ⟨hp.solver, hp.early, hp.judges, hp.problem, .of_eq hp.state, hp.criteria, hp.untimed,
    hp.unsignalled⟩

/-- Judging succeeds for both peers, and if the second goes on, so does the
first. -/
theorem Peers.judge (hp : g.Peers Eq h) (ht : Span.Decides τ)
    (hn : g.executor.state.book.bestCost.IsNumber) :
    ∃ x y : Status, g.judge = .ok (g.withState { g.executor.state with status := x }) ∧
      h.judge = .ok (h.withState { h.executor.state with status := y }) ∧
      (y.terminated = false → x = y) := by
  have hstate := hp.state
  cases hr : g.executor.state.terminated with
  | true =>
    exact ⟨g.executor.state.status, h.executor.state.status, judge_of_terminated hr,
      judge_of_terminated (hstate ▸ hr), fun _ => by rw [hstate]⟩
  | false =>
    obtain ⟨o, ho⟩ := Criteria.check_ok ht hp.early hn g.executor.settings.criteria
    obtain ⟨o', ho'⟩ := Criteria.check_ok ht hp.early hn h.executor.settings.criteria
    refine ⟨⟨o⟩, ⟨o'⟩, judge_of_check hp.judges hr ?_,
      judge_of_check (hp.solver ▸ hp.judges) (hstate ▸ hr) ?_, fun hy => ?_⟩
    · rw [not_aborted hp.unsignalled.1]
      exact ho
    · rw [not_aborted hp.unsignalled.2, hp.solver, ← hstate]
      exact ho'
    · cases o' with
      | some r => cases hy
      | none =>
        have hsilent := hp.criteria.silent ht hp.early hn ho'
        cases ho.symm.trans hsilent
        rfl

theorem Peers.complete (hp : g.Peers Eq h) {x y : Status} (hxy : y.terminated = false → x = y)
    (record : Option Record) :
    Attempt.Both (Peers State.EndsLike) (Peers State.EndsLike)
      ((g.withState { g.executor.state with status := x }).complete record)
      ((h.withState { h.executor.state with status := y }).complete record) := by
  have hstate := hp.state
  have moved {s t : State τ} (hst : s.EndsLike t) :
      (g.withState s).Peers State.EndsLike (h.withState t) :=
    ⟨hp.solver, hp.early, hp.judges, hp.problem, hst, hp.criteria, hp.untimed, hp.unsignalled⟩
  have hsummary (status : Status) : State.summary { g.executor.state with status := status } =
      g.executor.state.summary := rfl
  unfold Engine.complete
  dsimp only [withState]
  rw [← hstate, hsummary x, hsummary y]
  cases g.executor.state.summary with
  | error f => exact .error (moved (.restated _ rfl fun hy => ⟨hxy hy, rfl⟩))
  | ok standard =>
    have hends := moved (State.EndsLike.restated g.executor.state
      (fullRecord_erase standard record x y) fun hy => ⟨hxy hy, by rw [hxy hy]⟩)
    exact .ok ⟨hends.solver, hends.early, hends.judges, hends.problem, hends.state, hends.criteria,
      hends.untimed, hends.unsignalled⟩

/-- Peers come out of an iteration at states that end alike, if the best cost is
a number. -/
theorem Peers.advance (hp : g.Peers Eq h) (ht : Span.Decides τ) {kind : CallKind} {started : τ}
    (hn : ∀ u record, (g.enter kind).take kind started = .ok (u, record) →
      u.executor.state.book.bestCost.IsNumber) (started' : τ) :
    Attempt.Both (Peers State.EndsLike) (Peers State.EndsLike) (g.advance kind started)
      (h.advance kind started') := by
  unfold Engine.advance
  have htake := ((hp.enter kind).take kind started started').mono (fun _ _ hab => hab)
    fun _ _ huv => huv.ends
  refine htake.bind fun a b hga _ hab => ?_
  obtain ⟨u, record⟩ := a
  obtain ⟨v, record'⟩ := b
  obtain ⟨huv, rfl⟩ := hab
  obtain ⟨x, y, hx, hy, hxy⟩ := huv.judge ht (hn u record' hga)
  dsimp only [bind, Except.bind]
  rw [hx, hy]
  exact huv.complete hxy record'

/-- Where no save ends either run, the iterations of peers are saved and told. -/
theorem Peers.iterate (hp : g.Peers Eq h) (ht : Span.Decides τ)
    (hs : g.SavesGoOn g.executor.solver ∧ h.SavesGoOn h.executor.solver) {kind : CallKind}
    {started : τ} (hn : ∀ u record, (g.enter kind).take kind started = .ok (u, record) →
      u.executor.state.book.bestCost.IsNumber) (started' : τ) :
    Attempt.Both (fun a b => a.Peers State.EndsLike b ∧ a.SavesGoOn a.executor.solver ∧
        b.SavesGoOn b.executor.solver) (Peers State.EndsLike) (g.iterate kind started)
      (h.iterate kind started') := by
  have hboth := hp.advance ht hn started'
  generalize hx : g.advance kind started = x at hboth
  generalize hy : h.advance kind started' = y at hboth
  cases hboth with
  | error huv =>
    rw [iterate_eq, iterate_eq, hx, hy]
    exact .error huv
  | ok huv =>
    obtain ⟨a, ha, hstands, hkeeps, hgo⟩ := hs.1.iterate hx
    obtain ⟨b, hb, hstands', hkeeps', hgo'⟩ := hs.2.iterate hy
    rw [ha, hb]
    exact .ok ⟨huv.stands ⟨hstands, hkeeps⟩ ⟨hstands', hkeeps'⟩, hgo, hgo'⟩

/-! ## Tighter runs -/

variable {g₀ h₀ a b : Engine τ} {kind : CallKind} {past : List (State τ)}

/-- A run from nothing under tighter criteria than another: the two start as peers,
no save ends either of them, and the costs of the other are numbers. -/
structure Tightens (h₀ g₀ : Engine τ) : Prop where
  peers : g₀.Peers Eq h₀
  created : g₀.executor.phase = .created ∧ h₀.executor.phase = .created
  fresh : g₀.stored = .ok none ∧ h₀.stored = .ok none
  saves : g₀.SavesGoOn g₀.executor.solver ∧ h₀.SavesGoOn h₀.executor.solver
  clock : Span.Decides τ
  numeric : g₀.Numeric

/-- Two runs beside each other: they stand at peers, and no save ends either. -/
structure Together (R : State τ → State τ → Prop) (g h : Engine τ) : Prop where
  peers : g.Peers R h
  saves : g.SavesGoOn g.executor.solver ∧ h.SavesGoOn h.executor.solver

/-- Runs beside each other stand at one state if the second goes on. -/
theorem Together.goesOn (hab : a.Together State.EndsLike b)
    (hr : b.executor.state.terminated = false) :
    a.executor.state = b.executor.state ∧ a.Together Eq b := by
  have hp := hab.peers
  have hsame := hp.state.running hr
  exact ⟨hsame, ⟨hp.solver, hp.early, hp.judges, hp.problem, hsame, hp.criteria, hp.untimed,
    hp.unsignalled⟩, hab.saves⟩

namespace Tightens

variable (ht : h₀.Tightens g₀)
include ht

/-- Runs that are at one call of the solver come out of the iteration alike. -/
theorem iterate (hc : g₀.ComesTo kind past a) (hab : a.Together Eq b) :
    Attempt.Both (Together State.EndsLike) (Peers State.EndsLike) (a.iterate kind g₀.world.clock)
      (b.iterate kind h₀.world.clock) := by
  have hnumber (u : Engine τ) (record : Option Record)
      (htake : (a.enter kind).take kind g₀.world.clock = .ok (u, record)) :
      u.executor.state.book.bestCost.IsNumber :=
    ht.numeric.numbers _ (hc.best (hc.comesBy ht.peers.judges ht.fresh.1) htake)
  exact (hab.peers.iterate ht.clock hab.saves hnumber h₀.world.clock).mono
    (fun _ _ h => ⟨h.1, h.2⟩) fun _ _ h => h

theorem opening : g₀.begun.settled.Together Eq h₀.begun.settled where
  peers := ⟨ht.peers.solver, ht.peers.early, ht.peers.judges, ht.peers.problem,
    congrArg State.settled ht.peers.state, ht.peers.criteria, ht.peers.untimed,
    ht.peers.unsignalled⟩
  saves := ⟨ht.saves.1.of_same rfl rfl, ht.saves.2.of_same rfl rfl⟩

/-- Where the tighter run is, the other has been, at a state that ends like its
own. -/
theorem course (hc : h₀.Course past b) :
    ∃ a, g₀.Course past a ∧ a.Together State.EndsLike b := by
  induction hc with
  | @start w hs =>
    have hboth := ht.iterate (.opening ht.fresh.1) ht.opening
    rw [← start_fresh ht.fresh.1, ← start_fresh ht.fresh.2, hs] at hboth
    generalize hx : g₀.begun.start g₀.world.clock = x at hboth
    cases hboth with
    | ok hab => exact ⟨_, .start hx, hab⟩
  | @step past v w hc hr hi ih =>
    obtain ⟨a, ha, hab⟩ := ih
    obtain ⟨hsame, hpeers⟩ := hab.goesOn hr
    have hopen : a.executor.state.terminated = false := hsame ▸ hr
    have hboth := ht.iterate (.step ha hopen) hpeers
    rw [hi] at hboth
    generalize hx : a.iterate .step g₀.world.clock = x at hboth
    cases hboth with
    | ok hab' => exact ⟨_, hsame ▸ .step ha hopen hx, hab'⟩

/-- Where the tighter run calls the solver, so does the other, beside it. -/
theorem comes (hc : h₀.ComesTo kind past b) : ∃ a, g₀.ComesTo kind past a ∧ a.Together Eq b := by
  cases hc with
  | opening _ => exact ⟨_, .opening ht.fresh.1, ht.opening⟩
  | step hc hr =>
    obtain ⟨a, ha, hab⟩ := ht.course hc
    obtain ⟨hsame, hpeers⟩ := hab.goesOn hr
    exact ⟨a, hsame ▸ .step ha (hsame ▸ hr), hpeers⟩

end Tightens

/-! ## How runs end -/

theorem Peers.noFurther (hp : g.Peers State.EndsLike h) :
    (h.outcome none).NoFurther (g.outcome none) :=
  .of_same hp.problem.symm hp.state.book hp.state.counts

namespace Tightens

variable (ht : h₀.Tightens g₀) {x y : Attempt τ} {m n : Nat}
include ht

/-- Where the other run is over, so is the tighter one. -/
theorem ends (hx : g₀.begun.attempt n = some x) : ∃ y, h₀.begun.attempt n = some y := by
  cases hy : h₀.begun.attempt n with
  | some y => exact ⟨y, rfl⟩
  | none =>
    obtain ⟨past, b, hc, rfl, hr⟩ := attempt_none hy
    obtain ⟨a, ha, hab⟩ := ht.course hc
    obtain ⟨hsame, _⟩ := hab.goesOn hr
    have hopen := attempt_of_course ha 0
    rw [onward_zero _ (hsame ▸ hr)] at hopen
    cases hx.symm.trans hopen

/-- Where an iteration of the tighter run fails, that of the other fails alike. -/
theorem fails (hc : h₀.ComesTo kind past b) {v : Failed τ}
    (hi : b.iterate kind h₀.world.clock = .error v) :
    ∃ u, g₀.begun.attempt past.length = some (.error ⟨v.fault, u⟩) ∧
      u.Peers State.EndsLike v.engine := by
  obtain ⟨a, ha, hab⟩ := ht.comes hc
  have hboth := ht.iterate ha hab
  rw [hi] at hboth
  have hattempt := attempt_of_comesTo ha 0
  generalize a.iterate kind g₀.world.clock = z at hboth hattempt
  cases hboth with
  | @error f u w huv => exact ⟨u, hattempt, huv⟩

/-- The tighter run ends no further than the other. -/
theorem noFurther (hy : h₀.begun.attempt m = some y) (hx : g₀.begun.attempt n = some x) :
    (y.left.outcome none).NoFurther (x.left.outcome none) := by
  cases attempt_ends hy with
  | unread hs => cases ht.fresh.2.symm.trans hs
  | failed hc hi =>
    obtain ⟨u, hu, huv⟩ := ht.fails hc hi
    rw [attempt_agree hx hu]
    exact huv.noFurther
  | @finished past b hc hover =>
    obtain ⟨a, ha, hab⟩ := ht.course hc
    have hlater := attempt_more hx past.length
    rw [Nat.add_comm, attempt_of_course ha] at hlater
    have hsaved := save_stands b true
    have hend : ((Attempt.left (b.save true)).outcome none).NoFurther (b.outcome none) :=
      .of_same hsaved.problem.symm (congrArg State.book hsaved.state).symm
        (congrArg State.counts hsaved.state).symm
    exact (hend.trans hab.peers.noFurther).trans
      (ht.numeric.onward ht.peers.judges ht.fresh.1 ha hlater)

/-- What ends the tighter run with a fault ends the other with the same one. -/
theorem sameFault {v : Failed τ} (hy : h₀.begun.attempt m = some (.error v)) :
    ∃ n u, g₀.begun.attempt n = some (.error ⟨v.fault, u⟩) := by
  have hends := attempt_ends hy
  generalize hr : (.error v : Attempt τ) = y at hends
  cases hends with
  | unread hs => cases ht.fresh.2.symm.trans hs
  | @failed kind past b f hc hi =>
    cases hr
    obtain ⟨u, hu, _⟩ := ht.fails hc hi
    exact ⟨past.length, u, hu⟩
  | finished hc _ =>
    obtain ⟨a, _, hab⟩ := ht.course hc
    obtain ⟨w, hw, _⟩ := hab.saves.2.save true
    cases hr.trans hw

end Tightens

/-! ## The law -/

/-- Tighter criteria only cut a run short. Where the tighter run is after an
iteration, the other has been after the same states, at one that differs at most
in its status and in what its record tells of the end. The tighter run is over
wherever the other is, with no more iterations and evaluations and no lower best
cost; and it ends with an error only if the other ends with the same one. -/
theorem a_tighter_run_is_cut_short (ht : h₀.Tightens g₀) :
    (∀ past b, h₀.Course past b →
      ∃ a, g₀.Course past a ∧ a.executor.state.EndsLike b.executor.state) ∧
    (∀ n x, g₀.run n = .ok (some x) → ∃ y, h₀.run n = .ok (some y)) ∧
    (∀ m n x y, h₀.run m = .ok (some y) → g₀.run n = .ok (some x) → y.2.NoFurther x.2) ∧
    ∀ m y f, h₀.run m = .ok (some y) → y.2.error = some f →
      ∃ n x, g₀.run n = .ok (some x) ∧ x.2.error = some f := by
  have hg (n : Nat) := run_created ht.created.1 n
  have hh (n : Nat) := run_created ht.created.2 n
  have ended {g : Engine τ} {n : Nat} {x : Engine τ × Outcome τ} {name : String}
      (hx : (Except.ok ((g.begun.attempt n).map (concluded name)) :
        Except Fault (Option (Engine τ × Outcome τ))) = .ok (some x)) :
      ∃ r, g.begun.attempt n = some r ∧ concluded name r = x :=
    Option.map_eq_some_iff.mp (Except.ok.inj hx)
  refine ⟨fun past b hc => ?_, fun n x hx => ?_, fun m n x y hy hx => ?_, fun m y f hy hf => ?_⟩
  · obtain ⟨a, ha, hab⟩ := ht.course hc
    exact ⟨a, ha, hab.peers.state⟩
  · rw [hg] at hx
    obtain ⟨r, hr, _⟩ := ended hx
    obtain ⟨r', hr'⟩ := ht.ends hr
    refine ⟨concluded h₀.executor.runName r', ?_⟩
    rw [hh, hr']
    rfl
  · rw [hh] at hy
    rw [hg] at hx
    obtain ⟨r', hr', rfl⟩ := ended hy
    obtain ⟨r, hr, rfl⟩ := ended hx
    exact noFurther_concluded (ht.noFurther hr' hr) _ _
  · rw [hh] at hy
    obtain ⟨r, hr, rfl⟩ := ended hy
    rw [concluded_error] at hf
    cases r with
    | ok g => cases hf
    | error v =>
      obtain ⟨n, u, hu⟩ := ht.sameFault hr
      refine ⟨n, concluded g₀.executor.runName (.error ⟨v.fault, u⟩), ?_, hf⟩
      rw [hg, hu]
      rfl

/-- A replay under a lower limit is a tighter run. -/
theorem replay_tightens (flags : List Bool) {m n : Nat} (h : m ≤ n) (w w' : World Float) :
    (underLimit (Sample.replay flags) m none none w').Tightens
      (underLimit (Sample.replay flags) n none none w) := by
  have hflag (c : Value) (hc : (underLimit (Sample.replay flags) n none none w).ComesBy c) :
      ∃ b, c = .bool b := by
    cases hc with
    | start hb => cases hb
    | @call kind past g u r hc hr =>
      have hsolver : (g.enter kind).executor.solver = Sample.replay flags :=
        (enter_solver kind g).trans (hc.keeps rfl).1
      obtain ⟨c, hmem, hreturned⟩ := returned_of_sequence hsolver hr
      obtain ⟨b, _, rfl⟩ := List.mem_map.mp hmem
      exact ⟨b, by rw [hreturned]⟩
  have hstricter : Criteria.Stricter { Criteria.unset with maxIters := some m }
      { Criteria.unset with maxIters := some n } := by
    refine ⟨fun t ht => (nomatch ht), fun k hk => ?_, fun t ht => (nomatch ht),
      fun p hp => (nomatch hp), fun counter p hp => (nomatch hp)⟩
    cases hk
    exact ⟨m, h, rfl⟩
  refine ⟨⟨rfl, fun _ => ⟨none, rfl⟩, fun _ => rfl, rfl, rfl, hstricter.tightens, ⟨rfl, rfl⟩,
    ⟨rfl, rfl⟩⟩, ⟨rfl, rfl⟩, ⟨rfl, rfl⟩, ⟨no_policy_saves, no_policy_saves⟩, fun _ _ => ⟨_, rfl⟩,
    fun c hc => ?_, fun c d hc hd => ?_⟩
  · obtain ⟨b, rfl⟩ := hflag c hc
    exact .bool b
  · obtain ⟨b, rfl⟩ := hflag c hc
    obtain ⟨b', rfl⟩ := hflag d hd
    exact (Value.IsNumber.bool b).less (.bool b') rfl rfl

/-- The law for a replay under a limit of two and one of three. -/
theorem a_shorter_replay_is_cut_short :
    ∃ x y, (underLimit (Sample.replay [true, false]) 2 none none (.start 0)).run 2 =
        .ok (some y) ∧
      (underLimit (Sample.replay [true, false]) 3 none none (.start 0)).run 3 = .ok (some x) ∧
      y.2.iterations = 2 ∧ x.2.iterations = 3 ∧ y.2.NoFurther x.2 := by
  have hflags : [true, false] ≠ [] := List.cons_ne_nil _ _
  obtain ⟨x, hx, _, hlong, _⟩ := a_replay_ends_at_its_limit hflags 3 (.start 0)
  obtain ⟨y, hy, _, hshort, _⟩ := a_replay_ends_at_its_limit hflags 2 (.start 0)
  have hle : 2 ≤ 3 := by decide
  obtain ⟨_, _, hfurther, _⟩ := a_tighter_run_is_cut_short
    (replay_tightens [true, false] hle (.start 0) (.start 0))
  exact ⟨x, y, hy, hx, hshort, hlong, hfurther 2 3 x y hy hx⟩

end Engine

end Minimize
