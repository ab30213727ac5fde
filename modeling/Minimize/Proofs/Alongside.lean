-- Engines alongside each other, with solvers that are counterparts. Whatever the
-- solvers write into what is the engine's, the engine puts right before anything
-- is made of it: iteration by iteration the states match, the same is done, and
-- the same is saved.
import Mathlib.Data.List.Forall2
import Minimize.Proofs.Breaks
import Minimize.Proofs.Ownership

namespace Minimize

variable {τ : Type}

/-! ## Deeds -/

namespace Event

/-- Whether an event tells of what a run does, and not of its name, of files that
an observer opened, or of its end. -/
def isDeed : Event τ → Bool
  | .started _ => false
  | .opened _ => false
  | .finishing _ => false
  | .finishFailed _ => false
  | .failed _ _ _ => false
  | .ended _ _ _ _ => false
  | _ => true

/-- Events that are the same, or that complete states that match. -/
inductive Matches : Event τ → Event τ → Prop
  | completed {s t : State τ} (h : s.Matches t) : Matches (.completed s) (.completed t)
  | same (e : Event τ) : Matches e e

theorem isDeed_of_ends {e : Event τ} (h : e.ends = true) : e.isDeed = false := by
  cases e <;> first | rfl | cases h

theorem Matches.isDeed {e e' : Event τ} (h : e.Matches e') : e'.isDeed = e.isDeed := by
  cases h <;> rfl

end Event

namespace World

/-- What was done, in order. -/
def deeds (w : World τ) : List (Event τ) := w.history.filter Event.isDeed

theorem deeds_note (w : World τ) (e : Event τ) :
    (w.note e).deeds = w.deeds ++ if e.isDeed then [e] else [] := by
  unfold deeds
  rw [history_note, List.filter_append, List.filter_singleton, Bool.cond_eq_ite]

theorem Follows.deeds {w w' : World τ} (h : w.Follows (·.ends = true) w') : w'.deeds = w.deeds := by
  obtain ⟨es, hes, hends⟩ := h.toGrows.history
  unfold World.deeds
  rw [hes, List.filter_append, List.filter_eq_nil_iff (l := es) |>.mpr, List.append_nil]
  intro e he
  rw [Event.isDeed_of_ends (hends e he)]
  exact Bool.false_ne_true

/-! ## Worlds alongside -/

/-- Worlds of two runs alongside: nothing can tell them apart but their stores,
and these are related; and what was done in them matches. -/
structure Alongside (C : String → Cabinet τ → Cabinet τ → Prop) (w w' : World τ) : Prop where
  clock : w'.clock = w.clock
  signals : w'.signals = w.signals
  outlets : w'.outlets = w.outlets
  cabinets : ∀ name, C name (w.cabinet name) (w'.cabinet name)
  deeds : List.Forall₂ Event.Matches w.deeds w'.deeds

variable {C : String → Cabinet τ → Cabinet τ → Prop} {w w' : World τ}

theorem cabinet_putCabinet_ne (w : World τ) (c : Cabinet τ) {name name' : String}
    (h : name' ≠ name) : (w.putCabinet name c).cabinet name' = w.cabinet name' := by
  unfold putCabinet cabinet
  rw [Table.get?_insert_ne _ _ h]

namespace Alongside

variable (h : w.Alongside C w')
include h

theorem note {e e' : Event τ} (he : e.Matches e') : (w.note e).Alongside C (w'.note e') := by
  refine ⟨h.clock, h.signals, h.outlets, h.cabinets, ?_⟩
  rw [deeds_note, deeds_note, he.isDeed]
  refine List.rel_append h.deeds ?_
  split
  · exact .cons he .nil
  · exact .nil

/-- What is no deed may differ. -/
theorem aside {e e' : Event τ} (he : e.isDeed = false) (he' : e'.isDeed = false) :
    (w.note e).Alongside C (w'.note e') := by
  refine ⟨h.clock, h.signals, h.outlets, h.cabinets, ?_⟩
  rw [deeds_note, deeds_note, he, he']
  exact List.rel_append h.deeds .nil

theorem raise (name : String) : (w.raise name).Alongside C (w'.raise name) := by
  have hsignals : (w'.raise name).signals = (w.raise name).signals := by
    unfold World.raise
    rw [h.signals]
  exact ⟨h.clock, hsignals, h.outlets, h.cabinets, h.deeds⟩

theorem wait [Clock τ] (d : τ) : (w.wait d).Alongside C (w'.wait d) :=
  ⟨congrArg (Clock.add · d) h.clock, h.signals, h.outlets, h.cabinets, h.deeds⟩

theorem foldl {α : Type} {f : World τ → α → World τ}
    (hf : ∀ {w w' : World τ} (a : α), w.Alongside C w' → (f w a).Alongside C (f w' a))
    (as : List α) : (as.foldl f w).Alongside C (as.foldl f w') := by
  induction as generalizing w w' with
  | nil => exact h
  | cons a as ih => exact ih (hf a h)

theorem after (r : Reaction) : (w.after r).Alongside C (w'.after r) := by
  have houtlets : ({ w with outlets := r.outlets } : World τ).Alongside C
      { w' with outlets := r.outlets } := ⟨h.clock, h.signals, rfl, h.cabinets, h.deeds⟩
  exact (houtlets.foldl (fun name hw => hw.raise name) r.raised).foldl
    (fun path hw => hw.note (.same (.opened path))) r.opened

theorem putCabinet {name : String} {c d : Cabinet τ} (hc : C name c d) :
    (w.putCabinet name c).Alongside C (w'.putCabinet name d) := by
  refine ⟨h.clock, h.signals, h.outlets, fun name' => ?_, h.deeds⟩
  by_cases hn : name' = name
  · subst hn
    rw [Engine.cabinet_putCabinet, Engine.cabinet_putCabinet]
    exact hc
  · rw [cabinet_putCabinet_ne _ _ hn, cabinet_putCabinet_ne _ _ hn]
    exact h.cabinets name'

/-- A word goes round the observers of both runs alike. -/
theorem say (m : Word τ) (entries : List (String × Registered τ)) (fs : List Fault) :
    (entries.foldl m.say (w, fs)).1.Alongside C (entries.foldl m.say (w', fs)).1 ∧
      (entries.foldl m.say (w', fs)).2 = (entries.foldl m.say (w, fs)).2 := by
  induction entries generalizing w w' fs with
  | nil => exact ⟨h, rfl⟩
  | cons e entries ih =>
    rw [List.foldl_cons, List.foldl_cons]
    cases hm : m.hook e with
    | none =>
      simp only [Word.say, hm]
      exact ih h fs
    | some hook =>
      have hcall := (h.note (.same (m.told e.1))).after (hook w.outlets)
      have hoil : (w'.note (m.told e.1)).outlets = w.outlets := h.outlets
      simp only [Word.say, hm, World.call, hoil, outlets_note]
      cases (hook w.outlets).failure with
      | none => exact ih hcall fs
      | some f => exact ih (hcall.note (.same _)) _

end Alongside

end World

variable [Clock τ] {x y : Solver τ} {C : String → Cabinet τ → Cabinet τ → Prop}

/-- Calls of counterparts, run on one problem in worlds alongside, end with
answers of counterparts, leave the problem the same, and change the best points that
are kept alike. -/
theorem Call.Counterparts.run {named : Prop} {kind : CallKind} {a b : Call τ}
    (h : a.Counterparts named kind b) (p : Problem) {w w' : World τ} (hw : w.Alongside C w') :
    (b.run p w').problem = (a.run p w).problem ∧
      (a.run p w).answer.Counterparts named kind (a.run p w).left (b.run p w').left
        (b.run p w').answer ∧
      (a.run p w).world.Alongside C (b.run p w').world ∧
      ∀ book : Bookkeeping τ,
        book.afterAll (b.run p w').changes = book.afterAll (a.run p w).changes := by
  have hspares {c : Change} (hc : ∀ u : UserProblem, c.Spares u) (p : Problem) : p.after c = p :=
    hc p.user p.counts
  induction h generalizing p w w' with
  | done h => exact ⟨rfl, h, hw, fun _ => rfl⟩
  | @evaluate c args next next' _ ih =>
    simp only [Call.run]
    cases p.supports c with
    | true => exact ih _ _ _ (hw.note (.same _))
    | false => exact ih _ _ _ hw
  | @change c next next' _ ih =>
    obtain ⟨hproblem, hanswer, hworld, hbook⟩ := ih (p.after c) hw
    exact ⟨hproblem, hanswer, hworld, fun book => hbook (book.after c)⟩
  | @mine c next next' hc hb _ ih =>
    obtain ⟨hproblem, hanswer, hworld, hbook⟩ := ih p hw
    simp only [Call.run, hspares hc p]
    refine ⟨hproblem, hanswer, hworld, fun book => (hbook book).trans ?_⟩
    exact (Bookkeeping.afterAll_cons_of_sparesBest hb).symm
  | @yours c next next' hc hb _ ih =>
    obtain ⟨hproblem, hanswer, hworld, hbook⟩ := ih p hw
    simp only [Call.run, hspares hc p]
    refine ⟨hproblem, hanswer, hworld, fun book => Eq.trans ?_ (hbook book)⟩
    exact Bookkeeping.afterAll_cons_of_sparesBest hb
  | wait _ ih => exact ih p (hw.wait _)
  | raise _ ih => exact ih p (hw.raise _)

namespace Engine

/-! ## Engines alongside -/

/-- The engine with another solver, in another state, and in another world. -/
def instead (g : Engine τ) (x : Solver τ) (s : State τ) (handed : Option (State τ))
    (w : World τ) : Engine τ :=
  ⟨{ g.executor with solver := x, state := s, handed := handed }, w⟩

/-- Where an engine stands: its solver and its state. -/
def standing (g : Engine τ) : Snapshot τ := ⟨g.executor.solver, g.executor.state⟩

/-- Engines of two runs alongside: they differ in where they stand and in their
worlds, and both are related. Their store treats the solvers alike. -/
inductive Alongside (x y : Solver τ) (C : String → Cabinet τ → Cabinet τ → Prop)
    (R : Snapshot τ → Snapshot τ → Prop) (g : Engine τ) : Engine τ → Prop
  | alongside {z : Solver τ} {s : State τ} {handed : Option (State τ)} {w : World τ}
      (stores : ∀ p, g.executor.policy = some p →
        p.store.Impartial p.key x y (C p.cabinet))
      (standing : R g.standing ⟨z, s⟩) (world : g.world.Alongside C w) :
      Alongside x y C R g (g.instead z s handed w)

variable {R R' : Snapshot τ → Snapshot τ → Prop} {Q : State τ → State τ → Prop}
  {g g' h h' u v g₀ h₀ : Engine τ} {kind : CallKind} {started : τ} {past past' : List (State τ)}

namespace Alongside

omit [Clock τ] in
theorem mono (ha : g.Alongside x y C R h) (hR : ∀ a b, R a b → R' a b) :
    g.Alongside x y C R' h := by
  obtain ⟨stores, standing, world⟩ := ha
  exact .alongside stores (hR _ _ standing) world

omit [Clock τ] in
theorem related (ha : g.Alongside x y C R h) : R g.standing h.standing := by
  obtain ⟨_, standing, _⟩ := ha
  exact standing

omit [Clock τ] in
theorem worlds (ha : g.Alongside x y C R h) : g.world.Alongside C h.world := by
  obtain ⟨_, _, world⟩ := ha
  exact world

theorem asked (hxy : x.Counterparts y) (ha : g.Alongside x y C (Snapshot.Paired x y State.Matches) h)
    (kind : CallKind) :
    (h.asked kind).problem = (g.asked kind).problem ∧
      (g.asked kind).answer.Counterparts (x.displayName = y.displayName) kind (g.asked kind).left
        (h.asked kind).left (h.asked kind).answer ∧
      (g.asked kind).world.Alongside C (h.asked kind).world ∧ h.kept kind = g.kept kind := by
  obtain @⟨z, s, handed, w, stores, standing, world⟩ := ha
  have hx : g.executor.solver = x := standing.mine
  have hz : z = y := standing.yours
  have hs : g.executor.state.Matches s := standing.state
  have hnote : (g.world.note (.called kind g.executor.state.book.iteration)).Alongside C
      (w.note (.called kind s.book.iteration)) := by
    rw [hs.book]
    exact world.note (.same _)
  subst hx hz
  obtain ⟨hproblem, hanswer, hworld, hbook⟩ :=
    (hxy.calls kind _ _ hs).run g.executor.problem hnote
  refine ⟨hproblem, hanswer, hworld, ?_⟩
  unfold Engine.kept
  have hsame : s.book = g.executor.state.book := hs.book.symm
  show s.book.afterAll _ = _
  rw [hsame]
  exact hbook g.executor.state.book

theorem consult (hxy : x.Counterparts y)
    (ha : g.Alongside x y C (Snapshot.Paired x y State.Matches) h) (kind : CallKind) :
    Attempt.Both (fun a b => a.1.Alongside x y C (Snapshot.Paired x y fun _ _ => True) b.1 ∧
      a.2.Counterparts kind b.2) (Alongside x y C (Snapshot.Paired x y State.Matches))
      (g.consult kind) (h.consult kind) := by
  obtain ⟨hproblem, hanswer, hworld, _⟩ := ha.asked hxy kind
  obtain @⟨z, s, handed, w, stores, standing, world⟩ := ha
  have hx : g.executor.solver = x := standing.mine
  have hz : z = y := standing.yours
  subst hx hz
  unfold Engine.consult
  dsimp only
  rw [hproblem]
  rcases hanswer.returned with ⟨f, hf, hf'⟩ | ⟨r, r', hr, hr', hreturned⟩
  · rw [hf]
    dsimp only [instead] at hf' ⊢
    rw [hf']
    exact .error (.alongside stores standing hworld)
  · rw [hr]
    dsimp only [instead] at hr' ⊢
    rw [hr']
    exact .ok ⟨.alongside stores ⟨rfl, rfl, trivial⟩ hworld, hreturned⟩

/-- What the engine carries into the states that came back makes them match, but
for their records. -/
theorem carried {r r' : Returned τ} {before before' : State τ} (ha : g.Alongside x y C R h)
    (hr : r.Counterparts kind r') (hb : before.Matches before') (book : Bookkeeping τ) (i : Int)
    (started : τ) :
    (g.carried (r.placed kind before).state book i started).MatchesButRecord
      (h.carried (r'.placed kind before').state book i started) := by
  obtain @⟨z, s, handed, w, _, _, world⟩ := ha
  have helapsed (t : τ) : (g.instead z s handed w).elapsed t started = g.elapsed t started := by
    unfold Engine.elapsed instead
    dsimp only
    rw [world.clock]
  unfold Engine.carried
  rw [helapsed]
  cases kind with
  | opening =>
    exact hr.state.alter
      (fun t => { t with
        book := { book with iteration := i, elapsed := g.elapsed book.elapsed started }
        counts := g.executor.problem.counts.toTable })
      (fun _ => ⟨rfl, rfl⟩) (fun _ => rfl) fun _ => rfl
  | step =>
    unfold Returned.placed Returned.behind
    dsimp only
    rw [← hb.param, ← hb.cost]
    exact hr.state.alter
      (fun t => { t with
        prevParam := before.param
        prevCost := before.cost
        book := { book with iteration := i, elapsed := g.elapsed book.elapsed started }
        counts := g.executor.problem.counts.toTable })
      (fun _ => ⟨rfl, rfl⟩) (fun _ => rfl) fun _ => rfl

/-- States that cannot be taken over still match but for their records if both
were changed in place. -/
theorem merge {r r' : Returned τ} {before before' : State τ}
    (ha : g.Alongside x y C (Snapshot.Paired x y fun _ _ => True) h)
    (hr : r.Counterparts kind r') (hb : before.Matches before') (book : Bookkeeping τ) (i : Int)
    (started : τ) :
    Attempt.Both (Alongside x y C (Snapshot.Paired x y State.MatchesButRecord))
      (fun u v => u.Alongside x y C (Snapshot.Paired x y State.MatchesButRecord) v ∨
        ((∃ e, (g.carried (r.placed kind before).state book i started).recordBest =
          .error e) ∧ (r.inPlace = false ∨ r'.inPlace = false) ∧
          u.Alongside x y C (Snapshot.Paired x y fun _ _ => True) v))
      (g.merge (r.placed kind before) book i started)
      (h.merge (r'.placed kind before') book i started) := by
  have hcarried := ha.carried hr hb book i started
  obtain ⟨stores, standing, world⟩ := ha
  unfold Engine.merge
  dsimp only
  rw [placed_inPlace, placed_inPlace]
  rcases hcarried.recordBest with ⟨e, hg, hh⟩ | ⟨s, t, improved, hg, hh, hst⟩
  · rw [hg, hh]
    cases r.inPlace with
    | false =>
      cases r'.inPlace <;>
        exact .error (.inr ⟨⟨e, rfl⟩, .inl rfl,
          .alongside stores ⟨standing.mine, standing.yours, trivial⟩ world⟩)
    | true =>
      cases r'.inPlace with
      | false =>
        exact .error (.inr ⟨⟨e, rfl⟩, .inr rfl,
          .alongside stores ⟨standing.mine, standing.yours, trivial⟩ world⟩)
      | true =>
        exact .error (.inl (.alongside stores ⟨standing.mine, standing.yours, hcarried⟩ world))
  · rw [hg, hh]
    cases r.inPlace <;> cases r'.inPlace <;>
      exact .ok (.alongside stores ⟨standing.mine, standing.yours, hst⟩ world)

omit [Clock τ] in
theorem enter (ha : g.Alongside x y C (Snapshot.Paired x y State.Matches) h) (kind : CallKind) :
    (g.enter kind).Alongside x y C (Snapshot.Paired x y State.Matches) (h.enter kind) := by
  obtain @⟨z, s, handed, w, stores, standing, world⟩ := ha
  have hbook : s.book = g.executor.state.book := standing.state.book.symm
  cases kind with
  | opening =>
    unfold Engine.enter instead
    dsimp only
    rw [hbook]
    exact .alongside stores standing world
  | step => exact .alongside stores standing world

omit [Clock τ] in
theorem aborted (ha : g.Alongside x y C R h) : h.aborted = g.aborted := by
  obtain ⟨_, _, world⟩ := ha
  unfold Engine.aborted instead World.isRaised
  dsimp only
  rw [world.signals]

theorem questioned (hxy : x.Counterparts y)
    (ha : g.Alongside x y C (Snapshot.Paired x y State.MatchesButRecord) h) :
    g.questioned.MatchesButRecord h.questioned := by
  have haborted := ha.aborted
  obtain @⟨z, s, handed, w, stores, standing, world⟩ := ha
  have hx : g.executor.solver = x := standing.mine
  have hz : z = y := standing.yours
  have hs : g.executor.state.MatchesButRecord s := standing.state
  unfold Engine.questioned
  rw [haborted]
  dsimp only [instead]
  rw [← hs.firing]
  split
  · rw [hx, hz]
    exact hxy.revised _ _ hs
  · exact hs

theorem judge (hxy : x.Counterparts y)
    (ha : g.Alongside x y C (Snapshot.Paired x y State.MatchesButRecord) h) :
    Attempt.Both (Alongside x y C (Snapshot.Paired x y State.MatchesButRecord))
      (Alongside x y C (Snapshot.Paired x y State.MatchesButRecord)) g.judge h.judge := by
  have haborted := ha.aborted
  have hquestioned := ha.questioned hxy
  obtain @⟨z, s, handed, w, stores, standing, world⟩ := ha
  have hx : g.executor.solver = x := standing.mine
  have hz : z = y := standing.yours
  have hs : g.executor.state.MatchesButRecord s := standing.state
  have hcheck : checkTermination g.executor.settings.criteria (some z.terminateEarly) g.aborted s =
      checkTermination g.executor.settings.criteria (some g.executor.solver.terminateEarly)
        g.aborted g.executor.state := by
    unfold checkTermination
    simp only [hs.firing, hx, hz, hxy.early _ _ hs]
  unfold Engine.judge
  rw [haborted]
  generalize g.questioned = a at hquestioned ⊢
  generalize (g.instead z s handed w).questioned = b at hquestioned ⊢
  dsimp only [instead]
  rw [hcheck, ← hs.terminated]
  split
  · exact .ok (.alongside stores standing world)
  · split
    · exact .error (.alongside stores ⟨hx, hz, hquestioned⟩ world)
    · exact .ok (.alongside stores ⟨hx, hz, hquestioned⟩ world)
    · rcases hquestioned.terminateWith _ with ⟨f, ha, hb⟩ | ⟨a', b', ha, hb, hab⟩
      · rw [ha, hb]
        exact .error (.alongside stores ⟨hx, hz, hquestioned⟩ world)
      · rw [ha, hb]
        exact .ok (.alongside stores ⟨hx, hz, hab⟩ world)

/-- With the record, states match that matched but for it. -/
theorem complete (ha : g.Alongside x y C (Snapshot.Paired x y State.MatchesButRecord) h)
    (record : Option Record) :
    Attempt.Both (Alongside x y C (Snapshot.Paired x y State.Matches))
      (Alongside x y C (Snapshot.Paired x y State.MatchesButRecord)) (g.complete record)
      (h.complete record) := by
  obtain @⟨z, s, handed, w, stores, standing, world⟩ := ha
  have hs : g.executor.state.MatchesButRecord s := standing.state
  unfold Engine.complete instead
  dsimp only
  rw [← hs.summary]
  split
  · exact .error (.alongside stores standing world)
  · rename_i standard _
    have hrecord : fullRecord standard record g.executor.state.status =
        fullRecord standard record s.status := by rw [hs.status]
    have hnoted := hs.noted (fullRecord standard record s.status)
    rw [hrecord]
    exact .ok (.alongside stores ⟨standing.mine, standing.yours, hnoted⟩
      (world.note (.completed hnoted)))

omit [Clock τ] in
theorem save (ha : g.Alongside x y C (Snapshot.Paired x y State.Matches) h) (final : Bool) :
    Attempt.Both (Alongside x y C (Snapshot.Paired x y State.Matches))
      (Alongside x y C (Snapshot.Paired x y State.Matches)) (g.save final) (h.save final) := by
  obtain @⟨z, s, handed, w, stores, standing, world⟩ := ha
  have hx : g.executor.solver = x := standing.mine
  have hz : z = y := standing.yours
  have hs : g.executor.state.Matches s := standing.state
  subst hx hz
  cases hp : g.executor.policy with
  | none =>
    have hp' : (g.instead z s handed w).executor.policy = none := hp
    unfold Engine.save
    rw [hp, hp']
    exact .ok (.alongside stores standing world)
  | some p =>
    have hp' : (g.instead z s handed w).executor.policy = some p := hp
    have himpartial := stores p hp
    have hlater (i : Int) : ∀ q, some { p with lastAttempted := some i } = some q →
        q.store.Impartial q.key g.executor.solver z (C q.cabinet) := by
      intro q hq
      cases hq
      exact himpartial
    have hsaved : Event.Matches (.saved p.key g.executor.state.book.iteration : Event τ)
        (.saved p.key s.book.iteration) := by
      rw [hs.book]
      exact .same _
    rw [save_eq hp, save_eq hp']
    unfold Policy.maybeSave
    dsimp only [instead]
    rw [← hs.book]
    cases hd : p.isDue g.executor.state.book.iteration final with
    | false =>
      simp only [Bool.false_eq_true, if_false]
      exact .ok (.alongside (hp ▸ stores) standing (world.putCabinet (world.cabinets p.cabinet)))
    | true =>
      have hnote := world.note (.same (.attempted p.key g.executor.state.book.iteration))
      obtain ⟨c, d, r, hsave, hsave', hcd⟩ :=
        himpartial.saves _ _ _ _ (hnote.cabinets p.cabinet) hs
      simp only [if_true, hsave, hsave']
      have hput := hnote.putCabinet hcd
      cases r with
      | ok _ => exact .ok (.alongside (hlater _) standing (hput.note hsaved))
      | error f =>
        unfold afterSave
        dsimp only
        split
        · exact .error (.alongside (hlater _) standing hput)
        · exact .ok (.alongside (hlater _) standing (hput.note (.same _)))

omit [Clock τ] in
theorem dispatch (ha : g.Alongside x y C (Snapshot.Paired x y State.Matches) h) :
    g.dispatch.Alongside x y C (Snapshot.Paired x y State.Matches) h.dispatch := by
  obtain @⟨z, s, handed, w, stores, standing, world⟩ := ha
  have hs : g.executor.state.Matches s := standing.state
  obtain ⟨hworld, htroubles⟩ := world.say (Word.iteration g.executor.state.record
    g.executor.state.book.iteration g.executor.improved) g.executor.observers.entries []
  unfold Engine.dispatch
  dsimp only [instead]
  rw [← hs.record, ← hs.book, Registry.dispatch_eq, Registry.dispatch_eq, htroubles]
  exact .alongside stores standing hworld

end Alongside

/-! ## Iterations -/

/-- The cost of the state that a call hands back cannot be held against the best
so far; and it, or that of the run alongside, is another state than was given. -/
def Spoilt (kind : CallKind) (started : τ) (e : Slip) (g h : Engine τ) : Prop :=
  ∃ u r v r', (g.enter kind).consult kind = .ok (u, r) ∧
    (h.enter kind).consult kind = .ok (v, r') ∧ (r.inPlace = false ∨ r'.inPlace = false) ∧
    (u.carried (r.placed kind g.executor.state).state (g.kept kind)
      (kind.target g.executor.state.book.iteration) started).recordBest = .error e

/-- How runs alongside fail: at states that match; late, where the states were
carried on but have no record yet; or, if a cost cannot be compared, wherever the
solvers left the states that they were given. -/
inductive FailAlongside (x y : Solver τ) (C : String → Cabinet τ → Cabinet τ → Prop)
    (spoilt : Prop) (u v : Engine τ) : Prop
  | whole (h : u.Alongside x y C (fun a b => a.state.Matches b.state) v)
  | late (h : u.Alongside x y C (fun a b => a.state.MatchesButRecord b.state) v)
  | spoilt (hs : spoilt) (h : u.Alongside x y C (fun _ _ => True) v)

omit [Clock τ] in
theorem FailAlongside.imp {p q : Prop} (hf : FailAlongside x y C p u v) (hpq : p → q) :
    FailAlongside x y C q u v := by
  cases hf with
  | whole ha => exact .whole ha
  | late ha => exact .late ha
  | spoilt hp ha => exact .spoilt (hpq hp) ha

namespace Alongside

omit [Clock τ] in
theorem fails {spoilt : Prop} (ha : u.Alongside x y C (Snapshot.Paired x y State.Matches) v) :
    FailAlongside x y C spoilt u v := .whole (ha.mono fun _ _ hp => hp.state)

omit [Clock τ] in
theorem failsLate {spoilt : Prop}
    (ha : u.Alongside x y C (Snapshot.Paired x y State.MatchesButRecord) v) :
    FailAlongside x y C spoilt u v := .late (ha.mono fun _ _ hp => hp.state)

/-- Counterparts take over states that match but for their records. -/
theorem take (hxy : x.Counterparts y)
    (ha : g.Alongside x y C (Snapshot.Paired x y State.Matches) h) (kind : CallKind) (started : τ) :
    Attempt.Both (fun a b => a.1.Alongside x y C (Snapshot.Paired x y State.MatchesButRecord) b.1 ∧
      b.2 = a.2) (FailAlongside x y C (∃ e, g.Spoilt kind started e h))
      ((g.enter kind).take kind started) ((h.enter kind).take kind started) := by
  have hs : g.executor.state.Matches h.executor.state := ha.related.state
  have hbook : g.executor.state.book.iteration = h.executor.state.book.iteration := by
    rw [hs.book]
  unfold Engine.take
  refine (((ha.enter kind).consult hxy kind).mono (fun _ _ => id) fun _ _ hu => hu.fails).bind
    fun a b hga hhb hab => ?_
  have hkept : h.kept kind = g.kept kind := (ha.asked hxy kind).2.2.2
  rw [enter_state, enter_state, enter_kept, enter_kept, hkept, ← hbook]
  refine ((hab.1.merge hab.2 hs (g.kept kind) _ started).mono (fun _ _ => id) fun u v huv => ?_).bind
    fun u v _ _ huv => .ok ⟨huv, hab.2.record⟩
  rcases huv with huv | ⟨⟨e, he⟩, hother, huv⟩
  · exact huv.failsLate
  · exact .spoilt ⟨e, _, _, _, _, hga, hhb, hother, he⟩ (huv.mono fun _ _ _ => trivial)

/-- Counterparts complete an iteration with states that match. -/
theorem advance (hxy : x.Counterparts y)
    (ha : g.Alongside x y C (Snapshot.Paired x y State.Matches) h) (kind : CallKind) (started : τ) :
    Attempt.Both (Alongside x y C (Snapshot.Paired x y State.Matches))
      (FailAlongside x y C (∃ e, g.Spoilt kind started e h)) (g.advance kind started)
      (h.advance kind started) := by
  unfold Engine.advance
  refine (ha.take hxy kind started).bind fun a b _ _ hab => ?_
  refine ((hab.1.judge hxy).mono (fun _ _ => id) fun _ _ hu => hu.failsLate).bind
    fun u v _ _ huv => ?_
  rw [hab.2]
  exact (huv.complete a.2).mono (fun _ _ => id) fun _ _ hu => hu.failsLate

/-- Counterparts come out of an iteration at states that match, or fail alike. -/
theorem iterate (hxy : x.Counterparts y)
    (ha : g.Alongside x y C (Snapshot.Paired x y State.Matches) h) (kind : CallKind) (started : τ) :
    Attempt.Both (Alongside x y C (Snapshot.Paired x y State.Matches))
      (FailAlongside x y C (∃ e, g.Spoilt kind started e h)) (g.iterate kind started)
      (h.iterate kind started) := by
  rw [iterate_eq, iterate_eq]
  refine (ha.advance hxy kind started).bind fun u v _ _ huv => ?_
  refine ((huv.save false).mono (fun _ _ => id) fun _ _ hu => hu.fails).bind fun u' v' _ _ huv' => ?_
  exact .ok huv'.dispatch

end Alongside

end Engine

end Minimize
