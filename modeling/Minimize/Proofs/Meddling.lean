-- Runs by solvers that are counterparts. A solver may write what it likes into
-- what is the engine's, and may hand back whichever state it likes: the run comes
-- to the same states, records and saves, and ends alike; unless a cost cannot be
-- compared, for what is left then depends on which state the solver handed back.
-- Out of the engine's reach is what a solver does where it is not looked at: the
-- best points that are kept can be changed in place, and the state can be written
-- into when the solver is asked whether the run is to stop.
import Minimize.Proofs.Alongside
import Minimize.Proofs.Best

namespace Minimize

variable {τ : Type}

namespace Engine

variable [Clock τ] {x y : Solver τ} {C : String → Cabinet τ → Cabinet τ → Prop}
  {R : Snapshot τ → Snapshot τ → Prop} {g g' h h' u v g₀ h₀ : Engine τ} {kind : CallKind}
  {started : τ} {past past' : List (State τ)}

/-! ## Runs -/

namespace Alongside

omit [Clock τ] in
/-- What is stored for counterparts: it cannot be read in either run, for the
same failure; or there is nothing; or snapshots that match. -/
theorem stored (ha : g.Alongside x y C R h) :
    (∃ f, g.stored = .error f ∧ h.stored = .error f) ∨
    (g.stored = .ok none ∧ h.stored = .ok none) ∨
    ∃ a b, g.stored = .ok (some a) ∧ h.stored = .ok (some b) ∧ a.Paired x y State.Matches b := by
  obtain @⟨z, s, handed, w, stores, standing, world⟩ := ha
  unfold Engine.stored
  dsimp only [instead]
  cases hp : g.executor.policy with
  | none => exact .inr (.inl ⟨rfl, rfl⟩)
  | some p =>
    have himpartial := stores p hp
    have hc := world.cabinets p.cabinet
    have hholds := himpartial.holds _ _ hc
    have hloads := himpartial.loads _ _ hc
    dsimp only
    unfold Policy.load
    rw [hholds]
    cases p.resume with
    | false => exact .inr (.inl ⟨rfl, rfl⟩)
    | true =>
      cases p.store.holds (.text p.key) (g.world.cabinet p.cabinet) with
      | error f => exact .inl ⟨f, rfl, rfl⟩
      | ok there =>
        cases there with
        | false => exact .inr (.inl ⟨rfl, rfl⟩)
        | true =>
          generalize p.store.load (.text p.key) (g.world.cabinet p.cabinet) = c at hloads ⊢
          generalize p.store.load (.text p.key) (w.cabinet p.cabinet) = d at hloads ⊢
          cases hloads with
          | error f => exact .inl ⟨f, rfl, rfl⟩
          | @ok a b hab => exact .inr (.inr ⟨a, b, rfl, rfl, hab⟩)

omit [Clock τ] in
theorem begun (ha : g.Alongside x y C R h) : g.begun.Alongside x y C R h.begun := by
  obtain ⟨stores, standing, world⟩ := ha
  exact .alongside stores standing (world.aside rfl rfl)

omit [Clock τ] in
theorem settled (ha : g.Alongside x y C (fun a b => a.state.Matches b.state) h) :
    g.settled.Alongside x y C (fun a b => a.state.Matches b.state) h.settled := by
  obtain ⟨stores, standing, world⟩ := ha
  exact .alongside stores standing.settled world

omit [Clock τ] in
/-- Engines alongside at states that match, if their solvers are the two. -/
theorem paired (ha : g.Alongside x y C (fun a b => a.state.Matches b.state) h)
    (hx : g.executor.solver = x) (hy : h.executor.solver = y) :
    g.Alongside x y C (Snapshot.Paired x y State.Matches) h := by
  obtain ⟨stores, standing, world⟩ := ha
  exact .alongside stores ⟨hx, hy, standing⟩ world

omit [Clock τ] in
theorem noteLoaded {a b : Snapshot τ} (ha : g.Alongside x y C R h)
    (hab : a.Paired x y State.Matches b) :
    (g.noteLoaded a).Alongside x y C (fun _ _ => True) (h.noteLoaded b) := by
  obtain @⟨z, s, handed, w, stores, standing, world⟩ := ha
  have hbook : b.state.book = a.state.book := hab.state.book.symm
  unfold Engine.noteLoaded
  cases hp : g.executor.policy with
  | none =>
    have hp' : (g.instead z s handed w).executor.policy = none := hp
    rw [hp']
    exact .alongside stores trivial world
  | some p =>
    have hp' : (g.instead z s handed w).executor.policy = some p := hp
    have hloaded : p.loaded (some b) = p.loaded (some a) := by
      unfold Policy.loaded
      dsimp only
      rw [hbook]
    rw [hp']
    dsimp only
    rw [hloaded, hbook]
    refine .alongside (fun q hq => ?_) trivial (world.note (.same _))
    cases hq
    exact stores p hp

omit [Clock τ] in
/-- Runs that go on from snapshots that match do so at states that match. -/
theorem resume {a b : Snapshot τ} (ha : g.Alongside x y C R h)
    (hab : a.Paired x y State.Matches b) :
    (g.resume a).Alongside x y C (Snapshot.Paired x y State.Matches) (h.resume b) := by
  obtain @⟨z, s, handed, w, stores, standing, world⟩ := ha
  have hstate := (hab.state.renumbered g.executor.state.sharing.next s.sharing.next).settled
  have hignored := world.foldl (fun n hw => hw.note (.same (.ignoredCounter n)))
    (ignoredNames a.state.counts)
  unfold Engine.resume
  dsimp only [instead]
  rw [← hab.state.counts, ← hab.state.book, ← hab.state.status]
  split
  · exact .alongside stores ⟨hab.mine, hab.yours, hstate.withStatus .running⟩
      (hignored.note (.same _))
  · exact .alongside stores ⟨hab.mine, hab.yours, hstate⟩ hignored

theorem start (hxy : x.Counterparts y)
    (ha : g.Alongside x y C (fun a b => a.state.Matches b.state) h)
    (hs : g.stored = .ok none → g.executor.solver = x ∧ h.executor.solver = y) (started : τ) :
    Attempt.Both (Alongside x y C (Snapshot.Paired x y State.Matches))
      (FailAlongside x y C ((g.stored = .ok none ∧ h.stored = .ok none) ∧
        ∃ e, g.settled.Spoilt .opening started e h.settled))
      (g.start started) (h.start started) := by
  unfold Engine.start
  rcases ha.stored with ⟨f, hg, hh⟩ | ⟨hg, hh⟩ | ⟨a, b, hg, hh, hab⟩
  · rw [hg, hh]
    exact .error (.whole ha)
  · rw [hg, hh]
    obtain ⟨hx, hy⟩ := hs hg
    exact ((ha.settled.paired hx hy).iterate hxy .opening started).mono (fun _ _ => id)
      fun _ _ huv => huv.imp fun hspoilt => ⟨⟨rfl, rfl⟩, hspoilt⟩
  · rw [hg, hh]
    exact .ok ((ha.settled.noteLoaded hab).resume hab)

end Alongside

/-- A call of a run hands back a state whose cost cannot be compared; and it, or
that of the run alongside, hands back another state than it was given. -/
def Spoils (g₀ : Engine τ) (e : Slip) (h₀ : Engine τ) : Prop :=
  ∃ kind past g past' h, g₀.ComesTo kind past g ∧ h₀.ComesTo kind past' h ∧
    g.Spoilt kind g₀.world.clock e h

/-- A run that is spoilt ends by that. -/
theorem Spoils.ends {e : Slip} {limit : Nat} {f : Fault} (hs : g₀.Spoils e h₀)
    (hr : g₀.begun.attempt limit = some (.error ⟨f, u⟩)) : f = .slip e := by
  obtain ⟨kind, past, g, past', h, hc, _, v, r, _, _, hcall, _, _, hrec⟩ := hs
  obtain ⟨n, w, hn, _⟩ := (BrokenOff.iteration hc (.cost hcall hrec)).attempt
  cases attempt_agree hr hn
  rfl

namespace Alongside

/-- Every engine that a run comes to has one alongside that the run of its
counterpart comes to. -/
theorem course (hxy : x.Counterparts y)
    (ha : g₀.Alongside x y C (fun a b => a.state.Matches b.state) h₀)
    (hs : g₀.stored = .ok none → g₀.executor.solver = x ∧ h₀.executor.solver = y)
    (hc : g₀.Course past g) :
    ∃ past' h, h₀.Course past' h ∧ List.Forall₂ State.Matches past past' ∧
      g.Alongside x y C (Snapshot.Paired x y State.Matches) h := by
  have hclock : h₀.world.clock = g₀.world.clock := ha.worlds.clock
  induction hc with
  | @start g hstart =>
    have hboth := ha.begun.start hxy hs g₀.world.clock
    rw [hstart] at hboth
    generalize hh : h₀.begun.start g₀.world.clock = z at hboth
    cases hboth with
    | ok hgh => exact ⟨[], _, .start (hclock ▸ hh), .nil, hgh⟩
  | @step past g g' hc hr hi ih =>
    obtain ⟨past', h, hc', hpast, hgh⟩ := ih
    have hst : g.executor.state.Matches h.executor.state := hgh.related.state
    have hboth := hgh.iterate hxy .step g₀.world.clock
    rw [hi] at hboth
    generalize hh : h.iterate .step g₀.world.clock = z at hboth
    cases hboth with
    | ok hgh' =>
      exact ⟨_, _, .step hc' (hst.terminated ▸ hr) (hclock ▸ hh),
        List.rel_append hpast (.cons hst .nil), hgh'⟩

/-- What runs of counterparts come to: neither has ended, or both have succeeded
or failed alike. -/
inductive ComeTo (x y : Solver τ) (C : String → Cabinet τ → Cabinet τ → Prop) (g₀ h₀ : Engine τ) :
    Option (Attempt τ) → Option (Attempt τ) → Prop
  | going : ComeTo x y C g₀ h₀ none none
  | ended {a b : Attempt τ}
      (h : Attempt.Both (Alongside x y C (Snapshot.Paired x y State.Matches))
        (FailAlongside x y C (∃ e, g₀.Spoils e h₀)) a b) : ComeTo x y C g₀ h₀ (some a) (some b)

theorem finished (ha : g.Alongside x y C (Snapshot.Paired x y State.Matches) h)
    (hr : g.executor.state.terminated = true) (limit : Nat) :
    ComeTo x y C g₀ h₀ (g.onward started limit) (h.onward started limit) := by
  have hr' := ha.related.state.terminated.symm.trans hr
  rw [onward_terminated _ _ hr, onward_terminated _ _ hr']
  exact .ended ((ha.save true).mono (fun _ _ => id) fun _ _ hu => hu.fails)

/-- Runs of counterparts go on alike. -/
theorem onward (hxy : x.Counterparts y) (hclock : h₀.world.clock = g₀.world.clock)
    (hc : g₀.Course past g) (hc' : h₀.Course past' h)
    (ha : g.Alongside x y C (Snapshot.Paired x y State.Matches) h) (limit : Nat) :
    ComeTo x y C g₀ h₀ (g.onward g₀.world.clock limit) (h.onward g₀.world.clock limit) := by
  induction limit generalizing past past' g h with
  | zero =>
    have hst := ha.related.state.terminated
    cases hr : g.executor.state.terminated with
    | true => exact ha.finished hr _
    | false =>
      rw [onward_zero _ hr, onward_zero _ (hst.symm.trans hr)]
      exact .going
  | succ limit ih =>
    have hst := ha.related.state.terminated
    cases hr : g.executor.state.terminated with
    | true => exact ha.finished hr _
    | false =>
      have hr' := hst.symm.trans hr
      rw [onward_step _ _ hr, onward_step _ _ hr']
      have hboth := ha.iterate hxy .step g₀.world.clock
      cases hi : g.iterate .step g₀.world.clock with
      | ok g' =>
        rw [hi] at hboth
        generalize hi' : h.iterate .step g₀.world.clock = z at hboth ⊢
        cases hboth with
        | ok hgh => exact ih (.step hc hr hi) (.step hc' hr' (hclock ▸ hi')) hgh
      | error u =>
        rw [hi] at hboth
        generalize h.iterate .step g₀.world.clock = z at hboth ⊢
        cases hboth with
        | error huv =>
          refine .ended (.error (huv.imp ?_))
          rintro ⟨e, he⟩
          exact ⟨e, _, _, _, _, _, .step hc hr, .step hc' hr', he⟩

theorem attempt (hxy : x.Counterparts y)
    (ha : g₀.Alongside x y C (fun a b => a.state.Matches b.state) h₀)
    (hs : g₀.stored = .ok none → g₀.executor.solver = x ∧ h₀.executor.solver = y) (limit : Nat) :
    ComeTo x y C g₀ h₀ (g₀.begun.attempt limit) (h₀.begun.attempt limit) := by
  have hclock : h₀.world.clock = g₀.world.clock := ha.worlds.clock
  have hclock₀ : g₀.begun.world.clock = g₀.world.clock := rfl
  have hclock' : h₀.begun.world.clock = g₀.world.clock := hclock
  have hboth := ha.begun.start hxy hs g₀.world.clock
  unfold Engine.attempt
  dsimp only
  rw [hclock', hclock₀]
  cases hstart : g₀.begun.start g₀.world.clock with
  | ok g =>
    rw [hstart] at hboth
    generalize hstart' : h₀.begun.start g₀.world.clock = z at hboth ⊢
    cases hboth with
    | ok hgh => exact hgh.onward hxy hclock (.start hstart) (.start (hclock ▸ hstart')) limit
  | error u =>
    rw [hstart] at hboth
    generalize h₀.begun.start g₀.world.clock = z at hboth ⊢
    cases hboth with
    | error huv =>
      refine .ended (.error (huv.imp ?_))
      rintro ⟨⟨hn, hn'⟩, e, he⟩
      exact ⟨e, _, _, _, _, _, .opening hn, .opening hn', he⟩

end Alongside

/-! ## Ends -/

/-- Ends of runs alongside: the same failure, if any, the same problem, stores
that are related, and the same done. The states match, but for the record if the
runs failed late; unless they failed by a cost that could not be compared, in a
state that was not the one that was given. -/
structure EndAlongside (C : String → Cabinet τ → Cabinet τ → Prop) (g₀ h₀ : Engine τ)
    (a b : Engine τ × Outcome τ) : Prop where
  error : b.2.error = a.2.error
  problem : b.2.problem = a.2.problem
  stores : ∀ name, C name (a.1.world.cabinet name) (b.1.world.cabinet name)
  deeds : List.Forall₂ Event.Matches a.1.world.deeds b.1.world.deeds
  state : a.2.state.Matches b.2.state ∨
    (a.2.error.isSome = true ∧ a.2.state.MatchesButRecord b.2.state) ∨
    ∃ e, a.2.error = some (.slip e) ∧ g₀.Spoils e h₀

omit [Clock τ] in
/-- What a run puts down at its end is no deed, and uses no store. -/
theorem concluded_follows (name : String) (a : Attempt τ) :
    a.left.world.Follows (·.ends = true) (concluded name a).1.world := by
  cases a with
  | ok g => exact close_follows g name none
  | error f =>
    exact (markFailed_follows f.engine name f.fault).trans (close_follows _ name (some f.fault))

omit [Clock τ] in
theorem Alongside.problem (ha : g.Alongside x y C R h) :
    h.executor.problem = g.executor.problem := by
  obtain ⟨_, _, _⟩ := ha
  rfl

omit [Clock τ] in
/-- Marked as failed, states stay related that are if both get the same status. -/
theorem markFailed_related {Q : State τ → State τ → Prop}
    (hq : Q u.executor.state v.executor.state)
    (ht : u.executor.state.terminated = v.executor.state.terminated)
    (hstatus : ∀ status,
      Q { u.executor.state with status := status } { v.executor.state with status := status })
    (name name' : String) (f : Fault) :
    Q (u.markFailed name f).executor.state (v.markFailed name' f).executor.state := by
  rw [(markFailed_state u name f).1, (markFailed_state v name' f).1, ht]
  split
  · exact hq
  · exact hstatus _

theorem concluded_alongside {limit : Nat} {a b : Attempt τ}
    (hr : g₀.begun.attempt limit = some a)
    (hab : Attempt.Both (Alongside x y C (Snapshot.Paired x y State.Matches))
      (FailAlongside x y C (∃ e, g₀.Spoils e h₀)) a b) (name name' : String) :
    EndAlongside C g₀ h₀ (concluded name a) (concluded name' b) := by
  have hends := concluded_follows name a
  have hends' := concluded_follows name' b
  have hworlds : a.left.world.Alongside C b.left.world := by
    cases hab with
    | ok hgh => exact hgh.worlds
    | error huv => cases huv <;> exact Alongside.worlds ‹_›
  refine ⟨?_, ?_, fun cabinet => ?_, ?_, ?_⟩
  · cases hab <;> rfl
  · cases hab with
    | ok hgh => exact hgh.problem
    | @error f u v huv =>
      have hproblem : v.executor.problem = u.executor.problem := by
        cases huv <;> exact Alongside.problem ‹_›
      exact ((markFailed_state v name' f).2.trans hproblem).trans (markFailed_state u name f).2.symm
  · rw [World.cabinet_of_cabinets hends.cabinets, World.cabinet_of_cabinets hends'.cabinets]
    exact hworlds.cabinets cabinet
  · rw [hends.deeds, hends'.deeds]
    exact hworlds.deeds
  · cases hab with
    | ok hgh => exact .inl hgh.related.state
    | @error f u v huv =>
      cases huv with
      | whole huv =>
        have hm := huv.related
        exact .inl (markFailed_related hm hm.terminated hm.withStatus name name' f)
      | late huv =>
        have hm := huv.related
        exact .inr (.inl
          ⟨rfl, markFailed_related hm hm.terminated hm.withStatus name name' f⟩)
      | spoilt hs _ =>
        obtain ⟨e, hs⟩ := hs
        exact .inr (.inr ⟨e, congrArg some (hs.ends hr), hs⟩)

/-! ## The states before -/

/-- A step leaves the point and the cost of the state before it. -/
theorem advance_behind (hx : g.executor.solver.OnlyJudges) (ha : g.advance .step started = .ok g') :
    g'.executor.state.prevParam = g.executor.state.param ∧
      g'.executor.state.prevCost = g.executor.state.cost := by
  obtain ⟨u, record, v, ht, hj, hc⟩ := advance_ok ha
  obtain ⟨w, r, _, _, hrecord, _⟩ := take_ok ht
  obtain ⟨b, _, hs⟩ := State.recordBest_ok hrecord
  obtain ⟨standard, _, he⟩ := complete_ok hc
  have hu : u.executor.solver.OnlyJudges := by
    rw [taken_solver ht]
    exact hx
  obtain ⟨status, rfl⟩ := judge_same hu hj
  have hstate : g'.executor.state = { u.executor.state with
      status := status, record := fullRecord standard record status } := congrArg Executor.state he
  rw [hstate, hs]
  exact ⟨rfl, rfl⟩

theorem Course.behind {s : State τ} (hj : g₀.OnlyJudges) (hc : g₀.Course (past ++ [s]) g) :
    g.executor.state.prevParam = s.param ∧ g.executor.state.prevCost = s.cost := by
  generalize hl : past ++ [s] = l at hc
  cases hc with
  | start _ => simp at hl
  | @step past' v _ hc hr hi =>
    obtain ⟨_, hlast⟩ := List.append_inj' hl rfl
    cases hlast
    obtain ⟨u, ha, hstands, _⟩ := iterate_ok hi
    rw [hstands.state]
    exact advance_behind (hc.works hj) ha

/-! ## The law -/

/-- Solvers that do the same make no difference by what they write into what is the
engine's, or by handing back another state than they were given. Every engine that one
run comes to has one alongside in the other, at states that match, over states that
match; the same was done, and the stores are related. In all of them the state stands
behind that of the iteration before, if the solver only judges when it is asked whether
the run is to stop. And both runs go on, or both end, by the same failure if any, at
states that match, but for the record if they failed late; unless a cost could not be
compared, and the state that it came with was not the one that was given. -/
theorem counterparts_come_to_the_same (hp : g₀.executor.phase = .created) (hxy : x.Counterparts y)
    (ha : g₀.Alongside x y C (fun a b => a.state.Matches b.state) h₀)
    (hs : g₀.stored = .ok none → g₀.executor.solver = x ∧ h₀.executor.solver = y) :
    (∀ past g, g₀.Course past g → ∃ past' h, h₀.Course past' h ∧
      List.Forall₂ State.Matches (past ++ [g.executor.state]) (past' ++ [h.executor.state]) ∧
      g.world.Alongside C h.world) ∧
    (g₀.OnlyJudges → ∀ past s g, g₀.Course (past ++ [s]) g →
      g.executor.state.prevParam = s.param ∧ g.executor.state.prevCost = s.cost) ∧
    ∀ limit, (g₀.run limit = .ok none ∧ h₀.run limit = .ok none) ∨
      ∃ a b, g₀.run limit = .ok (some a) ∧ h₀.run limit = .ok (some b) ∧
        EndAlongside C g₀ h₀ a b := by
  have hp' : h₀.executor.phase = .created := by
    obtain ⟨_, _, _⟩ := ha
    exact hp
  refine ⟨fun past g hc => ?_, fun hj past s g hc => hc.behind hj, fun limit => ?_⟩
  · obtain ⟨past', h, hc', hpast, hgh⟩ := ha.course hxy hs hc
    exact ⟨past', h, hc', List.rel_append hpast (.cons hgh.related.state .nil), hgh.worlds⟩
  · have hg := run_created hp limit
    have hh := run_created hp' limit
    have hcome := ha.attempt hxy hs limit
    generalize hga : g₀.begun.attempt limit = a at hcome hg
    generalize h₀.begun.attempt limit = b at hcome hh
    cases hcome with
    | going => exact .inl ⟨hg, hh⟩
    | ended hab => exact .inr ⟨_, _, hg, hh, concluded_alongside hga hab _ _⟩

/-- A replay whose every call claims a best cost that is out of reach, evaluations
that were not made, and a state before that there never was. -/
def misleading : Solver Float :=
  (Sample.replay [true, false]).meddling fun _ =>
    { (State.fresh .point : State Float) with
      prevParam := .text "nowhere"
      book := ⟨40, .null, .null, .int (-7), .null, true, 12, 28, 100⟩
      counts := .ofList [("cost_count", 12)] }

/-- An engine that saves every iteration in memory, with a solver and a limit. -/
def savingAll (x : Solver Float) : Engine Float :=
  underLimit x 3 (some { inMemory false with frequency := .always }) none (.start 0)

/-- The law for a replay and one that misleads. -/
theorem a_misleading_replay_misleads_nobody :
    ∃ a b, (savingAll (Sample.replay [true, false])).run 3 = .ok (some a) ∧
      (savingAll misleading).run 3 = .ok (some b) ∧ a.2.error = none ∧ b.2.error = none ∧
      a.2.iterations = 3 ∧ a.2.reason? = some .maxItersReached ∧ a.2.state.Matches b.2.state ∧
      AlikeInMemory "run" (Sample.replay [true, false]) misleading (a.1.world.cabinet "memory")
        (b.1.world.cabinet "memory") := by
  have halongside : (savingAll (Sample.replay [true, false])).Alongside (Sample.replay [true, false])
      misleading (fun _ => AlikeInMemory "run" (Sample.replay [true, false]) misleading)
      (fun a b => a.state.Matches b.state) (savingAll misleading) := by
    refine .alongside (fun p hp => ?_)
      (State.Matches.refl (replay_anew [true, false] 3 (.start 0) []).tidy)
      ⟨rfl, rfl, rfl, fun _ => .nothing rfl rfl, .nil⟩
    cases hp
    exact memory_impartial rfl rfl rfl
  obtain ⟨_, _, hends⟩ := counterparts_come_to_the_same rfl
    ((Sample.replay_counterparts [true, false]).meddling _) halongside fun _ => ⟨rfl, rfl⟩
  obtain ⟨a, ha, herror, hits, hreason⟩ := saving_replay_ends (List.cons_ne_nil true [false]) 3
    (rfl : (savingAll _).stored = _) rfl
  rcases hends 3 with ⟨hnone, _⟩ | ⟨a', b, ha', hb, hend⟩
  · cases ha.symm.trans hnone
  · cases ha.symm.trans ha'
    refine ⟨a, b, ha, hb, herror, hend.error.trans herror, hits, hreason, ?_, hend.stores "memory"⟩
    rcases hend.state with hstate | ⟨hfails, _⟩ | ⟨e, he, _⟩
    · exact hstate
    · rw [herror] at hfails
      cases hfails
    · cases herror.symm.trans he

/-- A replay whose step converges, at a cost that cannot be compared. It changes
the state that it was given, or hands back another one. -/
def balking (inPlace : Bool) : Solver Float :=
  { Sample.replay [true] with
    step := fun s =>
      let t := { s with cost := .text "bad", status := ⟨some .solverConverged⟩ }
      .done (if inPlace then t else s) (if inPlace then .same none else .other t none) }

theorem balking_counterparts : (balking true).Counterparts (balking false) where
  calls kind s t h := by
    cases kind with
    | opening => exact (Sample.replay_counterparts [true]).calls .opening s t h
    | step =>
      have hstep := h.alter
        (fun x => { x with cost := .text "bad", status := ⟨some .solverConverged⟩ })
        (fun _ => ⟨rfl, rfl⟩) (fun _ => rfl) fun _ => rfl
      exact .done (.state (.same none) (.other _ none) (hstep.own .step))
  early _ _ _ := rfl
  revised _ _ h := h

theorem balking_ends (inPlace : Bool) :
    ∃ a, (underLimit (balking inPlace) 3 none none (.start 0)).run 1 = .ok (some a) ∧
      a.2.error = some (.slip (.unordered "<" "str" "bool")) ∧
      a.2.iterations = (if inPlace then 1 else 0) ∧
      a.2.reason? = some (if inPlace then .solverConverged
        else .error (.slip (.unordered "<" "str" "bool"))) := by
  have hopening : (underLimit (balking inPlace) 3 none none (.start 0)).begun.settled.Moves
      .opening := ⟨true, rfl⟩
  obtain ⟨g, hg, _, hx, _, hgl⟩ := underLimit_opens rfl (fun _ => rfl) hopening rfl no_policy_saves
  obtain ⟨best, hbest⟩ := hgl.bestCost
  have hrun : g.executor.state.status = .running := hgl.status
  have hopen := State.not_terminated_iff.mpr hrun
  have hhas := (Course.balanced (.fresh rfl fun _ => rfl) rfl rfl hg).2
  generalize ht : ({ g.executor.state with
    cost := .text "bad", status := ⟨some .solverConverged⟩ } : State Float) = t
  obtain ⟨u, hu, hleft⟩ : ∃ u, (g.enter .step).consult .step = .ok (u, ⟨t, inPlace, none⟩) ∧
      u.executor.state = if inPlace then t else g.executor.state := by
    have hcall : (g.enter .step).executor.solver.call .step (g.enter .step).executor.state =
        (balking inPlace).call .step g.executor.state := by
      rw [enter_solver, enter_state, hx]
    subst ht
    cases inPlace <;> exact consult_of_done hcall rfl
  have hrec : (u.carried ((⟨t, inPlace, none⟩ : Returned Float).placed .step g.executor.state).state
      (g.kept .step) (CallKind.step.target g.executor.state.book.iteration) 0).recordBest =
        .error (.unordered "<" "str" "bool") := by
    have hless : Value.less (.text "bad") (g.kept .step).bestCost =
        .error (.unordered "<" "str" "bool") := by
      rw [kept_bestCost, hbest]
      rfl
    subst ht
    exact State.recordBest_uncomparable ((kept_hasBest .step g).trans hhas) hless
  obtain ⟨v, hends, _, hv⟩ := (BreaksOff.cost hu hrec).run rfl (.step hg hopen) 0
  rw [hleft] at hv
  have hiteration : v.executor.state.book.iteration = if inPlace then 1 else 0 := by
    rw [hv]
    cases inPlace with
    | true => exact congrArg (· + 1) hgl.iteration
    | false => exact hgl.iteration
  have hstatus : v.executor.state.status =
      if inPlace then ⟨some .solverConverged⟩ else .running := by
    rw [hv, ← ht]
    cases inPlace with
    | true => rfl
    | false => exact hrun
  have hmarked (name : String) :=
    (markFailed_state v name (.slip (.unordered "<" "str" "bool"))).1
  refine ⟨_, hends, rfl, (congrArg (·.book.iteration) (hmarked _)).trans ?_,
    (congrArg (·.status.reason) (hmarked _)).trans ?_⟩
  · rw [← hiteration]
    split <;> rfl
  · unfold State.terminated
    rw [hstatus]
    cases inPlace with
    | true => exact congrArg Status.reason hstatus
    | false => rfl

/-- What is left when a cost cannot be compared depends on which state was handed
back: one that was changed in place has converged, at the next iteration; one that
was left alone has failed, at its own. And two solvers that return the same come to
different best points if they change the kept one in place to different values, or
write different ones into the state when they are asked whether the run is to
stop. -/
theorem the_state_handed_back_can_make_a_difference :
    ((balking true).Counterparts (balking false) ∧
      ∃ a b, (underLimit (balking true) 3 none none (.start 0)).run 1 = .ok (some a) ∧
        (underLimit (balking false) 3 none none (.start 0)).run 1 = .ok (some b) ∧
        a.2.error = some (.slip (.unordered "<" "str" "bool")) ∧
        b.2.error = some (.slip (.unordered "<" "str" "bool")) ∧
        a.2.iterations = 1 ∧ b.2.iterations = 0 ∧ a.2.reason? = some .solverConverged ∧
        b.2.reason? = some (.error (.slip (.unordered "<" "str" "bool")))) ∧
    (∃ s t g h, (underLimit (wiping (slate 0)) 3 none none (.start 0)).Course [s] g ∧
      (underLimit (wiping (slate 1)) 3 none none (.start 0)).Course [t] h ∧
      g.executor.state.book.bestParam ≠ h.executor.state.book.bestParam) ∧
    ∃ g h, (underLimit (revising (slate 0)) 3 none none (.start 0)).Course [] g ∧
      (underLimit (revising (slate 1)) 3 none none (.start 0)).Course [] h ∧
      g.executor.state.book.bestParam ≠ h.executor.state.book.bestParam := by
  refine ⟨?_, ?_, ?_⟩
  · obtain ⟨a, ha, hea, hia, hra⟩ := balking_ends true
    obtain ⟨b, hb, heb, hib, hrb⟩ := balking_ends false
    exact ⟨balking_counterparts, a, b, ha, hb, hea, heb, hia, hib, hra, hrb⟩
  · obtain ⟨s, g, hg, _, _, _, hp⟩ := wiping_wipes (slate 0)
    obtain ⟨t, h, hh, _, _, _, hq⟩ := wiping_wipes (slate 1)
    exact ⟨s, t, g, h, hg, hh, fun hsame => slate_zero_ne (hp.symm.trans (hsame.trans hq))⟩
  · obtain ⟨g, hg, _, hp⟩ := revising_revises (slate 0)
    obtain ⟨h, hh, _, hq⟩ := revising_revises (slate 1)
    exact ⟨g, h, hg, hh, fun hsame => slate_zero_ne (hp.symm.trans (hsame.trans hq))⟩

end Engine

end Minimize
