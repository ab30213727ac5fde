-- A run by its stages. It sets out, and then it moves on, by an iteration at a
-- time, until it is over. What can be said of a whole run can be said of each of
-- its stages, so a run can be stopped at any of them and be taken up again.
import Minimize.Proofs.Echo
import Minimize.Proofs.Unseen

namespace Minimize

variable {τ : Type}

/-- What a run has come to with a stage of it. -/
inductive Milestone (τ : Type) where
  | going (g : Engine τ)
  | done (a : Engine τ × Outcome τ)

namespace Milestone

def engine : Milestone τ → Engine τ
  | .going g => g
  | .done a => a.1

/-- Milestones at which two runs have come to the same. -/
inductive Echoes (s : Sight τ) : Milestone τ → Milestone τ → Prop
  | going {g h : Engine τ} (he : g.Echoes s h) : Echoes s (.going g) (.going h)
  | done {a b : Engine τ × Outcome τ} (he : a.1.Echoes s b.1) (ho : b.2 = a.2) :
      Echoes s (.done a) (.done b)

end Milestone

namespace Engine

variable [Clock τ]

/-! ## Stages -/

/-- The first stage of a run, which opens it or goes on from a snapshot. -/
def setOut (g : Engine τ) : Milestone τ :=
  match g.begun.start g.world.clock with
  | .ok g' => .going g'
  | .error f => .done (concluded g.executor.runName (.error f))

/-- A further stage: one iteration, or the end of a run that is terminated. -/
def move (name : String) (started : τ) (g : Engine τ) : Milestone τ :=
  if g.executor.state.terminated then .done (concluded name (g.save true))
  else
    match g.iterate .step started with
    | .ok g' => .going g'
    | .error f => .done (concluded name (.error f))

/-- A run by itself, stage by stage. -/
def milestone (g : Engine τ) : Nat → Milestone τ
  | 0 => g.setOut
  | k + 1 =>
    match g.milestone k with
    | .going u => u.move g.executor.runName g.world.clock
    | .done a => .done a

variable {g h : Engine τ} {s : Sight τ} {a b : Engine τ × Outcome τ} {name : String}
  {started started' : τ}

theorem milestone_succ {u : Engine τ} {k : Nat} (h : g.milestone k = .going u) :
    g.milestone (k + 1) = u.move g.executor.runName g.world.clock := by
  rw [milestone, h]

/-- A run that is over stays so. -/
theorem milestone_over {k : Nat} (h : g.milestone k = .done a) (j : Nat) :
    g.milestone (k + j) = .done a := by
  induction j with
  | zero => exact h
  | succ j ih => rw [← Nat.add_assoc, milestone, ih]

theorem milestone_ne_done {u : Engine τ} {j k : Nat} (hk : g.milestone k = .going u) (hj : j ≤ k)
    (a : Engine τ × Outcome τ) : g.milestone j ≠ .done a := by
  intro hover
  have hlater := milestone_over hover (k - j)
  rw [Nat.add_sub_cancel' hj, hk] at hlater
  cases hlater

theorem milestone_unique {j k : Nat} (hj : g.milestone j = .done a) (hk : g.milestone k = .done b) :
    b = a := by
  have hj' := milestone_over hj k
  rw [Nat.add_comm, milestone_over hk j] at hj'
  cases hj'
  rfl

/-- A run that goes on from a stage comes to the end of which that is told. -/
theorem onward_milestone {u : Engine τ} {k : Nat} (hk : g.milestone k = .going u) {limit : Nat}
    {x : Attempt τ} (hx : u.onward g.world.clock limit = some x) :
    ∃ j, g.milestone j = .done (concluded g.executor.runName x) := by
  have hover {v : Engine τ} {n : Nat} (hn : g.milestone n = .going v)
      (ht : v.executor.state.terminated = true) :
      g.milestone (n + 1) = .done (concluded g.executor.runName (v.save true)) := by
    rw [milestone_succ hn, move, if_pos ht]
  induction limit generalizing k u with
  | zero =>
    cases ht : u.executor.state.terminated with
    | true =>
      rw [onward_terminated _ _ ht] at hx
      cases hx
      exact ⟨k + 1, hover hk ht⟩
    | false => cases (onward_zero _ ht).symm.trans hx
  | succ limit ih =>
    cases ht : u.executor.state.terminated with
    | true =>
      rw [onward_terminated _ _ ht] at hx
      cases hx
      exact ⟨k + 1, hover hk ht⟩
    | false =>
      have hmove := milestone_succ hk
      unfold move at hmove
      simp only [ht, Bool.false_eq_true, if_false] at hmove
      rw [onward_step _ _ ht] at hx
      cases hi : u.iterate .step g.world.clock with
      | ok v =>
        rw [hi] at hx hmove
        exact ih hmove hx
      | error f =>
        rw [hi] at hx hmove
        cases hx
        exact ⟨k + 1, hmove⟩

/-- A run that ends is over after some of its stages. -/
theorem run_milestone (hp : g.executor.phase = .created) {limit : Nat}
    (hr : g.run limit = .ok (some a)) : ∃ k, g.milestone k = .done a := by
  rw [run_created hp] at hr
  obtain ⟨x, hx, rfl⟩ := Option.map_eq_some_iff.mp (Except.ok.inj hr)
  unfold attempt at hx
  have hclock : g.begun.world.clock = g.world.clock := rfl
  have hfirst : g.milestone 0 = g.setOut := rfl
  unfold setOut at hfirst
  simp only [hclock] at hx
  cases hs : g.begun.start g.world.clock with
  | error f =>
    rw [hs] at hx hfirst
    cases hx
    exact ⟨0, hfirst⟩
  | ok u =>
    rw [hs] at hx hfirst
    exact onward_milestone hfirst hx

/-! ## Stages that echo each other -/

theorem Echoes.setOut (he : g.Echoes s h) : g.setOut.Echoes s h.setOut := by
  have hboth : Attempt.Both (Echoes s) (Echoes s) (g.begun.start g.world.clock)
      (h.begun.start h.world.clock) := he.begun.start he.world.clock
  unfold Engine.setOut
  rw [he.executor]
  generalize g.begun.start g.world.clock = x at hboth ⊢
  generalize h.begun.start h.world.clock = y at hboth ⊢
  cases hboth with
  | ok he' => exact .going he'
  | error he' =>
    obtain ⟨hengine, houtcome⟩ := concluded_echoes g.executor.runName (.error he')
    exact .done hengine houtcome

theorem Echoes.move (he : g.Echoes s h) (name : String) (ht : s.timed → started' = started) :
    (g.move name started).Echoes s (h.move name started') := by
  unfold Engine.move
  rw [he.executor]
  split
  · obtain ⟨hengine, houtcome⟩ := concluded_echoes name (he.save true)
    exact .done hengine houtcome
  · have hboth := he.iterate .step ht
    generalize g.iterate .step started = x at hboth ⊢
    generalize h.iterate .step started' = y at hboth ⊢
    cases hboth with
    | ok he' => exact .going he'
    | error he' =>
      obtain ⟨hengine, houtcome⟩ := concluded_echoes name (.error he')
      exact .done hengine houtcome

/-! ## Stages of which nothing is seen -/

/-- That nothing is seen of the solver with which a run may go on. -/
def ResumesUnseen (s : Sight τ) (g : Engine τ) : Prop :=
  ∀ snapshot, g.stored = .ok (some snapshot) →
    ∀ kind st, (snapshot.solver.call kind st).Unseen s

theorem setOut_hides (hx : g.ResumesUnseen s) : g.Hides s g.setOut.engine := by
  have hstart := (note_hides (s := s) g (.started g.executor.runName)).trans
    (start_hides g.world.clock (g := g.begun) hx)
  unfold setOut
  unfold begun at hstart ⊢
  cases hs : (g.note (.started g.executor.runName)).start g.world.clock with
  | ok g' =>
    rw [hs] at hstart
    exact hstart
  | error f =>
    rw [hs] at hstart
    exact hstart.trans (concluded_hides _ (.error f))

theorem move_hides (name : String) (started : τ) (g : Engine τ) :
    g.Hides s (g.move name started).engine := by
  unfold move
  split
  · exact (save_hides g true).trans (concluded_hides name _)
  · have hiterate := iterate_hides (s := s) .step started g
    cases hi : g.iterate .step started with
    | ok g' =>
      rw [hi] at hiterate
      exact hiterate
    | error f =>
      rw [hi] at hiterate
      exact hiterate.trans (concluded_hides name (.error f))

theorem milestone_hides (hx : g.ResumesUnseen s) (k : Nat) : g.Hides s (g.milestone k).engine := by
  induction k with
  | zero => exact setOut_hides hx
  | succ k ih =>
    rw [milestone]
    cases hk : g.milestone k with
    | going u =>
      rw [hk] at ih
      exact ih.trans (move_hides _ _ u)
    | done c =>
      rw [hk] at ih
      exact ih

theorem run_hides (hx : g.ResumesUnseen s) (hp : g.executor.phase = .created) {limit : Nat}
    (hr : g.run limit = .ok (some a)) : g.Hides s a.1 := by
  obtain ⟨k, hk⟩ := run_milestone hp hr
  have hlast := milestone_hides hx k
  rw [hk] at hlast
  exact hlast

end Engine

end Minimize
