-- What a run leaves in its store. An iteration is saved when it is due, and
-- the last one is saved at the end unless it was tried already. So where the
-- store is in order, a run that was not ended by a failure leaves its last
-- state there, whatever the frequency.
import Minimize.Proofs.Resumption

namespace Minimize

variable {τ : Type}

/-- A policy's store has a solver with a state under the policy's key. -/
structure Policy.Holds (p : Policy τ) (x : Solver τ) (s : State τ) (c : Cabinet τ) : Prop where
  holds : p.store.holds (.text p.key) c = .ok true
  load : p.store.load (.text p.key) c = .ok ⟨x, s⟩

theorem memory_save {x : Solver τ} {key : String} (hk : Checkpoint.isKey key = true)
    (hx : x.unserializable = none) (c : Cabinet τ) (t : State τ) :
    Checkpoint.Memory.store.save (.text key) ⟨x, t⟩ c =
      (Checkpoint.Memory.put key (.pair ⟨x, t⟩) c, .ok ()) := by
  have hvalid : Checkpoint.validateKey (.text key) = .ok key := by
    unfold Checkpoint.validateKey
    exact if_pos hk
  have hserialized : (⟨x, t⟩ : Snapshot τ).serialized key = .ok (.pair ⟨x, t⟩) := by
    unfold Snapshot.serialized
    rw [hx]
  show Checkpoint.Memory.save (.text key) ⟨x, t⟩ c = _
  unfold Checkpoint.Memory.save
  rw [hvalid]
  dsimp only [bind, Except.bind]
  rw [hserialized]
  rfl

theorem memory_finds {key : String} {c : Cabinet τ} {s : Snapshot τ}
    (h : c.memory.get? key = some (.pair s)) :
    Checkpoint.Memory.store.holds (.text key) c = .ok true ∧
      Checkpoint.Memory.store.load (.text key) c = .ok s := by
  have hfind : Checkpoint.Memory.find (.text key) c = .ok (some (.pair s)) :=
    congrArg Except.ok h
  refine ⟨?_, ?_⟩
  · show Checkpoint.Memory.holds (.text key) _ = _
    unfold Checkpoint.Memory.holds
    rw [hfind]
    rfl
  · show Checkpoint.Memory.load (.text key) _ = _
    unfold Checkpoint.Memory.load
    rw [hfind]
    rfl

/-- The store in memory is in order for any solver that can be written out. -/
theorem memory_works {x : Solver τ} {key : String} (hk : Checkpoint.isKey key = true)
    (hx : x.unserializable = none) :
    Checkpoint.Memory.store.Works key x fun _ => True where
  saves c t _ := by
    have hthere : (Checkpoint.Memory.put key (.pair ⟨x, t⟩) c).memory.get? key =
        some (.pair ⟨x, t⟩) := Table.get?_insert_self c.memory key _
    obtain ⟨hholds, hload⟩ := memory_finds hthere
    exact ⟨_, memory_save hk hx c t, trivial, hholds, hload⟩

namespace Engine

variable [Clock τ] {p : Policy τ} {good : Cabinet τ → Prop} {x : Solver τ} {g g' g₀ : Engine τ}
  {l : Option Int} {kind : CallKind} {started : τ}

/-! ## The invariant -/

/-- An engine that saves by a policy: the store is in order, and `l` is the
iteration that was tried last. -/
structure Guarded (p : Policy τ) (good : Cabinet τ → Prop) (x : Solver τ) (l : Option Int)
    (g : Engine τ) : Prop where
  solver : g.executor.solver = x
  policy : g.executor.policy = some { p with lastAttempted := l }
  good : good (g.world.cabinet p.cabinet)

/-- Nothing later than the engine's iteration was tried. If its state is
terminated and was tried, it is stored. -/
structure Covered (p : Policy τ) (good : Cabinet τ → Prop) (x : Solver τ) (l : Option Int)
    (g : Engine τ) : Prop extends Guarded p good x l g where
  tried : ∀ i, l = some i → i ≤ g.executor.state.book.iteration
  stored : g.executor.state.terminated = true → l = some g.executor.state.book.iteration →
    p.Holds x g.executor.state (g.world.cabinet p.cabinet)

omit [Clock τ] in
theorem Guarded.save (hw : p.store.Works p.key x good) (hg : g.Guarded p good x l) {final : Bool}
    (hd : ({ p with lastAttempted := l } : Policy τ).isDue g.executor.state.book.iteration final =
      true) :
    ∃ g', g.save final = .ok g' ∧ g'.Guarded p good x (some g.executor.state.book.iteration) ∧
      p.Holds x g.executor.state (g'.world.cabinet p.cabinet) := by
  obtain ⟨c, hsave, hgood, hholds, hload⟩ := hw.saves _ g.executor.state hg.good
  rw [← hg.solver] at hsave
  obtain ⟨g', hg', hpolicy, hcabinet⟩ := save_due hg.policy hd hsave (.inl rfl)
  have hkeeps := save_keeps g final
  rw [hg'] at hkeeps
  have hc : g'.world.cabinet p.cabinet = c := hcabinet
  refine ⟨g', hg', ⟨hkeeps.solver.trans hg.solver, hpolicy, hc ▸ hgood⟩, ?_⟩
  rw [hc]
  exact ⟨hholds, hload⟩

omit [Clock τ] in
/-- A save that is not called for changes nothing. -/
theorem Guarded.no_save (hg : g.Guarded p good x l) {final : Bool}
    (hd : ({ p with lastAttempted := l } : Policy τ).isDue g.executor.state.book.iteration final =
      false) :
    ∃ g', g.save final = .ok g' ∧ g'.Guarded p good x l ∧ g'.executor = g.executor ∧
      g'.world.cabinet p.cabinet = g.world.cabinet p.cabinet := by
  obtain ⟨g', hg', hexecutor, hcabinet⟩ := save_not_due hg.policy hd
  have hc : g'.world.cabinet p.cabinet = g.world.cabinet p.cabinet := hcabinet
  refine ⟨g', hg', ⟨?_, ?_, hc ▸ hg.good⟩, hexecutor, hc⟩
  · rw [hexecutor]
    exact hg.solver
  · rw [hexecutor]
    exact hg.policy

/-! ## A step -/

omit [Clock τ] in
theorem Guarded.stays (hg : g.Guarded p good x l) (hs : g.Stays g') : g'.Guarded p good x l :=
  ⟨hs.solver.trans hg.solver, hs.policy.trans hg.policy,
    World.cabinet_of_cabinets hs.cabinets _ ▸ hg.good⟩

omit [Clock τ] in
/-- A completed iteration that was not tried before is covered when it has
been saved. -/
theorem Guarded.conclude (hw : p.store.Works p.key x good) (hg : g.Guarded p good x l)
    (hl : ∀ i, l = some i → i < g.executor.state.book.iteration) :
    ∃ g' l', g.save false = .ok g' ∧ g'.Covered p good x l' := by
  have hstands := save_stands g false
  cases hd : ({ p with lastAttempted := l } : Policy τ).isDue g.executor.state.book.iteration
      false with
  | true =>
    obtain ⟨g', hg', hguarded, hholds⟩ := hg.save hw hd
    rw [hg'] at hstands
    have hstate : g'.executor.state = g.executor.state := hstands.state
    refine ⟨g', _, hg', hguarded, fun i h => ?_, fun _ _ => ?_⟩
    · rw [hstate]
      exact Int.le_of_eq (Option.some.inj h).symm
    · rw [hstate]
      exact hholds
  | false =>
    obtain ⟨g', hg', hguarded, hexecutor, _⟩ := hg.no_save hd
    refine ⟨g', l, hg', hguarded, fun i h => ?_, fun _ h => ?_⟩
    · rw [hexecutor]
      exact Int.le_of_lt (hl i h)
    · rw [hexecutor] at h
      exact absurd (hl _ h) (Int.lt_irrefl _)

omit [Clock τ] in
/-- What the observers are told covers no less. -/
theorem Covered.dispatch (hg : g.Covered p good x l) : g.dispatch.Covered p good x l := by
  have hd := dispatch_stays g
  have hc := World.cabinet_of_cabinets hd.cabinets p.cabinet
  refine ⟨hg.toGuarded.stays hd, hg.tried, fun ht hl => ?_⟩
  rw [hc]
  exact hg.stored ht hl

theorem Guarded.iterate (hj : x.OnlyJudges) (hw : p.store.Works p.key x good)
    (hg : g.Guarded p good x l)
    (hl : ∀ i, l = some i → i < kind.target g.executor.state.book.iteration)
    (hi : g.iterate kind started = .ok g') : ∃ l', g'.Covered p good x l' := by
  rw [iterate_eq] at hi
  obtain ⟨u, ha, hi⟩ := bind_ok hi
  have hstays := advance_stays kind started g
  rw [ha] at hstays
  have hu : u.Guarded p good x l :=
    ⟨hstays.solver.trans hg.solver, hstays.policy.trans hg.policy,
      World.cabinet_of_cabinets hstays.cabinets p.cabinet ▸ hg.good⟩
  have hlater : ∀ i, l = some i → i < u.executor.state.book.iteration := by
    rw [advance_iteration (hg.solver ▸ hj.leavesIteration) ha]
    exact hl
  obtain ⟨v, l', hv, hcovered⟩ := hu.conclude hw hlater
  rw [hv] at hi
  cases hi
  exact ⟨l', hcovered.dispatch⟩

theorem Covered.step (hj : x.OnlyJudges) (hw : p.store.Works p.key x good)
    (hg : g.Covered p good x l) (hi : g.iterate .step started = .ok g') :
    ∃ l', g'.Covered p good x l' := by
  have hl : ∀ i, l = some i → i < CallKind.step.target g.executor.state.book.iteration :=
    fun i h => Int.lt_add_one_of_le (hg.tried i h)
  exact hg.toGuarded.iterate hj hw hl hi

omit [Clock τ] in
/-- A last save leaves a terminated state in the store. -/
theorem Covered.close (hw : p.store.Works p.key x good) (hg : g.Covered p good x l)
    (ht : g.executor.state.terminated = true) :
    ∃ g' l', g.save true = .ok g' ∧ g'.Guarded p good x l' ∧
      p.Holds x g.executor.state (g'.world.cabinet p.cabinet) := by
  cases hd : ({ p with lastAttempted := l } : Policy τ).isDue g.executor.state.book.iteration
      true with
  | true =>
    obtain ⟨g', hg', hguarded, hholds⟩ := hg.toGuarded.save hw hd
    exact ⟨g', _, hg', hguarded, hholds⟩
  | false =>
    obtain ⟨g', hg', hguarded, _, hcabinet⟩ := hg.toGuarded.no_save hd
    have hl : l = some g.executor.state.book.iteration := by
      simpa [Policy.isDue] using hd
    refine ⟨g', _, hg', hguarded, ?_⟩
    rw [hcabinet]
    exact hg.stored ht hl

/-! ## A run -/

/-- An executor that saves by a policy, and has not saved yet. -/
structure Saves (p : Policy τ) (good : Cabinet τ → Prop) (g₀ : Engine τ) : Prop where
  policy : g₀.executor.policy = some p
  untried : p.lastAttempted = none
  good : good (g₀.world.cabinet p.cabinet)

/-- Whether a run is that of a solver: it starts by an opening of it, or goes
on from a snapshot of it that is open or can be opened again. -/
def RunsWith (x : Solver τ) (g₀ : Engine τ) : Prop :=
  (g₀.stored = .ok none ∧ g₀.executor.solver = x) ∨
    ∃ t, g₀.stored = .ok (some ⟨x, t⟩) ∧ t.Resumable

omit [Clock τ] in
theorem RunsWith.onlyJudges (h : g₀.RunsWith x) (hj : x.OnlyJudges) : g₀.OnlyJudges := by
  rcases h with ⟨hn, rfl⟩ | ⟨t, ht, _⟩
  · exact .fresh hn hj
  · exact .resumed ht hj

omit [Clock τ] in
theorem Resumes.covered {t : State τ} (hr : g₀.Resumes ⟨x, t⟩ g) (hs : g₀.Saves p good)
    (ht : t.Resumable) : g.Covered p good x (some t.book.iteration) := by
  obtain ⟨base, hstate⟩ := hr.state ht
  refine ⟨⟨hr.solver, ?_, ?_⟩, fun i h => ?_, fun hover _ => ?_⟩
  · rw [hr.policy, hs.policy]
    rfl
  · rw [World.cabinet_of_cabinets hr.world.cabinets]
    exact hs.good
  · rw [hstate]
    exact Int.le_of_eq (Option.some.inj h).symm
  · rw [hstate] at hover
    cases hover

/-- Every engine of a run is covered. -/
theorem Course.covered {past : List (State τ)} (hj : x.OnlyJudges) (hc : g₀.Course past g)
    (hs : g₀.Saves p good) (hw : p.store.Works p.key x good)
    (hx : g₀.RunsWith x) : ∃ l, g.Covered p good x l := by
  induction hc with
  | step _ _ hi ih =>
    obtain ⟨l, hl⟩ := ih
    exact hl.step hj hw hi
  | @start g hstart =>
    rcases hx with ⟨hn, hx⟩ | ⟨t, hn, hr⟩
    · have hg : g₀.begun.settled.Guarded p good x none := by
        refine ⟨hx, ?_, hs.good⟩
        rw [← hs.untried]
        exact hs.policy
      rw [start_fresh hn] at hstart
      exact hg.iterate hj hw (fun _ h => nomatch h) hstart
    · obtain ⟨v, hv, hresumes⟩ := start_resumes hn
      obtain rfl := Except.ok.inj (hv.begins.symm.trans hstart)
      exact ⟨_, hresumes.covered hs hr⟩

/-! ## The law -/

/-- A run that no failure ended leaves its last state in the store, under
whatever frequency it saved. -/
theorem a_run_leaves_its_last_state_in_the_store (hj : x.OnlyJudges)
    (hphase : g₀.executor.phase = .created)
    (hs : g₀.Saves p good) (hw : p.store.Works p.key x good) (hx : g₀.RunsWith x) {limit : Nat}
    {r : Engine τ × Outcome τ} (hr : g₀.run limit = .ok (some r)) (he : r.2.error = none) :
    good (r.1.world.cabinet p.cabinet) ∧ p.Holds x r.2.state (r.1.world.cabinet p.cabinet) := by
  obtain ⟨past, g, g', hc, ht, hg', rfl, hlast⟩ := run_over hphase hr he
  obtain ⟨l, hcovered⟩ := hc.covered hj hs hw hx
  obtain ⟨v, l', hv, hguarded, hholds⟩ := hcovered.close hw ht
  obtain rfl : g' = v := Except.ok.inj (hg'.symm.trans hv)
  have hcabinet := World.cabinet_of_cabinets
    (close_follows g' g₀.executor.runName none).cabinets p.cabinet
  rw [hcabinet, hlast]
  exact ⟨hguarded.good, hholds⟩

end Engine

end Minimize
