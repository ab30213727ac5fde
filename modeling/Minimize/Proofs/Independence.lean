-- Executors that have nothing in common can be run at once. Each run of a pool
-- stands, after every stage, where it would stand by itself, whatever the
-- others have done meanwhile; so the schedule tells on none of them.
import Mathlib.Algebra.BigOperators.Group.Finset.Basic
import Mathlib.Algebra.Order.BigOperators.Group.Finset
import Minimize.Proofs.Pool
import Minimize.Proofs.Replay
import Minimize.Proofs.Shares

namespace Minimize

variable {τ : Type} [Clock τ]

/-! ## Executors that have nothing in common -/

/-- An executor of a session, with the post that it is on, what it makes of the
outlets and of what its cabinet has under each key, and what its run comes to by
itself. -/
structure Member (τ : Type) where
  name : String
  post : Post τ
  engine : Engine τ
  outlets : Semblance Outlets
  parts : String → Semblance (Cabinet τ)
  alone : Engine τ × Outcome τ

namespace Member

/-- What is handed back of the run by itself: the outcome, if its end can be told. -/
def answer (m : Member τ) : Except Fault (Outcome τ) := m.alone.2.handedBack

/-- What makes a difference to an executor: its signal, its outlets, and what its
cabinet has under its key. -/
def sight (m : Member τ) : Sight τ where
  names := m.engine.world.signals.names
  signals n := m.engine.executor.signal = some n
  outlets := m.outlets
  cabinets name :=
    match m.engine.executor.policy with
    | some p => if p.cabinet = name then m.parts p.key else .any _
    | none => .any _
  timed := False

/-- That a member sees nothing of another: neither the solver of that one nor one
with which it may go on raises the signal of the member, its observers leave
that signal and the outlets of the member alone, and if the two save to one
cabinet, they do so under different keys. -/
structure Overlooks (m m' : Member τ) : Prop where
  solver : ∀ kind st, (m'.engine.executor.solver.call kind st).Unseen m.sight
  resumes : m'.engine.ResumesUnseen m.sight
  observers : ∀ e ∈ m'.engine.executor.observers.entries, e.2.observer.Unseen m.sight
  stores : ∀ p p', m.engine.executor.policy = some p → m'.engine.executor.policy = some p' →
    p'.cabinet = p.cabinet → p'.key ≠ p.key ∧ p'.store.Keyed m.parts

end Member

/-- A session with executors that have not run yet and are not timed, own their
problems and states, and see nothing of one another, and whose runs end by
themselves. What each of them goes by makes sense in the world as it is. -/
structure Session.Hosts (s : Session τ) (ms : List (Member τ)) : Prop where
  found : ∀ m ∈ ms, s.engine m.name = .ok (m.post, m.engine)
  created : ∀ m ∈ ms, m.engine.executor.phase = .created
  untimed : ∀ m ∈ ms, m.engine.executor.settings.timer = false
  owned : Session.sharing? (ms.map fun m => (m.name, m.post)) = none
  outlets : ∀ m ∈ ms, m.outlets.r s.world.outlets s.world.outlets
  observers : ∀ m ∈ ms, ∀ e ∈ m.engine.executor.observers.entries,
    e.2.observer.Heeds m.outlets
  stores : ∀ m ∈ ms, ∀ p, m.engine.executor.policy = some p →
    p.store.Heeds (.text p.key) (m.parts p.key) ∧
      (m.parts p.key).r (s.world.cabinet p.cabinet) (s.world.cabinet p.cabinet)
  overlooks : ∀ m ∈ ms, ∀ m' ∈ ms, m'.name ≠ m.name → m.Overlooks m'
  alone : ∀ m ∈ ms, ∃ limit, m.engine.run limit = .ok (some m.alone)

namespace Member

/-- That nothing is seen of an executor, nor of a solver with which it may go on. -/
structure Hidden (m : Member τ) (v : Sight τ) : Prop where
  unseen : m.engine.executor.Unseen v
  resumes : m.engine.ResumesUnseen v

variable {m m' : Member τ}

omit [Clock τ] in
/-- An executor may go on with the same in worlds that look alike. -/
theorem Hidden.echoed {v : Sight τ} (hv : m.Hidden v) {h : Engine τ}
    (he : m.engine.Echoes m.sight h) : h.ResumesUnseen v := by
  unfold Engine.ResumesUnseen
  rw [he.stored]
  exact hv.resumes

omit [Clock τ] in
theorem sight_cabinets {p : Policy τ} (hp : m.engine.executor.policy = some p) :
    m.sight.cabinets p.cabinet = m.parts p.key := by
  unfold sight
  dsimp only
  rw [hp]
  exact if_pos rfl

omit [Clock τ] in
theorem Overlooks.hidden (h : m.Overlooks m') : m'.Hidden m.sight := by
  refine ⟨⟨h.solver, h.observers, ?_⟩, h.resumes⟩
  intro p' hp'
  unfold sight
  dsimp only
  cases hp : m.engine.executor.policy with
  | none => exact fun _ _ _ => trivial
  | some p =>
    dsimp only
    split
    · rename_i hsame
      obtain ⟨hkey, hkeyed⟩ := h.stores p p' hp hp' hsame.symm
      exact hkeyed.apart _ _ hkey
    · exact fun _ _ _ => trivial

/-- One that has nothing in common with a member, and of which the member sees
nothing. -/
structure Foreign (m m' : Member τ) : Prop where
  name : m'.name ≠ m.name
  post : m'.post.Apart m.post
  hidden : m'.Hidden m.sight

/-- Where a run stands after a number of stages, beside the run by itself. -/
inductive Beside (m : Member τ) (t : Session τ) : Nat → Stage τ → Prop
  | waiting {h : Engine τ} (hf : t.engine m.name = .ok (m.post, h))
      (he : m.engine.Echoes m.sight h) : Beside m t 0 .waiting
  | going {k : Nat} {u : Engine τ} {e : Executor τ} {started : τ}
      (hk : m.engine.milestone k = .going u) (he : u.Echoes m.sight (t.standing m.post e))
      (ht : m.sight.timed → started = m.engine.world.clock) :
      Beside m t (k + 1) (.going m.post e m.engine.executor.runName started)
  | done {k : Nat} (hfirst : ∀ j < k, ∀ a, m.engine.milestone j ≠ .done a)
      (hk : m.engine.milestone k = .done m.alone)
      (hw : m.sight.Alike m.alone.1.world t.world) :
      Beside m t (k + 1) (.done m.answer)

variable {t : Session τ} {k : Nat} {st : Stage τ} {x : Milestone τ}

theorem Beside.sound (hb : m.Beside t k st) : m.sight.Alike t.world t.world := by
  cases hb with
  | waiting hf he =>
    obtain ⟨_, rfl⟩ := Session.engine_ok hf
    exact he.world.right
  | going _ he _ => exact he.world.right
  | done _ _ hw => exact hw.right

/-- A foreign executor that is put back changes nothing for a run. -/
theorem Beside.frame (hb : m.Beside t k st) (hf : m.Foreign m') {g : Engine τ}
    (hw : m.sight.Alike t.world g.world) : m.Beside (t.put m'.name m'.post g) k st := by
  cases hb with
  | waiting hfound he =>
    obtain ⟨hpost, rfl⟩ := Session.engine_ok hfound
    exact .waiting (Session.engine_put_apart hf.post hf.name.symm g hpost) (he.inWorld hw)
  | going hk he ht =>
    refine .going hk ?_ ht
    rw [Session.standing_put_apart hf.post]
    exact he.inWorld hw
  | done hfirst hk hworld => exact .done hfirst hk (hworld.trans hw)

/-! ## A stage of a run -/

/-- What is seen of a session that has changed: nothing, if nothing is seen of what
the executor does that was put back. -/
def Quiet (m : Member τ) (t : Session τ) (g : Engine τ) : Prop :=
  ∀ v : Sight τ, m.Hidden v → v.Alike t.world t.world → v.Alike t.world g.world

theorem settled (hx : (m.engine.milestone k).Echoes m.sight x)
    (hfirst : ∀ j < k, ∀ a, m.engine.milestone j ≠ .done a)
    (halone : ∀ a, m.engine.milestone k = .done a → a = m.alone) {started : τ}
    (ht : m.sight.timed → started = m.engine.world.clock) :
    m.Beside (t.settle m.name m.post m.engine.executor.runName started x).1 (k + 1)
      (t.settle m.name m.post m.engine.executor.runName started x).2 := by
  generalize hk : m.engine.milestone k = y at hx halone
  cases hx with
  | @going u h he =>
    refine .going hk ?_ ht
    unfold Session.settle
    dsimp only
    rw [Session.standing_put_self]
    exact he
  | @done a b he ho =>
    obtain rfl := halone a rfl
    unfold Session.settle
    dsimp only
    rw [ho]
    exact .done hfirst hk he.world

/-- A run that is taken up makes the first of its stages. -/
theorem Beside.takeUp (hb : m.Beside t 0 .waiting) (hp : m.engine.executor.phase = .created)
    (halone : ∀ k a, m.engine.milestone k = .done a → a = m.alone) :
    ∃ g, (t.takeUp m.name).1 = t.put m.name m.post g ∧
      m.Beside (t.takeUp m.name).1 1 (t.takeUp m.name).2 ∧ m.Quiet t g := by
  obtain ⟨hf, he⟩ := hb
  rename_i h
  have hready : h.executor.require .created "run" = .ok () := by
    unfold Executor.require
    rw [he.executor, if_pos hp]
  have htake : t.takeUp m.name =
      t.settle m.name m.post m.engine.executor.runName h.world.clock h.setOut := by
    unfold Session.takeUp
    rw [hf]
    dsimp only
    rw [hready, he.executor]
  refine ⟨h.setOut.engine, ?_, ?_, ?_⟩
  · rw [htake, Session.settle_fst]
  · rw [htake]
    exact settled he.setOut (fun j hj => absurd hj (Nat.not_lt_zero j)) (halone 0) he.world.clock
  · intro v hv hw
    rw [← Session.engine_world hf] at hw ⊢
    exact (Engine.setOut_hides (hv.echoed he)).world (he.executor ▸ hv.unseen) hw

/-- A run under way makes its next stage. -/
theorem Beside.moveOn {p : Post τ} {e : Executor τ} {run : String} {started : τ}
    (hb : m.Beside t k (.going p e run started))
    (halone : ∀ k a, m.engine.milestone k = .done a → a = m.alone) :
    ∃ g, (t.moveOn m.name p e run started).1 = t.put m.name m.post g ∧
      m.Beside (t.moveOn m.name p e run started).1 (k + 1)
        (t.moveOn m.name p e run started).2 ∧ m.Quiet t g := by
  obtain _ | @⟨k, u, _, _, hk, he, ht⟩ := hb
  refine ⟨((t.standing m.post e).move m.engine.executor.runName started).engine, ?_, ?_, ?_⟩
  · unfold Session.moveOn
    rw [Session.settle_fst]
  · refine settled ?_ ?_ (halone (k + 1)) ht
    · rw [Engine.milestone_succ hk]
      exact he.move _ ht
    · exact fun j hj a => Engine.milestone_ne_done hk (Nat.le_of_lt_succ hj) a
  · intro v hv hw
    have hhides := Engine.milestone_hides hv.resumes k
    rw [hk] at hhides
    have hunseen : (t.standing m.post e).executor.Unseen v := by
      rw [he.executor]
      exact hhides.executor hv.unseen
    exact (Engine.move_hides _ started _).world hunseen hw

theorem Beside.bounded {n : Nat} (hb : m.Beside t k st)
    (hn : m.engine.milestone n = .done m.alone) : k ≤ n + 1 := by
  cases hb with
  | waiting _ _ => exact Nat.zero_le _
  | @going k u _ _ hk _ _ =>
    by_contra hlate
    exact Engine.milestone_ne_done hk (by omega) _ hn
  | @done k hfirst _ _ =>
    by_contra hlate
    exact hfirst n (by omega) _ hn

/-- A run that waits, made as a whole, comes to what it comes to by itself. -/
theorem Beside.run (hb : m.Beside t 0 .waiting) (hp : m.engine.executor.phase = .created)
    {limit : Nat} (hl : m.engine.run limit = .ok (some m.alone)) :
    ∃ g, t.run limit m.name = (t.put m.name m.post g, m.answer.map some) ∧
      m.sight.Alike m.alone.1.world g.world ∧ m.Quiet t g := by
  obtain ⟨hf, he⟩ := hb
  rename_i h
  rcases he.run limit with ⟨f, hg, _⟩ | ⟨x, y, hg, hh, hrel⟩
  · cases hg.symm.trans hl
  · cases hg.symm.trans hl
    obtain @⟨_, b, hb, ho⟩ := hrel
    refine ⟨b.1, ?_, hb.world, ?_⟩
    · unfold Session.run
      rw [hf]
      dsimp only
      rw [hh]
      dsimp only
      rw [ho]
      rfl
    · intro v hv hw
      have hcreated : h.executor.phase = .created := by rw [he.executor, hp]
      rw [← Session.engine_world hf] at hw ⊢
      exact (Engine.run_hides (hv.echoed he) hcreated hh).world (he.executor ▸ hv.unseen) hw

end Member

namespace Session.Hosts

variable {s : Session τ} {ms : List (Member τ)} {m m' : Member τ} {i j : Nat}

theorem names_nodup (h : s.Hosts ms) : (ms.map (·.name)).Nodup := by
  obtain ⟨hproblem, _⟩ := sharing?_eq_none.mp h.owned
  rw [List.map_map] at hproblem
  refine List.Nodup.map_on ?_ (List.Nodup.of_map _ hproblem)
  intro m hm m' hm' hname
  have hfound := h.found m hm
  rw [hname, h.found m' hm'] at hfound
  obtain ⟨hpost, _⟩ := Prod.mk.inj (Except.ok.inj hfound)
  refine List.inj_on_of_nodup_map hproblem hm hm' ?_
  unfold Function.comp
  dsimp only
  rw [hname, hpost]

theorem foreign (h : s.Hosts ms) (hi : ms[i]? = some m) (hj : ms[j]? = some m') (hij : i ≠ j) :
    m.Foreign m' := by
  have hm := List.mem_of_getElem? hi
  have hm' := List.mem_of_getElem? hj
  have hname : m'.name ≠ m.name := by
    intro hsame
    have hi' : (ms.map (·.name))[i]? = some m.name := by rw [List.getElem?_map, hi]; rfl
    have hj' : (ms.map (·.name))[j]? = some m.name := by rw [List.getElem?_map, hj, ← hsame]; rfl
    obtain ⟨hlt, _⟩ := List.getElem?_eq_some_iff.mp hi'
    exact hij ((List.getElem?_inj hlt h.names_nodup).mp (hi'.trans hj'.symm))
  have hapart : m'.post.Apart m.post := apart_of_sharing? h.owned
    (List.mem_map.mpr ⟨m', hm', rfl⟩) (List.mem_map.mpr ⟨m, hm, rfl⟩)
    (fun hpair => hname (congrArg Prod.fst hpair))
  exact ⟨hname, hapart, (h.overlooks m hm m' hm' hname).hidden⟩

theorem heeds (h : s.Hosts ms) (hm : m ∈ ms) : m.engine.executor.Heeds m.sight := by
  refine ⟨fun htimer => ?_, h.observers m hm, fun p hp => ?_, fun n hn => hn⟩
  · cases (h.untimed m hm).symm.trans htimer
  · rw [Member.sight_cabinets hp]
    exact (h.stores m hm p hp).1

theorem sound (h : s.Hosts ms) (hm : m ∈ ms) : m.sight.Alike s.world s.world := by
  have hnames : s.world.signals.names = m.sight.names := by
    unfold Member.sight
    rw [engine_world (h.found m hm)]
  refine ⟨⟨hnames, hnames⟩, fun _ _ => rfl, h.outlets m hm, fun name => ?_, fun _ => rfl⟩
  unfold Member.sight
  dsimp only
  cases hp : m.engine.executor.policy with
  | none => trivial
  | some p =>
    dsimp only
    split
    · rename_i hsame
      rw [← hsame]
      exact (h.stores m hm p hp).2
    · trivial

theorem milestone (h : s.Hosts ms) (hm : m ∈ ms) : ∃ k, m.engine.milestone k = .done m.alone := by
  obtain ⟨limit, hlimit⟩ := h.alone m hm
  exact Engine.run_milestone (h.created m hm) hlimit

theorem alone_unique (h : s.Hosts ms) (hm : m ∈ ms) (k : Nat) (a : Engine τ × Outcome τ)
    (hk : m.engine.milestone k = .done a) : a = m.alone := by
  obtain ⟨n, hn⟩ := h.milestone hm
  exact Engine.milestone_unique hn hk

theorem waiting (h : s.Hosts ms) (hm : m ∈ ms) (e : Event τ) :
    m.Beside { s with world := s.world.note e } 0 .waiting := by
  obtain ⟨hpost, hengine⟩ := engine_ok (h.found m hm)
  have hworld := engine_world (h.found m hm)
  have hself : m.engine.Echoes m.sight m.engine := .echoes (h.heeds hm) (hworld ▸ h.sound hm)
  have hnoted : m.engine.Echoes m.sight (m.engine.note e) :=
    hself.inWorld (hself.world.noted e)
  refine .waiting ?_ hnoted
  have hstanding : m.engine.note e =
      ({ s with world := s.world.note e } : Session τ).standing m.post m.post.executor := by
    rw [hengine]
    rfl
  rw [hstanding]
  exact engine_eq (s := { s with world := s.world.note e }) hpost

end Session.Hosts

/-! ## All the runs of a pool -/

namespace Pool

/-- A pool each of whose runs stands beside the run by itself, after the stages
that were chosen of it. Whoever sees nothing of the executors finds the world as
it was. -/
structure Abides (q : Pool τ) (s : Session τ) (ms : List (Member τ)) (made : List Nat) :
    Prop where
  length : q.runs.length = ms.length
  beside : ∀ (i : Nat) (m : Member τ), ms[i]? = some m →
    ∃ st, q.runs[i]? = some (m.name, st) ∧ m.Beside q.session (made.count i) st
  chosen : ∀ i ∈ made, i < ms.length
  others : ∀ v : Sight τ, (∀ m ∈ ms, m.Hidden v) → v.Alike s.world s.world →
    v.Alike s.world q.session.world

variable {s : Session τ} {ms : List (Member τ)} {q q' : Pool τ} {made : List Nat} {workers : Nat}
  {i : Nat} {m : Member τ}

theorem abides_at_first (h : s.Hosts ms) (workers : Nat) :
    (s.pool (ms.map (·.name)) workers).Abides s ms [] := by
  refine ⟨by simp [Session.pool], ?_, fun i hi => absurd hi List.not_mem_nil,
    fun v _ hw => hw.noted _⟩
  intro i m hi
  refine ⟨.waiting, ?_, h.waiting (List.mem_of_getElem? hi) _⟩
  simp [Session.pool, hi]

/-- A stage of one run leaves the other runs where they are. -/
theorem Abides.after (hq : q.Abides s ms made) (h : s.Hosts ms) (hi : ms[i]? = some m)
    {r : Session τ × Stage τ} {g : Engine τ} (hr : r.1 = q.session.put m.name m.post g)
    (hb : m.Beside r.1 (made.count i + 1) r.2) (hquiet : m.Quiet q.session g) :
    (q.after i m.name r).Abides s ms (made ++ [i]) := by
  obtain ⟨hlt, _⟩ := List.getElem?_eq_some_iff.mp hi
  refine ⟨by simp [Pool.after, hq.length], ?_, ?_, fun v hv hw => ?_⟩
  · intro j m' hj
    by_cases hij : i = j
    · subst hij
      cases hi.symm.trans hj
      refine ⟨r.2, ?_, ?_⟩
      · simp [Pool.after, hq.length, hlt]
      · rw [List.count_append, List.count_singleton_self]
        exact hb
    · obtain ⟨st, hst, hbeside⟩ := hq.beside j m' hj
      have hforeign := h.foreign hj hi (Ne.symm hij)
      refine ⟨st, ?_, ?_⟩
      · simp [Pool.after, hij, hst]
      · rw [List.count_append, List.count_singleton, if_neg (by simpa using hij), Nat.add_zero]
        have hframe := hbeside.frame hforeign
          (hquiet _ hforeign.hidden hbeside.sound)
        rw [← hr] at hframe
        exact hframe
  · intro j hj
    rcases List.mem_append.mp hj with hj | hj
    · exact hq.chosen j hj
    · exact List.mem_singleton.mp hj ▸ hlt
  · have hnow := hq.others v hv hw
    have hnext := hquiet v (hv m (List.mem_of_getElem? hi)) hnow.right
    unfold Pool.after
    rw [hr]
    exact hnow.trans hnext

/-- Whichever run moves, all stand beside the runs by themselves. -/
theorem Abides.step (hq : q.Abides s ms made) (h : s.Hosts ms) (hs : q.step workers i = some q') :
    q'.Abides s ms (made ++ [i]) := by
  have hlt : i < ms.length := by
    rw [← hq.length]
    by_contra hge
    have hnone : q.runs[i]? = none := List.getElem?_eq_none (Nat.le_of_not_lt hge)
    unfold Pool.step at hs
    rw [hnone] at hs
    cases hs
  have hi : ms[i]? = some ms[i] := List.getElem?_eq_getElem hlt
  have hm := List.mem_of_getElem? hi
  obtain ⟨st, hst, hb⟩ := hq.beside i _ hi
  unfold Pool.step at hs
  rw [hst] at hs
  cases st with
  | waiting =>
    dsimp only at hs
    split at hs
    · cases hs
      generalize hk : made.count i = k at hb
      obtain ⟨_, _⟩ := hb
      rename_i hfound hechoes
      obtain ⟨g, hput, hbeside, hquiet⟩ := (Member.Beside.waiting hfound hechoes).takeUp
        (h.created _ hm) (h.alone_unique hm)
      exact hq.after h hi hput (hk ▸ hbeside) hquiet
    · cases hs
  | going p e run started =>
    cases hs
    obtain ⟨g, hput, hbeside, hquiet⟩ := hb.moveOn (h.alone_unique hm)
    exact hq.after h hi hput hbeside hquiet
  | done r => cases hs

/-- So it is after any schedule. -/
theorem Abides.follow (hq : q.Abides s ms made) (h : s.Hosts ms) {schedule : List Nat}
    (hf : q.follow workers schedule = some q') : q'.Abides s ms (made ++ schedule) := by
  induction schedule generalizing q made with
  | nil =>
    cases hf
    rw [List.append_nil]
    exact hq
  | cons i schedule ih =>
    unfold Pool.follow at hf
    obtain ⟨u, hu, hf⟩ := Option.bind_eq_some_iff.mp hf
    have hall := ih (hq.step h hu) hf
    rw [List.append_assoc] at hall
    exact hall

/-- A schedule is no longer than the runs by themselves are together. -/
theorem Abides.bounded (hq : q.Abides s ms made) {n : Nat → Nat}
    (hn : ∀ (i : Nat) (m : Member τ), ms[i]? = some m →
      m.engine.milestone (n i) = .done m.alone) :
    made.length ≤ ∑ i ∈ Finset.range ms.length, (n i + 1) := by
  have hlength : ∑ i ∈ Finset.range ms.length, made.count i = made.length := by
    have hcard := Multiset.sum_count_eq_card (m := (made : Multiset Nat)) fun i hi =>
      Finset.mem_range.mpr (hq.chosen i (Multiset.mem_coe.mp hi))
    simpa only [Multiset.coe_count, Multiset.coe_card] using hcard
  rw [← hlength]
  refine Finset.sum_le_sum fun i hi => ?_
  have hi' := List.getElem?_eq_getElem (Finset.mem_range.mp hi)
  obtain ⟨st, _, hb⟩ := hq.beside i _ hi'
  exact hb.bounded (hn i _ hi')

/-- Once all runs are over, each has come to what it comes to by itself. -/
theorem Abides.finished (hq : q.Abides s ms made) {r : Except Fault (List (Outcome τ))}
    (hr : q.results = some r) :
    r = ms.mapM Member.answer ∧ ∀ m ∈ ms, m.sight.Alike m.alone.1.world q.session.world := by
  have hover : ∀ (i : Nat) (m : Member τ), ms[i]? = some m →
      q.runs[i]? = some (m.name, .done m.answer) ∧
        m.sight.Alike m.alone.1.world q.session.world := by
    intro i m hi
    obtain ⟨st, hst, hb⟩ := hq.beside i m hi
    obtain ⟨y, rfl⟩ := over_of_results hr _ (List.mem_of_getElem? hst)
    generalize hk : made.count i = k at hb
    obtain _ | _ | ⟨_, _, hw⟩ := hb
    exact ⟨hst, hw⟩
  have hruns : q.runs = ms.map fun m => (m.name, .done m.answer) := by
    refine List.ext_getElem? fun i => ?_
    rw [List.getElem?_map]
    cases hi : ms[i]? with
    | some m => exact (hover i m hi).1
    | none =>
      refine List.getElem?_eq_none ?_
      rw [hq.length]
      exact List.getElem?_eq_none_iff.mp hi
  refine ⟨?_, ?_⟩
  · unfold results at hr
    rw [hruns, List.mapM_map] at hr
    have hmapM : (ms.mapM ((fun x : String × Stage τ => x.2.result?) ∘ fun m =>
        (m.name, .done m.answer))) = some (ms.map Member.answer) := List.mapM_pure
    rw [hmapM, Option.map_some, List.mapM_map] at hr
    exact (Option.some.inj hr).symm
  · intro m hm
    obtain ⟨i, hi⟩ := List.getElem?_of_mem hm
    exact (hover i m hi).2

end Pool

/-! ## The runs one after the other -/

namespace Member

/-- Two members that are foreign to each other. -/
def Strangers (m m' : Member τ) : Prop := m.Foreign m' ∧ m'.Foreign m

/-- Runs that wait, made one after the other, come to what they come to by
themselves, and nothing is seen of them by whoever sees nothing of their
executors. -/
theorem runEach_alone {t : Session τ} {ms : List (Member τ)} {limit : Nat}
    (hb : ∀ m ∈ ms, m.Beside t 0 .waiting) (hms : ms.Pairwise Strangers)
    (hp : ∀ m ∈ ms, m.engine.executor.phase = .created)
    (hl : ∀ m ∈ ms, m.engine.run limit = .ok (some m.alone)) :
    (Session.runEach limit t (ms.map (·.name))).2 = ms.map (·.answer.map some) ∧
      (∀ m ∈ ms, m.sight.Alike m.alone.1.world
        (Session.runEach limit t (ms.map (·.name))).1.world) ∧
      ∀ v : Sight τ, (∀ m ∈ ms, m.Hidden v) → v.Alike t.world t.world →
        v.Alike t.world (Session.runEach limit t (ms.map (·.name))).1.world := by
  induction ms generalizing t with
  | nil => exact ⟨rfl, fun m hm => absurd hm List.not_mem_nil, fun s _ hw => hw⟩
  | cons m ms ih =>
    obtain ⟨hstrangers, hrest⟩ := List.pairwise_cons.mp hms
    -- the first of them runs as by itself
    obtain ⟨b, hrun, hout, hquiet⟩ :=
      (hb m List.mem_cons_self).run (hp m List.mem_cons_self) (hl m List.mem_cons_self)
    have hframe : ∀ m' ∈ ms, m'.Beside (t.put m.name m.post b) 0 .waiting := by
      intro m' hm'
      have hbeside := hb m' (List.mem_cons_of_mem _ hm')
      have hforeign := (hstrangers m' hm').2
      exact hbeside.frame hforeign (hquiet _ hforeign.hidden hbeside.sound)
    obtain ⟨hanswers, halike, hothers⟩ := ih hframe hrest
      (fun m' hm' => hp m' (List.mem_cons_of_mem _ hm'))
      (fun m' hm' => hl m' (List.mem_cons_of_mem _ hm'))
    have hworld : (t.put m.name m.post b).world = b.world := rfl
    have hstep : Session.runEach limit t ((m :: ms).map (·.name)) =
        ((Session.runEach limit (t.put m.name m.post b) (ms.map (·.name))).1,
          m.answer.map some ::
            (Session.runEach limit (t.put m.name m.post b) (ms.map (·.name))).2) := by
      rw [List.map_cons, Session.runEach, hrun]
    rw [hstep]
    refine ⟨?_, ?_, ?_⟩
    · rw [hanswers]
      rfl
    · refine List.forall_mem_cons.mpr ⟨?_, halike⟩
      exact hout.trans (hothers _ (fun m' hm' => (hstrangers m' hm').1.hidden) hout.right)
    · intro v hv hw
      obtain ⟨hfirst, hlater⟩ := List.forall_mem_cons.mp hv
      have hone := hquiet v hfirst hw
      exact hone.trans (hothers v hlater hone.right)

end Member

namespace Session.Hosts

variable {s : Session τ} {ms : List (Member τ)}

theorem strangers (h : s.Hosts ms) : ms.Pairwise Member.Strangers := by
  refine List.pairwise_iff_getElem.mpr ?_
  intro i j hi hj hij
  have hi' := List.getElem?_eq_getElem hi
  have hj' := List.getElem?_eq_getElem hj
  exact ⟨h.foreign hi' hj' (Nat.ne_of_lt hij), h.foreign hj' hi' (Nat.ne_of_gt hij)⟩

theorem posts (h : s.Hosts ms) :
    (ms.map (·.name)).mapM (fun n => (s.posts.need n).map fun p => (n, p)) =
      .ok (ms.map fun m => (m.name, m.post)) := by
  have hfound := h.found
  clear h
  induction ms with
  | nil => rfl
  | cons m ms ih =>
    obtain ⟨hm, hms⟩ := List.forall_mem_cons.mp hfound
    have hneed : s.posts.need m.name = .ok m.post := by
      unfold Table.need
      rw [(engine_ok hm).1]
      rfl
    rw [List.map_cons, List.mapM_cons, hneed, ih hms]
    rfl

/-- Some number of iterations is enough for all the runs by themselves. -/
theorem enough (h : s.Hosts ms) :
    ∃ n, ∀ limit, n ≤ limit → ∀ m ∈ ms, m.engine.run limit = .ok (some m.alone) := by
  have hcreated := h.created
  have halone := h.alone
  clear h
  induction ms with
  | nil => exact ⟨0, fun _ _ m hm => absurd hm List.not_mem_nil⟩
  | cons m ms ih =>
    obtain ⟨hm, hms⟩ := List.forall_mem_cons.mp hcreated
    obtain ⟨⟨l, hl⟩, hrest⟩ := List.forall_mem_cons.mp halone
    obtain ⟨n, hn⟩ := ih hms hrest
    refine ⟨max l n, fun limit hlimit => List.forall_mem_cons.mpr ⟨?_, hn limit (by omega)⟩⟩
    rw [Engine.run_created hm] at hl ⊢
    obtain ⟨x, hx, ha⟩ := Option.map_eq_some_iff.mp (Except.ok.inj hl)
    have hmore := Engine.attempt_more hx (limit - l)
    rw [show l + (limit - l) = limit by omega] at hmore
    rw [hmore, Option.map_some, ha]

end Session.Hosts

/-! ## What is left -/

/-- That a world is left for a member as its run leaves it by itself: it looks the
same, and the store of its policy has the same under the key. -/
structure Member.LeftIn (m : Member τ) (w : World τ) : Prop where
  world : m.sight.Alike m.alone.1.world w
  holds : ∀ p, m.engine.executor.policy = some p →
    p.store.holds (.text p.key) (w.cabinet p.cabinet) =
      p.store.holds (.text p.key) (m.alone.1.world.cabinet p.cabinet)
  load : ∀ p, m.engine.executor.policy = some p →
    p.store.load (.text p.key) (w.cabinet p.cabinet) =
      p.store.load (.text p.key) (m.alone.1.world.cabinet p.cabinet)

namespace Session

/-- That a world is left for each member as its run leaves it by itself; and what
cabinets have under the keys to which none of them saves is as it was. -/
structure LeftBy (s : Session τ) (ms : List (Member τ)) (w : World τ) : Prop where
  members : ∀ m ∈ ms, m.LeftIn w
  others : ∀ (parts : String → Semblance (Cabinet τ)) (cabinet key : String),
    (parts key).r (s.world.cabinet cabinet) (s.world.cabinet cabinet) →
    (∀ m ∈ ms, ∀ p, m.engine.executor.policy = some p → p.cabinet = cabinet →
      p.key ≠ key ∧ p.store.Keyed parts) →
    (parts key).r (s.world.cabinet cabinet) (w.cabinet cabinet)

/-- The sight of nothing but a part of a cabinet. -/
def glimpse (s : Session τ) (cabinet : String) (part : Semblance (Cabinet τ)) : Sight τ where
  names := s.world.signals.names
  signals _ := False
  outlets := .any _
  cabinets name := if name = cabinet then part else .any _
  timed := False

variable {s : Session τ} {ms : List (Member τ)} {m : Member τ} {cabinet key : String}
  {parts : String → Semblance (Cabinet τ)}

omit [Clock τ] in
theorem glimpse_cabinets (s : Session τ) (cabinet : String) (part : Semblance (Cabinet τ)) :
    (s.glimpse cabinet part).cabinets cabinet = part := if_pos rfl

omit [Clock τ] in
theorem hidden_glimpse (hm : ∀ p, m.engine.executor.policy = some p → p.cabinet = cabinet →
    p.key ≠ key ∧ p.store.Keyed parts) : m.Hidden (s.glimpse cabinet (parts key)) := by
  have hcall (c : Call τ) : c.Unseen (s.glimpse cabinet (parts key)) :=
    Call.unseen_of_blind (fun _ => id) id c
  refine ⟨⟨fun _ _ => hcall _, fun e _ => ⟨?_, ?_⟩, ?_⟩, fun _ _ _ _ => hcall _⟩
  · exact fun _ _ _ => ⟨trivial, fun _ _ _ _ => id⟩
  · exact fun _ _ _ _ _ => ⟨trivial, fun _ _ _ _ => id⟩
  · intro p hp
    unfold glimpse
    dsimp only
    split
    · rename_i hsame
      obtain ⟨hkey, hkeyed⟩ := hm p hp hsame
      exact hkeyed.apart _ _ hkey
    · exact fun _ _ _ => trivial

theorem Hosts.leftBy (h : s.Hosts ms) {w : World τ}
    (halike : ∀ m ∈ ms, m.sight.Alike m.alone.1.world w)
    (hothers : ∀ v : Sight τ, (∀ m ∈ ms, m.Hidden v) → v.Alike s.world s.world →
      v.Alike s.world w) : s.LeftBy ms w := by
  refine ⟨fun m hm => ⟨halike m hm, fun p hp => ?_, fun p hp => ?_⟩, ?_⟩
  · exact ((h.heeds hm).policy p hp).holds _ _ ((halike m hm).cabinets p.cabinet)
  · exact ((h.heeds hm).policy p hp).load _ _ ((halike m hm).cabinets p.cabinet)
  · intro parts cabinet key hpart hms
    have hsees : (s.glimpse cabinet (parts key)).Alike s.world s.world := by
      refine ⟨⟨rfl, rfl⟩, fun _ _ => rfl, trivial, fun name => ?_, fun _ => rfl⟩
      unfold glimpse
      dsimp only
      split
      · rename_i hsame
        rw [hsame]
        exact hpart
      · trivial
    have hleft := hothers _ (fun m hm => hidden_glimpse (hms m hm)) hsees
    have hcabinet := hleft.cabinets cabinet
    rwa [glimpse_cabinets] at hcabinet

omit [Clock τ] in
theorem keep_world (s : Session τ) (es : List (String × Outcome τ)) :
    (es.foldl (fun s e => s.keep e.1 e.2) s).world = s.world := by
  induction es generalizing s with
  | nil => rfl
  | cons e es ih => exact ih _

omit [Clock τ] in
theorem workerCount_nonneg (executors : Nat) {workers : Option Int}
    (hw : ∀ n, workers = some n → 0 ≤ n) : 0 ≤ workerCount executors workers := by
  unfold workerCount
  cases workers with
  | none => exact Int.natCast_nonneg _
  | some n =>
    dsimp only
    split
    · exact Int.natCast_nonneg _
    · exact hw n rfl

omit [Clock τ] in
/-- Of runs none of which was cut off, the answers are those of the runs by
themselves. -/
theorem mapM_answer (ms : List (Member τ)) :
    ms.mapM (fun m => m.answer.map some) = (ms.mapM Member.answer).map (List.map some) := by
  induction ms with
  | nil => rfl
  | cons m ms ih =>
    rw [List.mapM_cons, List.mapM_cons, ih]
    cases m.answer with
    | error f => rfl
    | ok o => cases ms.mapM Member.answer <;> rfl

/-- Executors that have nothing in common, run together, come to what they come to
by themselves. -/
theorem Hosts.runTogether (h : s.Hosts ms) {limit : Nat}
    (hl : ∀ m ∈ ms, m.engine.run limit = .ok (some m.alone)) {workers : Option Int}
    (hw : ∀ n, workers = some n → 0 ≤ n) :
    ∃ s', s.runTogether limit (ms.map (·.name)) workers = (s', ms.mapM Member.answer) ∧
      s.LeftBy ms s'.world := by
  by_cases hempty : (ms.map (·.name)).isEmpty = true
  · obtain rfl : ms = [] := by simpa using hempty
    exact ⟨s, rfl, h.leftBy (fun m hm => absurd hm List.not_mem_nil) fun _ _ hw => hw⟩
  · have hcount := workerCount_nonneg (ms.map (·.name)).length hw
    generalize hn : workerCount (ms.map (·.name)).length workers = n at hcount
    obtain ⟨hanswers, halike, hothers⟩ := Member.runEach_alone
      (fun m hm => h.waiting hm (.pooled (ms.map (·.name)).length n)) h.strangers h.created hl
    unfold Session.runTogether
    rw [if_neg hempty, h.posts]
    dsimp only
    rw [h.owned]
    dsimp only
    rw [hn, if_neg (Int.not_lt.mpr hcount)]
    generalize runEach limit { s with
      world := s.world.note (.pooled (ms.map (·.name)).length n) } (ms.map (·.name)) = r
      at hanswers halike hothers ⊢
    obtain ⟨s', rs⟩ := r
    dsimp only at hanswers halike hothers ⊢
    subst hanswers
    have hleft := h.leftBy halike fun v hv hw =>
      (hw.noted _).trans (hothers v hv (hw.noted _).right)
    rw [List.mapM_map, show (id ∘ fun m : Member τ => m.answer.map some) =
      fun m => m.answer.map some from rfl, mapM_answer]
    cases ms.mapM Member.answer with
    | error f => exact ⟨_, rfl, hleft⟩
    | ok os =>
      have hsome : (os.map some).filterMap id = os := by
        rw [List.filterMap_map]
        exact List.filterMap_some
      dsimp only [Except.map]
      rw [hsome]
      refine ⟨_, rfl, ?_⟩
      rw [keep_world]
      exact hleft

/-- Executors of which two share a problem or a state are refused, with nothing
done at all. -/
theorem runTogether_shared {names : List String} {ps : List (String × Post τ)}
    (hps : names.mapM (fun n => (s.posts.need n).map fun p => (n, p)) = .ok ps) {i j : Nat}
    {x y : String × Post τ} (hij : i < j) (hi : ps[i]? = some x) (hj : ps[j]? = some y)
    (hsame : x.2.problemInstance x.1 = y.2.problemInstance y.1 ∨
      x.2.stateInstance x.1 = y.2.stateInstance y.1) (limit : Nat) (workers : Option Int) :
    ∃ f, s.runTogether limit names workers = (s, .error f) ∧ f.kind = "ValueError" := by
  obtain ⟨what, hwhat⟩ := sharing?_of_same hij hi hj hsame
  refine ⟨.argument (.sharedInstance what), ?_, rfl⟩
  have hempty : ¬ names.isEmpty = true := by
    intro hnone
    obtain rfl := List.isEmpty_iff.mp hnone
    cases hps
    cases hi
  unfold Session.runTogether
  rw [if_neg hempty, hps]
  dsimp only
  rw [hwhat]

/-- Executors that have nothing in common, run in a pool, come to what they come to
by themselves, whatever the schedule. -/
theorem Hosts.pooled (h : s.Hosts ms) :
    ∃ bound, ∀ workers schedule q, 0 < workers →
      (s.pool (ms.map (·.name)) workers).follow workers schedule = some q →
      schedule.length ≤ bound ∧
      ((q.results = none ∧ ∃ i q', q.step workers i = some q') ∨
        (q.results = some (ms.mapM Member.answer) ∧ s.LeftBy ms q.session.world)) := by
  have hchoice : ∀ i : Nat, ∃ n, ∀ m : Member τ, ms[i]? = some m →
      m.engine.milestone n = .done m.alone := by
    intro i
    cases hi : ms[i]? with
    | none => exact ⟨0, fun m hm => nomatch hm⟩
    | some m =>
      obtain ⟨n, hn⟩ := h.milestone (List.mem_of_getElem? hi)
      exact ⟨n, fun m' hm' => Option.some.inj hm' ▸ hn⟩
  choose n hn using hchoice
  refine ⟨∑ i ∈ Finset.range ms.length, (n i + 1), fun workers schedule q hworkers hq => ?_⟩
  have habides := (Pool.abides_at_first h workers).follow h hq
  refine ⟨habides.bounded hn, ?_⟩
  cases hr : q.results with
  | none => exact .inl ⟨rfl, Pool.step_of_results hworkers hr⟩
  | some r =>
    obtain ⟨rfl, halike⟩ := habides.finished hr
    exact .inr ⟨rfl, h.leftBy halike habides.others⟩

/-- Runs in a pool are independent of the schedule. Executors own their problems and
their states, have not run yet, are not timed, and have nothing else in common that they
see; they may save to one store, but under different keys. Then, with any number of
workers, no schedule of their iterations is longer than their runs by themselves allow;
as long as not all of them are over, one can move on; and once they are, what is handed
back of them is, in order, what is of each by itself (the first failure if the end of
one cannot be told), and the world is left for each as by its run alone, with the same
under its key in its store and nothing changed under other keys. So it is with
`runTogether`, which runs them in order. But if any two of the executors share a problem
or a state, it is refused, with nothing done at all. -/
theorem concurrent_runs_are_independent_of_the_schedule (s : Session τ) :
    (∀ ms : List (Member τ), s.Hosts ms →
      (∃ bound, ∀ workers schedule q, 0 < workers →
        (s.pool (ms.map (·.name)) workers).follow workers schedule = some q →
        schedule.length ≤ bound ∧
        ((q.results = none ∧ ∃ i q', q.step workers i = some q') ∨
          (q.results = some (ms.mapM Member.answer) ∧ s.LeftBy ms q.session.world))) ∧
      ∃ enough, ∀ limit workers, enough ≤ limit → (∀ n, workers = some n → 0 ≤ n) →
        ∃ s', s.runTogether limit (ms.map (·.name)) workers = (s', ms.mapM Member.answer) ∧
          s.LeftBy ms s'.world) ∧
    ∀ names ps, names.mapM (fun n => (s.posts.need n).map fun p => (n, p)) = .ok ps →
      (∃ (i j : Nat) (x y : String × Post τ), i < j ∧ ps[i]? = some x ∧ ps[j]? = some y ∧
        (x.2.problemInstance x.1 = y.2.problemInstance y.1 ∨
          x.2.stateInstance x.1 = y.2.stateInstance y.1)) →
      ∀ limit workers, ∃ f, s.runTogether limit names workers = (s, .error f) ∧
        f.kind = "ValueError" := by
  refine ⟨fun ms h => ⟨h.pooled, ?_⟩, ?_⟩
  · obtain ⟨enough, henough⟩ := h.enough
    exact ⟨enough, fun limit workers hlimit hw => h.runTogether (henough limit hlimit) hw⟩
  · intro names ps hps hshared limit workers
    obtain ⟨i, j, x, y, hij, hi, hj, hsame⟩ := hshared
    exact runTogether_shared hps hij hi hj hsame limit workers

/-! ## Two runs that save to one store -/

/-- A replay that saves to a store in memory under a key, where saves are noted, and
whose records are captured in an outlet. -/
def saver (slot : Nat) (key : String) : Engine Float :=
  (Engine.underLimit (Sample.replay [true, false]) 1
    (some ⟨"0", Checkpoint.Memory.store.noting "0", key, .always, false, false, none⟩) none
    { World.start 0 with outlets := ⟨.empty, [], [.empty, .empty]⟩ }).watchedBy
      (Capture.observer slot)

def saverPost (slot : Nat) (key : String) : Post Float := ⟨(saver slot key).executor, none, none⟩

def savers : Session Float where
  world := (saver 0 "a").world
  problems := .empty
  states := .empty
  shelves := .empty
  posts := (Table.empty.insert "first" (saverPost 0 "a")).insert "second" (saverPost 1 "b")
  reports := .empty

theorem saver_ends (slot : Nat) (key : String) :
    ∃ a, (saver slot key).run 1 = .ok (some a) ∧ a.2.iterations = 1 ∧
      a.2.handedBack = .ok a.2 := by
  have hreplays : (saver slot key).begun.settled.Replays [true, false] :=
    ⟨rfl, List.cons_ne_nil _ _, Int.le_refl 0⟩
  obtain ⟨a, ha, _, hits, hreason, b, hbest⟩ := hreplays.run (m := 1) (n := 1) rfl rfl
    ⟨rfl, rfl, fun _ => rfl, fun h => nomatch h⟩ rfl (fun p hp => .inl (by cases hp; rfl)) rfl
    (Int.le_refl 1)
  have hone : a.2.iterations = 1 := hits
  have hwritable : a.2.isWritable = true :=
    Engine.isWritable_of_limit (by rw [hone]; decide) hreason hbest
  exact ⟨a, ha, hone, ((a.2.lastWord_cases "").1 hwritable).1⟩

theorem noted_keyed : (Checkpoint.Memory.store.noting "0" : Store Float).Keyed
    Checkpoint.Memory.part := Checkpoint.Memory.keyed.noting _ fun _ _ _ _ _ h => h

def member (name : String) (slot : Nat) (key : String) (a : Engine Float × Outcome Float) :
    Member Float :=
  ⟨name, saverPost slot key, saver slot key, Outlets.slot slot, Checkpoint.Memory.part, a⟩

theorem member_overlooks {name name' key key' : String} {slot slot' : Nat}
    {a b : Engine Float × Outcome Float} (hslot : slot' ≠ slot) (hkey : key' ≠ key) :
    (member name slot key a).Overlooks (member name' slot' key' b) := by
  have hcall (c : Call Float) : c.Unseen (member name slot key a).sight :=
    Call.unseen_of_blind (fun n hn => nomatch (show none = some n from hn)) id c
  refine ⟨fun _ _ => hcall _, fun _ _ _ _ => hcall _, ?_, ?_⟩
  · intro e he
    obtain rfl := List.mem_singleton.mp he
    exact Capture.observer_unseen rfl hslot
  · rintro p p' ⟨rfl⟩ ⟨rfl⟩ _
    exact ⟨hkey, noted_keyed⟩

theorem savers_hosts {a b : Engine Float × Outcome Float}
    (ha : (saver 0 "a").run 1 = .ok (some a)) (hb : (saver 1 "b").run 1 = .ok (some b)) :
    savers.Hosts [member "first" 0 "a" a, member "second" 1 "b" b] := by
  have both {P : Member Float → Prop} (hfirst : P (member "first" 0 "a" a))
      (hsecond : P (member "second" 1 "b" b)) :
      ∀ m ∈ [member "first" 0 "a" a, member "second" 1 "b" b], P m :=
    List.forall_mem_cons.mpr ⟨hfirst, List.forall_mem_singleton.mpr hsecond⟩
  have hcaptures (slot : Nat) (key : String) : ∀ e ∈ (saver slot key).executor.observers.entries,
      e.2.observer.Heeds (Outlets.slot slot) := by
    intro e he
    obtain rfl := List.mem_singleton.mp he
    exact Capture.observer_heeds slot
  have hheeds (slot : Nat) (key : String) : ∀ p, (saver slot key).executor.policy = some p →
      p.store.Heeds (.text p.key) (Checkpoint.Memory.part p.key) ∧
        (Checkpoint.Memory.part p.key).r (savers.world.cabinet p.cabinet)
          (savers.world.cabinet p.cabinet) := by
    rintro p ⟨rfl⟩
    exact ⟨noted_keyed.heeds key, rfl⟩
  have hnames : [Instance.own "first", Instance.own "second"].Nodup := by decide
  exact {
    found := both rfl rfl
    created := both rfl rfl
    untimed := both rfl rfl
    owned := sharing?_eq_none.mpr ⟨hnames, hnames⟩
    outlets := both rfl rfl
    observers := both (hcaptures 0 "a") (hcaptures 1 "b")
    stores := both (hheeds 0 "a") (hheeds 1 "b")
    overlooks := both
      (both (fun h => absurd rfl h) fun _ => member_overlooks (by decide) (by decide))
      (both (fun _ => member_overlooks (by decide) (by decide)) fun h => absurd rfl h)
    alone := both ⟨1, ha⟩ ⟨1, hb⟩ }

/-- The law for the savers, with two workers: however their iterations mix, both
outcomes come back in order, and the store has the checkpoints of both. To run one
of them beside itself is refused. -/
theorem savers_can_be_run_at_once :
    ∃ a b, a.2.iterations = 1 ∧ b.2.iterations = 1 ∧
      (saver 0 "a").run 1 = .ok (some a) ∧ (saver 1 "b").run 1 = .ok (some b) ∧
      (∃ bound, ∀ schedule q, (savers.pool ["first", "second"] 2).follow 2 schedule = some q →
        schedule.length ≤ bound ∧
        ((q.results = none ∧ ∃ i q', q.step 2 i = some q') ∨
          (q.results = some (.ok [a.2, b.2]) ∧
            (q.session.world.cabinet "0").memory.get? "a" =
              (a.1.world.cabinet "0").memory.get? "a" ∧
            (q.session.world.cabinet "0").memory.get? "b" =
              (b.1.world.cabinet "0").memory.get? "b"))) ∧
      ∃ f, savers.runTogether 1 ["first", "first"] none = (savers, .error f) ∧
        f.kind = "ValueError" := by
  obtain ⟨a, ha, hits, hback⟩ := saver_ends 0 "a"
  obtain ⟨b, hb, hits', hback'⟩ := saver_ends 1 "b"
  have hboth : [member "first" 0 "a" a, member "second" 1 "b" b].mapM
      Member.answer = .ok [a.2, b.2] := by
    simp [Member.answer, member, hback, hback', pure, Except.pure, bind, Except.bind]
  obtain ⟨halone, hshared⟩ := concurrent_runs_are_independent_of_the_schedule savers
  obtain ⟨⟨bound, hpool⟩, _⟩ := halone _ (savers_hosts ha hb)
  refine ⟨a, b, hits, hits', ha, hb, ⟨bound, fun schedule q hq => ?_⟩, ?_⟩
  · obtain ⟨hlength, hstill | ⟨hresults, hleft⟩⟩ := hpool 2 schedule q (by decide) hq
    · exact ⟨hlength, .inl hstill⟩
    · have hfirst := hleft.members _ List.mem_cons_self
      have hsecond := hleft.members _ (List.mem_cons_of_mem _ List.mem_cons_self)
      exact ⟨hlength, .inr ⟨hresults.trans (congrArg some hboth),
        hfirst.world.cabinets "0", hsecond.world.cabinets "0"⟩⟩
  · exact hshared ["first", "first"] [("first", saverPost 0 "a"), ("first", saverPost 0 "a")] rfl
      ⟨0, 1, _, _, by decide, rfl, rfl, .inl rfl⟩ 1 none

end Session

end Minimize
