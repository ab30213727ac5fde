-- A pool of workers, which runs several executors of a session at once. The runs
-- are taken up in the order in which they were given, each as soon as a worker
-- is free, and a schedule says which of those under way moves on next.
import Mathlib.Data.List.Nodup
import Mathlib.Data.Nat.Find
import Minimize.Proofs.Breaks
import Minimize.Proofs.Stages
import Minimize.Session

namespace Minimize

variable {τ : Type}

/-! ## What executors share with a session -/

namespace Session

/-- An executor that was taken from a post, on what that post shares as it stands
now. -/
def standing (s : Session τ) (p : Post τ) (e : Executor τ) : Engine τ where
  executor := { e with
    problem := (p.problem?.bind s.problems.get?).getD e.problem
    state := if e.handed.isNone then (p.live?.bind s.states.get?).getD e.state else e.state
    handed := e.handed.map (p.live?.bind s.states.get?).getD }
  world := s.world

variable {s : Session τ} {name name' : String} {p q : Post τ} {e : Executor τ} {g : Engine τ}

/-- An executor is taken from its post on what the two share. -/
theorem engine_eq (hp : s.posts.get? name = some p) :
    s.engine name = .ok (p, s.standing p p.executor) := by
  unfold engine Table.need
  rw [hp]
  obtain ⟨e, n, m⟩ := p
  obtain ⟨_, _, _, _, _, _, _, _, _, _, _, handed⟩ := e
  cases handed <;> rfl

theorem engine_ok (h : s.engine name = .ok (p, g)) :
    s.posts.get? name = some p ∧ g = s.standing p p.executor := by
  cases hp : s.posts.get? name with
  | none =>
    unfold engine Table.need known at h
    rw [hp] at h
    cases h
  | some p' =>
    rw [engine_eq hp] at h
    cases h
    exact ⟨rfl, rfl⟩

theorem engine_world (h : s.engine name = .ok (p, g)) : g.world = s.world := by
  obtain ⟨_, rfl⟩ := engine_ok h
  rfl

end Session

/-- Posts that share neither a problem nor a state. -/
structure Post.Apart (p q : Post τ) : Prop where
  problem : ∀ n, p.problem? = some n → q.problem? ≠ some n
  state : ∀ n, p.live? = some n → q.live? ≠ some n

theorem Catalog.get?_set_ne {α : Type} (c : Catalog α) {i n : Nat} (h : n ≠ i) (a : α) :
    (c.set i a).get? n = c.get? n := by
  rw [World.get?_set, if_neg h.symm]

theorem Catalog.get?_set_getD {α : Type} (c : Catalog α) (n : Nat) (a : α) :
    ((c.set n a).get? n).getD a = a := by
  rw [World.get?_set, if_pos rfl]
  cases c.get? n <;> rfl

namespace Session

variable {s : Session τ} {name name' : String} {p q : Post τ} {g : Engine τ}

/-- An executor that was put back stands as it was put. -/
theorem standing_put_self (s : Session τ) (name : String) (p : Post τ) (g : Engine τ) :
    (s.put name p g).standing p g.executor = g := by
  have hproblem : (p.problem?.bind (s.put name p g).problems.get?).getD g.executor.problem =
      g.executor.problem := by
    unfold put
    cases p.problem? with
    | none => rfl
    | some n => exact Catalog.get?_set_getD _ n _
  have hstate : (p.live?.bind (s.put name p g).states.get?).getD
      (g.executor.handed.getD g.executor.state) = g.executor.handed.getD g.executor.state := by
    unfold put
    cases p.live? with
    | none => rfl
    | some n => exact Catalog.get?_set_getD _ n _
  have hworld : (s.put name p g).world = g.world := rfl
  unfold standing
  rw [hproblem, hworld]
  generalize p.live?.bind (s.put name p g).states.get? = found at hstate
  obtain ⟨⟨_, _, _, _, _, _, _, _, _, _, _, handed⟩, _⟩ := g
  cases handed with
  | none =>
    dsimp only [Option.getD_none] at hstate
    simp [hstate]
  | some t =>
    dsimp only [Option.getD_some] at hstate
    simp [hstate]

/-- What is put back at a post changes nothing for a post that is apart from
it. -/
theorem standing_put_apart (h : p.Apart q) (s : Session τ) (name : String) (g : Engine τ)
    (e : Executor τ) :
    (s.put name p g).standing q e = { s.standing q e with world := g.world } := by
  have hproblem : q.problem?.bind (s.put name p g).problems.get? =
      q.problem?.bind s.problems.get? := by
    unfold put
    cases hp : p.problem? with
    | none => rfl
    | some i =>
      cases hq : q.problem? with
      | none => rfl
      | some n =>
        have hne : n ≠ i := by
          rintro rfl
          exact h.problem n hp hq
        exact Catalog.get?_set_ne _ hne _
  have hstate : q.live?.bind (s.put name p g).states.get? = q.live?.bind s.states.get? := by
    unfold put
    cases hp : p.live? with
    | none => rfl
    | some i =>
      cases hq : q.live? with
      | none => rfl
      | some n =>
        have hne : n ≠ i := by
          rintro rfl
          exact h.state n hp hq
        exact Catalog.get?_set_ne _ hne _
  unfold standing
  rw [hproblem, hstate]
  rfl

/-- A post that is apart from another, under another name, is found as it was. -/
theorem engine_put_apart (h : p.Apart q) (hn : name' ≠ name) (g : Engine τ)
    (hq : s.posts.get? name' = some q) :
    (s.put name p g).engine name' = .ok (q, { s.standing q q.executor with world := g.world }) := by
  have hpost : (s.put name p g).posts.get? name' = some q := by
    unfold put
    dsimp only
    rw [Table.get?_insert_ne _ _ hn]
    exact hq
  rw [engine_eq hpost, standing_put_apart h]

theorem sharing?_eq_none {ps : List (String × Post τ)} :
    sharing? ps = none ↔ (ps.map fun p => p.2.problemInstance p.1).Nodup ∧
      (ps.map fun p => p.2.stateInstance p.1).Nodup := by
  unfold sharing?
  split
  · rename_i h
    simp [h]
  · rename_i h
    split
    · rename_i h'
      simp [h']
    · rename_i h'
      exact iff_of_true rfl ⟨not_not.mp h, not_not.mp h'⟩

/-- Two executors with one problem or one state are found out. -/
theorem sharing?_of_same {ps : List (String × Post τ)} {i j : Nat} {x y : String × Post τ}
    (hij : i < j) (hi : ps[i]? = some x) (hj : ps[j]? = some y)
    (h : x.2.problemInstance x.1 = y.2.problemInstance y.1 ∨
      x.2.stateInstance x.1 = y.2.stateInstance y.1) : ∃ what, sharing? ps = some what := by
  have hnodup {f : String × Post τ → Instance} (hf : f x = f y) : ¬ (ps.map f).Nodup := by
    intro hps
    have hsame : (ps.map f)[i]? = (ps.map f)[j]? := by
      rw [List.getElem?_map, List.getElem?_map, hi, hj, Option.map_some, Option.map_some, hf]
    have hlt : i < (ps.map f).length := by
      rw [List.length_map]
      exact (List.getElem?_eq_some_iff.mp hi).1
    exact Nat.ne_of_lt hij ((List.getElem?_inj hlt hps).mp hsame)
  rw [← Option.ne_none_iff_exists', ne_eq, sharing?_eq_none, not_and_or]
  exact h.imp hnodup hnodup

/-- Executors that share no instance are on posts that are apart. -/
theorem apart_of_sharing? {ps : List (String × Post τ)} (h : sharing? ps = none)
    {x y : String × Post τ} (hx : x ∈ ps) (hy : y ∈ ps) (hne : x ≠ y) : x.2.Apart y.2 := by
  obtain ⟨hproblem, hstate⟩ := sharing?_eq_none.mp h
  constructor
  · intro n hxn hyn
    have hsame : x.2.problemInstance x.1 = y.2.problemInstance y.1 := by
      unfold Post.problemInstance
      rw [hxn, hyn]
    exact hne (List.inj_on_of_nodup_map hproblem hx hy hsame)
  · intro n hxn hyn
    have hsame : x.2.stateInstance x.1 = y.2.stateInstance y.1 := by
      unfold Post.stateInstance
      rw [hxn, hyn]
    exact hne (List.inj_on_of_nodup_map hstate hx hy hsame)

end Session

/-! ## The pool -/

/-- How far a run of a pool has got. A run under way has the post from which its
executor was taken, the executor as it stands, the name of the run, and the time
at which it was started. -/
inductive Stage (τ : Type) where
  | waiting
  | going (p : Post τ) (e : Executor τ) (run : String) (started : τ)
  | done (r : Except Fault (Outcome τ))

namespace Stage

def isWaiting : Stage τ → Bool
  | .waiting => true
  | _ => false

def isGoing : Stage τ → Bool
  | .going _ _ _ _ => true
  | _ => false

def result? : Stage τ → Option (Except Fault (Outcome τ))
  | .done r => some r
  | _ => none

end Stage

/-- A session, and the runs in it under the names of their executors, in the order
in which they were given. -/
structure Pool (τ : Type) where
  session : Session τ
  runs : List (String × Stage τ)

namespace Session

/-- Puts an executor back after a stage of its run. -/
def settle (s : Session τ) (name : String) (p : Post τ) (run : String) (started : τ) :
    Milestone τ → Session τ × Stage τ
  | .going g => (s.put name p g, .going p g.executor run started)
  | .done a => (s.put name p a.1, .done a.2.handedBack)

theorem settle_fst (s : Session τ) (name : String) (p : Post τ) (run : String) (started : τ)
    (x : Milestone τ) : (s.settle name p run started x).1 = s.put name p x.engine := by
  cases x <;> rfl

variable [Clock τ]

/-- Takes a run up, unless its executor has run before. -/
def takeUp (s : Session τ) (name : String) : Session τ × Stage τ :=
  match s.engine name with
  | .error f => (s, .done (.error f))
  | .ok (p, g) =>
    match g.executor.require .created "run" with
    | .error f => (s, .done (.error f))
    | .ok () => s.settle name p g.executor.runName g.world.clock g.setOut

/-- Moves a run on by a stage. -/
def moveOn (s : Session τ) (name : String) (p : Post τ) (e : Executor τ) (run : String)
    (started : τ) : Session τ × Stage τ :=
  s.settle name p run started ((s.standing p e).move run started)

omit [Clock τ] in
/-- A pool of workers for the runs of some executors, none of which was taken up
yet. -/
def pool (s : Session τ) (names : List String) (workers : Nat) : Pool τ where
  session := { s with world := s.world.note (.pooled names.length workers) }
  runs := names.map fun n => (n, .waiting)

end Session

namespace Pool

def busy (q : Pool τ) : Nat := q.runs.countP (·.2.isGoing)

/-- Whether no run before one of a number waits. -/
def isNext (q : Pool τ) (i : Nat) : Bool := (q.runs.take i).all (!·.2.isWaiting)

/-- The pool after a stage of one of its runs. -/
def after (q : Pool τ) (i : Nat) (name : String) (r : Session τ × Stage τ) : Pool τ :=
  ⟨r.1, q.runs.set i (name, r.2)⟩

variable [Clock τ]

/-- One more stage of a run. There is nothing if the run is over, or waits and it
is not its turn or no worker is free. -/
def step (workers : Nat) (q : Pool τ) (i : Nat) : Option (Pool τ) :=
  match q.runs[i]? with
  | some (name, .waiting) =>
    if q.busy < workers ∧ q.isNext i then some (q.after i name (q.session.takeUp name)) else none
  | some (name, .going p e run started) =>
    some (q.after i name (q.session.moveOn name p e run started))
  | _ => none

/-- The pool after the stages that a schedule chooses, one run after another.
There is nothing if it chooses one that cannot move. -/
def follow (workers : Nat) (q : Pool τ) : List Nat → Option (Pool τ)
  | [] => some q
  | i :: is => (q.step workers i).bind fun q' => q'.follow workers is

omit [Clock τ] in
def results (q : Pool τ) : Option (Except Fault (List (Outcome τ))) :=
  (q.runs.mapM fun x : String × Stage τ => x.2.result?).map fun rs => rs.mapM id

variable {q : Pool τ} {workers : Nat}

/-! ## No pool is stuck -/

omit [Clock τ] in
/-- There are results just if every run has one. -/
theorem results_isSome : q.results.isSome = true ↔ ∀ x ∈ q.runs, x.2.result?.isSome = true := by
  unfold results
  rw [Option.isSome_map]
  induction q.runs with
  | nil => exact iff_of_true rfl fun x hx => absurd hx List.not_mem_nil
  | cons x runs ih =>
    rw [List.forall_mem_cons, ← ih, List.mapM_cons]
    cases x.2.result? with
    | none => simp
    | some r => cases runs.mapM fun x : String × Stage τ => x.2.result? <;> simp

omit [Clock τ] in
theorem over_of_results {r : Except Fault (List (Outcome τ))} (h : q.results = some r) :
    ∀ x ∈ q.runs, ∃ y, x.2 = .done y := by
  intro x hx
  have hsome := results_isSome.mp (Option.isSome_iff_exists.mpr ⟨r, h⟩) x hx
  generalize x.2 = st at hsome ⊢
  cases st with
  | waiting => cases hsome
  | going _ _ _ _ => cases hsome
  | done y => exact ⟨y, rfl⟩

/-- If a run is under way, it can move. -/
theorem step_going {x : String × Stage τ} (hx : x ∈ q.runs) (hgoing : x.2.isGoing = true)
    (workers : Nat) : ∃ i q', q.step workers i = some q' := by
  obtain ⟨i, hi⟩ := List.getElem?_of_mem hx
  obtain ⟨name, st⟩ := x
  cases st with
  | waiting => cases hgoing
  | done r => cases hgoing
  | going p e run started =>
    refine ⟨i, q.after i name (q.session.moveOn name p e run started), ?_⟩
    unfold step
    rw [hi]

/-- If a run waits and none is under way, the first that waits can be taken up. -/
theorem step_waiting {x : String × Stage τ} (hx : x ∈ q.runs) (hwaits : x.2.isWaiting = true)
    (hnone : ∀ y ∈ q.runs, y.2.isGoing = false) (hw : 0 < workers) :
    ∃ i q', q.step workers i = some q' := by
  have hexists : ∃ (i : Nat) (name : String), q.runs[i]? = some (name, .waiting) := by
    obtain ⟨i, hi⟩ := List.getElem?_of_mem hx
    obtain ⟨name, st⟩ := x
    cases st with
    | waiting => exact ⟨i, name, hi⟩
    | going _ _ _ _ => cases hwaits
    | done _ => cases hwaits
  classical
  obtain ⟨name, hfirst⟩ := Nat.find_spec hexists
  have hidle : q.busy = 0 := List.countP_eq_zero.mpr fun y hy => by
    rw [hnone y hy]
    exact Bool.false_ne_true
  have hnext : q.isNext (Nat.find hexists) = true := by
    refine List.all_eq_true.mpr ?_
    intro y hy
    obtain ⟨j, hj, hget⟩ := List.mem_take_iff_getElem.mp hy
    have hbefore := Nat.find_min hexists (Nat.lt_of_lt_of_le hj (Nat.min_le_left _ _))
    obtain ⟨name', st⟩ := y
    cases st with
    | waiting =>
      refine absurd ⟨name', ?_⟩ hbefore
      rw [List.getElem?_eq_getElem (Nat.lt_of_lt_of_le hj (Nat.min_le_right _ _)), hget]
    | going _ _ _ _ => rfl
    | done _ => rfl
  refine ⟨Nat.find hexists, q.after (Nat.find hexists) name (q.session.takeUp name), ?_⟩
  unfold step
  rw [hfirst]
  dsimp only
  rw [if_pos ⟨hidle ▸ hw, hnext⟩]

/-- As long as not all runs are over, one of them can move. -/
theorem step_of_results (hw : 0 < workers) (h : q.results = none) :
    ∃ i q', q.step workers i = some q' := by
  obtain ⟨x, hx, hrest⟩ : ∃ x ∈ q.runs, ¬ x.2.result?.isSome = true := by
    by_contra hall
    push Not at hall
    have hsome := results_isSome.mpr hall
    rw [h] at hsome
    cases hsome
  by_cases hgoing : ∃ y ∈ q.runs, y.2.isGoing = true
  · obtain ⟨y, hy, hy'⟩ := hgoing
    exact step_going hy hy' workers
  · push Not at hgoing
    have hnone : ∀ y ∈ q.runs, y.2.isGoing = false := fun y hy =>
      Bool.eq_false_iff.mpr (hgoing y hy)
    refine step_waiting hx ?_ hnone hw
    have hstill := hnone x hx
    obtain ⟨name, st⟩ := x
    cases st with
    | waiting => rfl
    | going _ _ _ _ => cases hstill
    | done _ => exact absurd rfl hrest

end Pool

end Minimize
