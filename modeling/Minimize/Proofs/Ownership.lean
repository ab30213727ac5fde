-- What belongs to whom in a state. The engine owns the bookkeeping, the
-- counters and the record, and after a step the point and the cost of the state
-- before; all else is the solver's. Solvers are counterparts if they do the same
-- with what is theirs, whatever they write into the rest, and whether they hand
-- back the state that they were given or another one.
import Minimize.Proofs.Durability

namespace Minimize

variable {τ : Type}

/-! ## The fields of the engine -/

/-- The names of the fields that the engine puts right in every state. -/
def engineFields : List String := Bookkeeping.fieldNames ++ ["counts", "kv"]

namespace State

/-- The state with values of their own in the fields of the engine. -/
def cleared (s : State τ) : State τ :=
  { s with sharing := engineFields.foldl Sharing.forget s.sharing }

/-- States with the same in every field, and with the same fields of the solver
in common. -/
def Matches (s t : State τ) : Prop := s.cleared.Alike [] t.cleared

def unrecorded (s : State τ) : State τ := { s with record := .empty }

/-- States that match but for their records. -/
def MatchesButRecord (s t : State τ) : Prop := s.unrecorded.Matches t.unrecorded

/-- What is the solver's own in a state that it hands back from a call. -/
def own [Clock τ] : CallKind → State τ → State τ
  | .opening, s => { s with book := .fresh, counts := .empty, record := .empty }
  | .step, s =>
    { (s.apart "prev_param").apart "prev_cost" with
      prevParam := .null, prevCost := .null, book := .fresh, counts := .empty, record := .empty }

/-! ## States that match -/

variable {s t : State τ}

theorem Tidy.cleared (h : s.Tidy) : s.cleared.Tidy := by
  have hfold (names : List String) (s : State τ) (h : s.Tidy) :
      ({ s with sharing := names.foldl Sharing.forget s.sharing } : State τ).Tidy := by
    induction names generalizing s with
    | nil => exact h
    | cons name names ih => exact ih (s.apart name) (h.apart name)
  exact hfold engineFields s h

namespace Matches

theorem refl (h : s.Tidy) : s.Matches s := Alike.refl h.cleared

theorem alike (h : s.Matches t) : s.cleared.Alike [] t.cleared := h

section

variable (h : s.Matches t)
include h

theorem param : s.param = t.param := h.alike.param

theorem cost : s.cost = t.cost := h.alike.cost

theorem book : s.book = t.book := h.alike.book

theorem counts : s.counts = t.counts := h.alike.counts

theorem status : s.status = t.status := h.alike.same State.status fun _ => rfl

theorem terminated : s.terminated = t.terminated := h.alike.terminated

theorem record : s.record = t.record := h.alike.same State.record fun _ => rfl

end

theorem alter (h : s.Matches t) (f : State τ → State τ)
    (hf : ∀ s, (f s).shape = s.shape ∧ (f s).sharing = s.sharing)
    (ht : ∀ s, (f s).told [] = f (s.told [])) (hc : ∀ s, (f s).cleared = f s.cleared) :
    (f s).Matches (f t) := by
  unfold Matches
  rw [hc, hc]
  exact h.alike.alter f f hf ht

end Matches

namespace MatchesButRecord

variable (h : s.MatchesButRecord t)
include h

theorem matching : s.unrecorded.Matches t.unrecorded := h

theorem param : s.param = t.param := h.matching.param

theorem cost : s.cost = t.cost := h.matching.cost

theorem book : s.book = t.book := h.matching.book

theorem status : s.status = t.status := h.matching.status

theorem terminated : s.terminated = t.terminated := h.matching.alike.terminated

theorem summary [Clock τ] : s.summary = t.summary := h.matching.alike.summary

theorem firing [Clock τ] (c : Criteria) (aborted : Bool) :
    c.firing aborted s = c.firing aborted t := h.matching.alike.firing c aborted

theorem recordBest :
    (∃ e, s.recordBest = .error e ∧ t.recordBest = .error e) ∨
    (∃ s' t' improved, s.recordBest = .ok (s', improved) ∧ t.recordBest = .ok (t', improved) ∧
      s'.MatchesButRecord t') := by
  unfold State.recordBest
  rw [← h.book, ← h.param, ← h.cost]
  cases s.book.recorded s.param s.cost with
  | error e => exact .inl ⟨e, rfl, rfl⟩
  | ok r =>
    refine .inr ⟨_, _, _, rfl, rfl, ?_⟩
    exact h.matching.alter (·.restore r.1) (fun _ => ⟨rfl, rfl⟩) (fun _ => rfl) fun _ => rfl

theorem withStatus (status : Status) :
    ({ s with status := status } : State τ).MatchesButRecord { t with status := status } :=
  h.matching.alter (fun x => { x with status := status }) (fun _ => ⟨rfl, rfl⟩) (fun _ => rfl)
    fun _ => rfl

theorem terminateWith (r : Reason) :
    (∃ f, s.terminateWith r = .error f ∧ t.terminateWith r = .error f) ∨
    (∃ s' t', s.terminateWith r = .ok s' ∧ t.terminateWith r = .ok t' ∧
      s'.MatchesButRecord t') := by
  unfold State.terminateWith
  rw [← h.status]
  cases s.status.reason with
  | some standing => exact .inl ⟨_, rfl, rfl⟩
  | none => exact .inr ⟨_, _, rfl, rfl, h.withStatus ⟨some r⟩⟩

theorem noted (record : Record) :
    ({ s with record := record } : State τ).Matches { t with record := record } :=
  h.matching.alter (fun x => { x with record := record }) (fun _ => ⟨rfl, rfl⟩) (fun _ => rfl)
    fun _ => rfl

end MatchesButRecord

theorem Matches.withStatus (h : s.Matches t) (status : Status) :
    ({ s with status := status } : State τ).Matches { t with status := status } :=
  h.alter (fun x => { x with status := status }) (fun _ => ⟨rfl, rfl⟩) (fun _ => rfl) fun _ => rfl

/-! ## Storing and loading -/

theorem erase_map {α β : Type} (t : Table α) (f : α → β) (k : String) :
    (t.map f).erase k = (t.erase k).map f := by
  apply Table.ext
  unfold Table.map Table.erase
  dsimp only
  rw [List.filter_map]
  rfl

theorem erase_comm {α : Type} (t : Table α) (k k' : String) :
    (t.erase k).erase k' = (t.erase k').erase k := by
  apply Table.ext
  unfold Table.erase
  dsimp only
  rw [List.filter_filter, List.filter_filter]
  exact List.filter_congr fun e _ => Bool.and_comm _ _

/-- What is done to all marks alike can be done before some are forgotten. -/
theorem forget_foldl {f : Sharing → Sharing} (hf : ∀ s name, (f s).forget name = f (s.forget name))
    (names : List String) (s : Sharing) :
    names.foldl Sharing.forget (f s) = f (names.foldl Sharing.forget s) := by
  induction names generalizing s with
  | nil => rfl
  | cons name names ih => rw [List.foldl_cons, hf, ih, List.foldl_cons]

theorem cleared_settled (s : State τ) : s.settled.cleared = s.cleared.settled := by
  unfold cleared settled
  dsimp only
  rw [forget_foldl]
  intro s name
  unfold Sharing.settled Sharing.forget
  dsimp only
  rw [erase_map]

theorem cleared_renumbered (s : State τ) (base : Nat) :
    (s.renumbered base).cleared = s.cleared.renumbered base := by
  unfold cleared renumbered
  dsimp only
  rw [forget_foldl (f := fun s => s.renumbered base)]
  intro s name
  unfold Sharing.renumbered Sharing.forget
  dsimp only
  rw [erase_map]

theorem Matches.settled (h : s.Matches t) : s.settled.Matches t.settled := by
  unfold Matches
  rw [cleared_settled, cleared_settled]
  exact ((alike_settled h.tidy.1).symm.trans h).trans (alike_settled h.tidy.2)

theorem Matches.apart (h : s.Matches t) (name : String) : (s.apart name).Matches (t.apart name) := by
  have hcleared (s : State τ) : (s.apart name).cleared = s.cleared.apart name := by
    unfold cleared State.apart
    dsimp only
    rw [forget_foldl (f := fun s => s.forget name)]
    intro s name'
    unfold Sharing.forget
    dsimp only
    rw [erase_comm]
  unfold Matches
  rw [hcleared, hcleared]
  exact h.alike.apart name

/-- What is the solver's own matches in states that match. -/
theorem Matches.own [Clock τ] (h : s.Matches t) (kind : CallKind) :
    (s.own kind).Matches (t.own kind) := by
  cases kind with
  | opening =>
    exact h.alter (fun x => { x with book := .fresh, counts := .empty, record := .empty })
      (fun _ => ⟨rfl, rfl⟩) (fun _ => rfl) fun _ => rfl
  | step =>
    exact ((h.apart "prev_param").apart "prev_cost").alter
      (fun x => { x with
        prevParam := .null, prevCost := .null, book := .fresh, counts := .empty, record := .empty })
      (fun _ => ⟨rfl, rfl⟩) (fun _ => rfl) fun _ => rfl

theorem Matches.renumbered (h : s.Matches t) (base base' : Nat) :
    (s.renumbered base).Matches (t.renumbered base') := by
  unfold Matches
  rw [cleared_renumbered, cleared_renumbered]
  exact ((alike_renumbered h.tidy.1 base).symm.trans h).trans (alike_renumbered h.tidy.2 base')

end State

/-! ## Calls -/

/-- What an answer hands back: the state that was given, as the call left it, or
another one; and the record that comes with it. -/
inductive Answer.HandsBack (left : State τ) : Answer τ → State τ → Option Record → Prop
  | same (record : Option Record) : HandsBack left (.same record) left record
  | other (s : State τ) (record : Option Record) : HandsBack left (.other s record) s record

section

variable [Clock τ]

/-- Answers of counterparts: the same failure, or states that match in what is
the solver's own, with the same record. A failure that tells the name of the
solver is the same if they are named alike. -/
inductive Answer.Counterparts (named : Prop) (kind : CallKind) (left left' : State τ) :
    Answer τ → Answer τ → Prop
  | failed (f : Fault) : Counterparts named kind left left' (.failed f) (.failed f)
  | malformed (hn : named) (typeName : String) :
      Counterparts named kind left left' (.malformed typeName) (.malformed typeName)
  | state {a b : Answer τ} {s t : State τ} {record : Option Record}
      (ha : a.HandsBack left s record) (hb : b.HandsBack left' t record)
      (h : (s.own kind).Matches (t.own kind)) : Counterparts named kind left left' a b

/-- Calls of counterparts: they evaluate the problem alike, and change it and the
best points that are kept alike in place. Either may change in place what neither
the problem nor these points have a part in. -/
inductive Call.Counterparts (named : Prop) (kind : CallKind) : Call τ → Call τ → Prop
  | done {left left' : State τ} {a b : Answer τ}
      (h : a.Counterparts named kind left left' b) :
      Counterparts named kind (.done left a) (.done left' b)
  | evaluate {c : Capability} {args : List Value} {next next' : Origin → Except Fault Value → Call τ}
      (h : ∀ origin r, Counterparts named kind (next origin r) (next' origin r)) :
      Counterparts named kind (.evaluate c args next) (.evaluate c args next')
  | change {c : Change} {next next' : Call τ} (h : Counterparts named kind next next') :
      Counterparts named kind (.change c next) (.change c next')
  | mine {c : Change} {next next' : Call τ} (hc : ∀ u : UserProblem, c.Spares u)
      (hb : c.SparesBest) (h : Counterparts named kind next next') :
      Counterparts named kind (.change c next) next'
  | yours {c : Change} {next next' : Call τ} (hc : ∀ u : UserProblem, c.Spares u)
      (hb : c.SparesBest) (h : Counterparts named kind next next') :
      Counterparts named kind next (.change c next')
  | wait {d : τ} {next next' : Call τ} (h : Counterparts named kind next next') :
      Counterparts named kind (.wait d next) (.wait d next')
  | raise {signal : String} {next next' : Call τ} (h : Counterparts named kind next next') :
      Counterparts named kind (.raise signal next) (.raise signal next')

/-- Solvers that do the same on states that match: their calls are counterparts,
and they end early alike, whatever they left in the record; asked whether a run is to
stop, they leave states that match but for it. -/
structure Solver.Counterparts (x y : Solver τ) : Prop where
  calls : ∀ (kind : CallKind) (s t : State τ), s.Matches t →
    (x.call kind s).Counterparts (x.displayName = y.displayName) kind (y.call kind t)
  early : ∀ s t : State τ, s.MatchesButRecord t → x.terminateEarly s = y.terminateEarly t
  revised : ∀ s t : State τ, s.MatchesButRecord t → (x.revised s).MatchesButRecord (y.revised t)

/-- Returned states that match in what is the solver's own. -/
structure Returned.Counterparts (kind : CallKind) (r r' : Returned τ) : Prop where
  state : (r.state.own kind).Matches (r'.state.own kind)
  record : r'.record = r.record

omit [Clock τ] in
theorem Answer.HandsBack.returned {left s : State τ} {record : Option Record} {a : Answer τ}
    (h : a.HandsBack left s record) (x : Solver τ) (kind : CallKind) :
    ∃ inPlace, a.returned x kind left = .ok ⟨s, inPlace, record⟩ := by
  cases h <;> exact ⟨_, rfl⟩

theorem Answer.Counterparts.returned {x y : Solver τ} {kind : CallKind} {left left' : State τ}
    {a b : Answer τ}
    (h : a.Counterparts (x.displayName = y.displayName) kind left left' b) :
    (∃ f, a.returned x kind left = .error f ∧ b.returned y kind left' = .error f) ∨
    (∃ r r', a.returned x kind left = .ok r ∧ b.returned y kind left' = .ok r' ∧
      r.Counterparts kind r') := by
  cases h with
  | failed f => exact .inl ⟨f, rfl, rfl⟩
  | malformed hn typeName =>
    refine .inl ⟨_, rfl, ?_⟩
    unfold Answer.returned
    rw [hn]
  | state ha hb h =>
    obtain ⟨p, hp⟩ := ha.returned x kind
    obtain ⟨q, hq⟩ := hb.returned y kind
    exact .inr ⟨_, _, hp, hq, h, rfl⟩

end

/-! ## Meddlers -/

/-- The state with what is the engine's after a call as another state has it. -/
def State.overwritten (kind : CallKind) (o s : State τ) : State τ :=
  match kind with
  | .opening => { s with book := o.book, counts := o.counts, record := o.record }
  | .step =>
    { s with
      prevParam := o.prevParam, prevCost := o.prevCost, book := o.book, counts := o.counts
      record := o.record }

/-- The answer with another state in it, and with what `o` says written into what
is the engine's. -/
def Answer.meddled (kind : CallKind) (o : State τ → State τ) (left : State τ) : Answer τ → Answer τ
  | .failed f => .failed f
  | .malformed typeName => .malformed typeName
  | .same record => .other (.overwritten kind (o left) left) record
  | .other s record => .other (.overwritten kind (o s) s) record

def Call.meddled (kind : CallKind) (o : State τ → State τ) : Call τ → Call τ
  | .done left answer => .done left (answer.meddled kind o left)
  | .evaluate c args next => .evaluate c args fun origin r => (next origin r).meddled kind o
  | .change c next => .change c (next.meddled kind o)
  | .wait d next => .wait d (next.meddled kind o)
  | .raise signal next => .raise signal (next.meddled kind o)

/-- The solver that does what another one does, but never hands back the state
that it was given, and writes into what is the engine's. -/
def Solver.meddling (x : Solver τ) (o : State τ → State τ) : Solver τ :=
  { x with
    opening := fun s => (x.opening s).meddled .opening o
    step := fun s => (x.step s).meddled .step o }

section

variable [Clock τ] {x y : Solver τ} {named : Prop} {kind : CallKind} {left left' : State τ}
  {a b : Answer τ}

theorem State.own_overwritten (kind : CallKind) (o s : State τ) :
    (State.overwritten kind o s).own kind = s.own kind := by
  cases kind <;> rfl

omit [Clock τ] in
theorem Answer.HandsBack.meddled {s : State τ} {record : Option Record}
    (h : a.HandsBack left s record) (kind : CallKind) (o : State τ → State τ) :
    (a.meddled kind o left).HandsBack left (.overwritten kind (o s) s) record := by
  cases h <;> exact .other _ record

theorem Answer.Counterparts.meddled (h : a.Counterparts named kind left left' b)
    (o : State τ → State τ) : a.Counterparts named kind left left' (b.meddled kind o left') := by
  cases h with
  | failed f => exact .failed f
  | malformed hn typeName => exact .malformed hn typeName
  | state ha hb h =>
    refine .state ha (hb.meddled kind o) ?_
    rw [State.own_overwritten]
    exact h

theorem Call.Counterparts.meddled {c d : Call τ} (h : c.Counterparts named kind d)
    (o : State τ → State τ) : c.Counterparts named kind (d.meddled kind o) := by
  induction h with
  | done h => exact .done (h.meddled o)
  | evaluate _ ih => exact .evaluate ih
  | change _ ih => exact .change ih
  | mine hc hb _ ih => exact .mine hc hb ih
  | yours hc hb _ ih => exact .yours hc hb ih
  | wait _ ih => exact .wait ih
  | raise _ ih => exact .raise ih

/-- Whatever a solver writes into what is the engine's, it is a counterpart of
those that it was one of without. -/
theorem Solver.Counterparts.meddling (h : x.Counterparts y) (o : State τ → State τ) :
    x.Counterparts (y.meddling o) where
  calls kind s t hst := by
    have hcall : (y.meddling o).call kind t = (y.call kind t).meddled kind o := by
      cases kind <;> rfl
    rw [hcall]
    exact (h.calls kind s t hst).meddled o
  early := h.early
  revised := h.revised

end

theorem Sample.replay_counterparts (flags : List Bool) :
    (replay flags).Counterparts (replay flags) where
  calls kind s t h := by
    have moved (c : Value) : ({ s.movedTo c with cost := c } : State Float).Matches
        { t.movedTo c with cost := c } :=
      (h.apart "param").alter (fun x => { x with param := c, cost := c }) (fun _ => ⟨rfl, rfl⟩)
        (fun _ => rfl) fun _ => rfl
    have needed (r : Except Slip Value) :
        (Call.need s r fun c => .ok { s.movedTo c with cost := c } none).Counterparts
          ((replay flags).displayName = (replay flags).displayName) kind
          (Call.need t r fun c => .ok { t.movedTo c with cost := c } none) := by
      cases r with
      | error e => exact .done (.failed _)
      | ok c => exact .done (.state (.same none) (.same none) ((moved c).own kind))
    cases kind with
    | opening => exact needed _
    | step =>
      unfold Solver.call replay sequence
      dsimp only
      rw [← h.book]
      exact needed _
  early _ _ _ := rfl
  revised _ _ h := h

/-! ## Stores -/

/-- Snapshots of two solvers, with states that are related. -/
structure Snapshot.Paired (x y : Solver τ) (R : State τ → State τ → Prop) (a b : Snapshot τ) :
    Prop where
  mine : a.solver = x
  yours : b.solver = y
  state : R a.state b.state

/-- What two loads come to: the same failure, or snapshots that match. -/
inductive LoadsAlike (x y : Solver τ) :
    Except Fault (Snapshot τ) → Except Fault (Snapshot τ) → Prop
  | error (f : Fault) : LoadsAlike x y (.error f) (.error f)
  | ok {a b : Snapshot τ} (h : a.Paired x y State.Matches b) : LoadsAlike x y (.ok a) (.ok b)

/-- A store that treats two solvers alike: of cabinets that it cannot tell apart,
states that match are saved to such cabinets again, with the same success, and
under the key there are snapshots that match. -/
structure Store.Impartial (s : Store τ) (key : String) (x y : Solver τ)
    (C : Cabinet τ → Cabinet τ → Prop) : Prop where
  saves : ∀ c d t u, C c d → t.Matches u → ∃ c' d' r, s.save (.text key) ⟨x, t⟩ c = (c', r) ∧
    s.save (.text key) ⟨y, u⟩ d = (d', r) ∧ C c' d'
  holds : ∀ c d, C c d → s.holds (.text key) d = s.holds (.text key) c
  loads : ∀ c d, C c d → LoadsAlike x y (s.load (.text key) c) (s.load (.text key) d)

/-- What stands in memory under a key for two solvers: nothing, or snapshots
that match. -/
inductive AlikeInMemory (key : String) (x y : Solver τ) (c d : Cabinet τ) : Prop
  | nothing (hc : c.memory.get? key = none) (hd : d.memory.get? key = none) :
      AlikeInMemory key x y c d
  | snapshots {a b : Snapshot τ} (hc : c.memory.get? key = some (.pair a))
      (hd : d.memory.get? key = some (.pair b)) (h : a.Paired x y State.Matches b) :
      AlikeInMemory key x y c d

/-- A store in memory treats solvers alike that can be written out. -/
theorem memory_impartial {key : String} {x y : Solver τ} (hk : Checkpoint.isKey key = true)
    (hx : x.unserializable = none) (hy : y.unserializable = none) :
    Checkpoint.Memory.store.Impartial key x y (AlikeInMemory key x y) where
  saves c d t u _ ht :=
    ⟨_, _, _, memory_save hk hx c t, memory_save hk hy d u,
      .snapshots (Table.get?_insert_self c.memory key _) (Table.get?_insert_self d.memory key _)
        ⟨rfl, rfl, ht⟩⟩
  holds c d h := by
    cases h with
    | nothing hc hd =>
      show Checkpoint.Memory.holds (.text key) d = Checkpoint.Memory.holds (.text key) c
      have hfind : Checkpoint.Memory.find (.text key) d = Checkpoint.Memory.find (.text key) c :=
        congrArg Except.ok (hd.trans hc.symm)
      unfold Checkpoint.Memory.holds
      rw [hfind]
    | snapshots hc hd _ => rw [(memory_finds hc).1, (memory_finds hd).1]
  loads c d h := by
    cases h with
    | nothing hc hd =>
      have hnone (c : Cabinet τ) (hc : c.memory.get? key = none) :
          Checkpoint.Memory.store.load (.text key) c =
            .error (.checkpoint (Value.text key).plain .notStored) := by
        have hfind : Checkpoint.Memory.find (.text key) c = .ok none := congrArg Except.ok hc
        show Checkpoint.Memory.load (.text key) c = _
        unfold Checkpoint.Memory.load
        rw [hfind]
        rfl
      rw [hnone c hc, hnone d hd]
      exact .error _
    | snapshots hc hd h =>
      rw [(memory_finds hc).2, (memory_finds hd).2]
      exact .ok h

end Minimize
