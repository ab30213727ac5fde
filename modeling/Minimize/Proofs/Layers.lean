-- The layers of a record. The standard entries of a state come first; what the
-- solver tells lies over them, and under a name that both have stands what the
-- solver told. Over both, if the run has ended, lies the reason of that.
import Minimize.Proofs.Folders
import Minimize.Proofs.Hearing

namespace Minimize

/-! ## Tables over tables -/

namespace Table

variable {α : Type}

theorem keys_insert (t : Table α) (k : String) (v : α) :
    (t.insert k v).keys = t.keys ++ [k].filter fun k => k ∉ t.keys := by
  unfold keys insert
  dsimp only
  induction t.entries with
  | nil => rfl
  | cons e es ih =>
    obtain ⟨k', v'⟩ := e
    by_cases h : k' = k
    · subst h
      simp [put]
    · have hold : k ∉ k' :: es.map (·.1) ↔ k ∉ es.map (·.1) := by simp [Ne.symm h]
      simp only [put, h, if_false, List.map_cons, ih, List.cons_append, List.filter_cons, hold,
        List.filter_nil]

/-- The names of a table stay in their places, and new ones follow. -/
theorem keys_foldl_insert {es : List (String × α)} (hes : (es.map (·.1)).Nodup) (t : Table α) :
    (es.foldl (fun s e => s.insert e.1 e.2) t).keys =
      t.keys ++ (es.map (·.1)).filter fun k => k ∉ t.keys := by
  induction es generalizing t with
  | nil => simp
  | cons e es ih =>
    rw [List.map_cons, List.nodup_cons] at hes
    have hapart : (es.map (·.1)).filter (fun k => k ∉ (t.insert e.1 e.2).keys) =
        (es.map (·.1)).filter fun k => k ∉ t.keys := by
      refine List.filter_congr fun k hk => ?_
      have hne : k ≠ e.1 := fun h => hes.1 (h ▸ hk)
      simp [mem_keys, get?_insert_ne _ _ hne]
    rw [List.foldl_cons, ih hes.2, hapart, keys_insert, List.append_assoc, List.map_cons,
      ← List.filter_append]
    rfl

/-- Of two values under a name, that of the table above is read. -/
theorem get?_foldl_insert {es : List (String × α)} (hes : (es.map (·.1)).Nodup) (t : Table α)
    (k : String) : (es.foldl (fun s e => s.insert e.1 e.2) t).get? k =
      ((es.find? fun e => e.1 = k).map (·.2)).or (t.get? k) := by
  induction es generalizing t with
  | nil => simp
  | cons e es ih =>
    rw [List.map_cons, List.nodup_cons] at hes
    rw [List.foldl_cons, ih hes.2, get?_insert, List.find?_cons]
    by_cases h : k = e.1
    · subst h
      have hnone : es.find? (fun e' => decide (e'.1 = e.1)) = none := by
        rw [List.find?_eq_none]
        intro e' he' hsame
        exact hes.1 (of_decide_eq_true hsame ▸ List.mem_map_of_mem he')
      simp [hnone]
    · simp [h, Ne.symm h]

theorem keys_merge (t more : Table α) :
    (t.merge more).keys = t.keys ++ more.keys.filter fun k => k ∉ t.keys :=
  keys_foldl_insert more.distinct t

theorem get?_merge (t more : Table α) (k : String) :
    (t.merge more).get? k = (more.get? k).or (t.get? k) :=
  get?_foldl_insert more.distinct t k

/-- Entries under distinct new names are put behind those that stand. -/
theorem entries_foldl_insert {es : List (String × α)} (hes : (es.map (·.1)).Nodup) {t : Table α}
    (hnew : ∀ e ∈ es, e.1 ∉ t.keys) :
    (es.foldl (fun s e => s.insert e.1 e.2) t).entries = t.entries ++ es := by
  induction es generalizing t with
  | nil => exact (List.append_nil _).symm
  | cons e es ih =>
    rw [List.map_cons, List.nodup_cons] at hes
    have hput : (t.insert e.1 e.2).entries = t.entries ++ [e] :=
      put_append (hnew e List.mem_cons_self) e.2
    have hapart : ∀ e' ∈ es, e'.1 ∉ (t.insert e.1 e.2).keys := by
      intro e' he' hmem
      unfold keys at hmem
      rw [hput, List.map_append, List.mem_append] at hmem
      rcases hmem with hold | hlast
      · exact hnew e' (List.mem_cons_of_mem _ he') hold
      · have hsame : e'.1 = e.1 := List.mem_singleton.mp hlast
        exact hes.1 (hsame ▸ List.mem_map_of_mem he')
    rw [List.foldl_cons, ih hes.2 hapart, hput, List.append_assoc]
    rfl

theorem entries_ofList {es : List (String × α)} (hes : (es.map (·.1)).Nodup) :
    (ofList es).entries = es :=
  entries_foldl_insert hes fun _ _ => List.not_mem_nil

end Table

theorem mapError_ok {ε ε' α : Type} {x : Except ε α} {f : ε → ε'} {a : α}
    (h : x.mapError f = .ok a) : x = .ok a := by
  cases x with
  | error e => cases h
  | ok b => exact congrArg Except.ok (Except.ok.inj h)

/-! ## The standard entries -/

/-- The capabilities by the names of their counters. -/
def Capability.byCounter : List Capability :=
  [.anneal, .apply, .cost, .gradient, .hessian, .jacobian]

theorem Capability.counter_inj {c d : Capability} (h : c.counter = d.counter) : c = d := by
  cases c <;> cases d <;> first | rfl | exact absurd h (by decide)

theorem Capability.byCounter_sorted :
    byCounter.Pairwise fun c d => decide (c.counter ≤ d.counter) = true := by
  decide

namespace Counts

/-- The counters that have counted, by name. -/
def told (n : Counts) : List (String × Scalar) :=
  (Capability.byCounter.filter fun c => n.get c ≠ 0).map fun c => (c.counter, .int (n.get c))

theorem sorted_entries (n : Counts) :
    n.toTable.entries.mergeSort (fun a b => a.1 ≤ b.1) =
      Capability.byCounter.map fun c => (c.counter, n.get c) := by
  have hperm : (n.toTable.entries.mergeSort fun a b => a.1 ≤ b.1).Perm
      (Capability.byCounter.map fun c => (c.counter, n.get c)) := by
    have hentries : n.toTable.entries = Capability.all.map fun c => (c.counter, n.get c) := rfl
    refine (List.mergeSort_perm _ _).trans ?_
    rw [hentries]
    exact List.Perm.map _ (by decide)
  have hlist : (n.toTable.entries.mergeSort fun a b => a.1 ≤ b.1).Pairwise
      fun a b => decide (a.1 ≤ b.1) = true :=
    List.pairwise_mergeSort (fun a b c => by simpa using String.le_trans)
      (fun a b => by simpa using String.le_total a.1 b.1) _
  refine hperm.eq_of_pairwise ?_ hlist (List.pairwise_map.mpr Capability.byCounter_sorted)
  intro a b ha hb hab hba
  obtain ⟨c, -, rfl⟩ := List.mem_map.mp (hperm.mem_iff.mp ha)
  obtain ⟨d, -, rfl⟩ := List.mem_map.mp hb
  obtain rfl := Capability.counter_inj
    (String.le_antisymm (of_decide_eq_true hab) (of_decide_eq_true hba))
  rfl

/-- The counters of a problem are told by name, those that have counted. -/
theorem countEntries_toTable (n : Counts) : countEntries n.toTable = .ok n.told := by
  unfold countEntries told
  rw [n.sorted_entries, funext countEntry?_eq, List.mapM_pure]
  refine congrArg Except.ok ?_
  rw [List.map_map]
  show List.filterMap id (List.map _ _) = _
  rw [List.filterMap_map]
  induction Capability.byCounter with
  | nil => rfl
  | cons c cs ih => by_cases h : n.get c = 0 <;> simpa [h] using ih

end Counts

namespace State

variable {τ : Type}

/-- That a record has the standard entries of a state and no others: its place
in the run, the counters that have counted, by name, and what the shape adds. -/
def Standard [Span τ] (s : State τ) (r : Record) : Prop :=
  ∃ (n : Counts) (cost best time : Float), s.counts = n.toTable ∧ s.cost.toFloat = .ok cost ∧
    s.book.bestCost.toFloat = .ok best ∧ Span.toFloat s.book.elapsed = .ok time ∧
    r.entries = [("iter", .int s.book.iteration), ("cost", .float cost),
      ("best_cost", .float best), ("last_best_iter", .int s.book.lastBestIteration),
      ("no_improvement_streak", .int s.book.noImprovementStreak), ("time", .float time)] ++
        n.told ++ s.shapeEntries

/-- The names that a standard entry can have, in their order. -/
def standardNames : List String :=
  ["iter", "cost", "best_cost", "last_best_iter", "no_improvement_streak", "time"] ++
    Capability.byCounter.map Capability.counter ++ ["population_size"]

theorem standardNames_nodup : standardNames.Nodup := by decide

theorem told_names (n : Counts) :
    (n.told.map (·.1)).Sublist (Capability.byCounter.map Capability.counter) := by
  unfold Counts.told
  rw [List.map_map]
  exact List.filter_sublist.map Capability.counter

theorem shapeEntries_names (s : State τ) :
    (s.shapeEntries.map (·.1)).Sublist ["population_size"] := by
  unfold shapeEntries
  cases s.shape <;> simp

theorem place_names (s : State τ) (n : Counts) (i c b l t e : Scalar) :
    (([("iter", i), ("cost", c), ("best_cost", b), ("last_best_iter", l),
      ("no_improvement_streak", t), ("time", e)] ++ n.told ++ s.shapeEntries).map (·.1)).Sublist
        standardNames := by
  rw [List.map_append, List.map_append]
  exact ((List.Sublist.refl _).append (told_names n)).append s.shapeEntries_names

variable [Span τ] {s : State τ} {n : Counts} {r : Record}

/-- The summary of a state that has the counters of a problem. -/
theorem summary_standard (hn : s.counts = n.toTable) (h : s.summary = .ok r) : s.Standard r := by
  obtain ⟨cost, hcost, h⟩ := bind_ok h
  obtain ⟨best, hbest, h⟩ := bind_ok h
  obtain ⟨_, hlast, h⟩ := bind_ok h
  obtain ⟨_, hstreak, h⟩ := bind_ok h
  obtain ⟨time, htime, h⟩ := bind_ok h
  obtain ⟨_, hcounts, h⟩ := bind_ok h
  rw [hn, n.countEntries_toTable] at hcounts
  cases hlast
  cases hstreak
  cases hcounts
  cases h
  exact ⟨n, cost, best, time, hn, mapError_ok hcost, mapError_ok hbest, mapError_ok htime,
    Table.entries_ofList ((s.place_names n ..).nodup standardNames_nodup)⟩

theorem Standard.names (h : s.Standard r) : r.keys.Sublist standardNames := by
  obtain ⟨n, cost, best, time, _, _, _, _, hentries⟩ := h
  unfold Table.keys
  rw [hentries]
  exact s.place_names n ..

/-- No standard entry is the reason of an end. -/
theorem Standard.no_termination (h : s.Standard r) : r.get? "termination" = none := by
  have hno : "termination" ∉ r.keys := fun hmem => absurd (h.names.subset hmem) (by decide)
  rw [Table.mem_keys] at hno
  simpa using hno

end State

/-! ## Layers -/

/-- That a record is laid of three: the standard entries, those that the solver
told over them, and over both the reason of the end, if there is one. A name
stands where it first came, with the value of the highest layer that has it. -/
structure Layered (standard own : Record) (reason : Option Reason) (r : Record) : Prop where
  keys : r.keys = standard.keys ++ (own.keys.filter fun k => k ∉ standard.keys) ++
    ["termination"].filter fun k => reason.isSome ∧ k ∉ own.keys
  reads (k : String) : r.get? k =
    (reason.bind fun o => if k = "termination" then some (.text o.message) else none).or
      ((own.get? k).or (standard.get? k))

namespace Layered

variable {standard own r : Record} {reason : Option Reason}

/-- What is made of an iteration is laid so. -/
theorem fullRecord (hno : standard.get? "termination" = none) (told : Option Record)
    (status : Status) :
    Layered standard (told.getD .empty) status.reason
      (Engine.fullRecord standard told status) where
  keys := by
    unfold Engine.fullRecord
    cases status.reason with
    | none =>
      dsimp only
      rw [Table.keys_merge]
      simp
    | some o =>
      dsimp only
      rw [Table.keys_insert, Table.keys_merge]
      congr 1
      refine List.filter_congr fun k hk => ?_
      obtain rfl := List.mem_singleton.mp hk
      have hnew : "termination" ∉ standard.keys := by
        rw [Table.mem_keys, hno]
        exact Bool.false_ne_true
      simp [hnew]
  reads k := by
    unfold Engine.fullRecord
    cases status.reason with
    | none => exact Table.get?_merge standard _ k
    | some o =>
      dsimp only
      rw [Table.get?_insert, Table.get?_merge]
      by_cases hk : k = "termination" <;> simp [hk]

variable (h : Layered standard own reason r) (hno : standard.get? "termination" = none)
include h hno

/-- A standard entry stands in the record unless the solver told something else
under its name. -/
theorem stands_iff {k : String} {x : Scalar} (hx : standard.get? k = some x) :
    r.get? k = some x ↔ ∀ y, own.get? k = some y → y = x := by
  have hk : k ≠ "termination" := by
    rintro rfl
    cases hno.symm.trans hx
  have hread : r.get? k = (own.get? k).or (some x) := by
    have hread := h.reads k
    rw [hx] at hread
    simpa [hk] using hread
  rw [hread]
  cases own.get? k <;> simp

/-- There is a reason of the end in the record if there is one, and also if the
solver told of one. -/
theorem termination_iff :
    r.contains "termination" = true ↔ reason.isSome = true ∨ own.contains "termination" = true := by
  rw [Table.contains_eq, Table.contains_eq, h.reads, hno]
  cases reason <;> simp

omit hno in
theorem termination_text {o : Reason} (ho : reason = some o) :
    r.get? "termination" = some (.text o.message) := by
  rw [h.reads, ho]
  simp

end Layered

/-! ## What the solver tells -/

/-- The record that comes with an answer, if it comes with one. -/
def Answer.record? {τ : Type} : Answer τ → Option Record
  | .same record => record
  | .other _ record => record
  | _ => none

namespace Engine

variable {τ : Type} [Clock τ] {g₀ g g' u v : Engine τ} {kind : CallKind} {started : τ}
  {past : List (State τ)}

/-- What the solver tells when it is called; if it tells nothing, the empty
record. -/
def telling (kind : CallKind) (g : Engine τ) : Record :=
  (g.asked kind).answer.record?.getD .empty

theorem consult_record {r : Returned τ} (h : g.consult kind = .ok (u, r)) :
    r.record = (g.asked kind).answer.record? := by
  unfold consult at h
  dsimp only at h
  split at h
  · cases h
  · rename_i hr
    cases h
    generalize (g.asked kind).answer = a at hr ⊢
    cases a <;> cases hr <;> rfl

theorem take_record {record : Option Record} (h : g.take kind started = .ok (u, record)) :
    record = (g.asked kind).answer.record? := by
  obtain ⟨w, r, hconsult, rfl, _⟩ := take_ok h
  exact consult_record hconsult

/-- A completed iteration has the record that is laid of the standard entries
of its state and of what the solver told. -/
theorem advance_layered (hx : g.executor.solver.LeavesCounts) (h : g.advance kind started = .ok u) :
    ∃ standard, u.executor.state.Standard standard ∧
      Layered standard (g.telling kind) u.executor.state.status.reason
        u.executor.state.record := by
  obtain ⟨w, record, v, htake, _, hcomplete⟩ := advance_ok h
  obtain ⟨standard, hsummary, hu⟩ := complete_ok hcomplete
  have hcounts := advance_counts hx h
  have htold := take_record htake
  rw [enter_asked] at htold
  rw [hu] at hcounts ⊢
  have hstandard : v.executor.state.Standard standard := State.summary_standard hcounts hsummary
  refine ⟨standard, hstandard, ?_⟩
  unfold telling
  rw [← htold]
  exact .fullRecord hstandard.no_termination record v.executor.state.status

/-- An iteration that succeeds tells the record of its state to those who want
to hear of it. -/
theorem iterate_tells (ha : g.advance kind started = .ok u)
    (hi : g.iterate kind started = .ok g') :
    ∃ p : Passage τ, g'.world.history = g.world.history ++ p.events ∧
      p.state = u.executor.state ∧
      p.words.filterMap Event.heard? = (p.hearers g.executor.observers).map fun name =>
        (name, u.executor.state.book.iteration, u.executor.state.record) := by
  obtain ⟨es, fs, hround, hputs⟩ := iterate_puts hi
  obtain ⟨p, rfl, _, hstate, _, _, htold, _⟩ := hround.told
  obtain ⟨u', ha', hstands, _⟩ := iterate_ok hi
  cases ha.symm.trans ha'
  have hsame : p.state = u.executor.state := hstate.trans hstands.state
  refine ⟨p, hputs.history, hsame, ?_⟩
  rw [htold.heard]
  unfold Passage.iteration
  rw [hsame]

/-- The iterations of a run from nothing are counted from that of its state. -/
theorem ComesTo.iteration (hx : g₀.executor.solver.LeavesIteration) (hn : g₀.stored = .ok none)
    (hc : g₀.ComesTo kind past v) (ha : v.advance kind started = .ok u) :
    u.executor.state.book.iteration = g₀.executor.state.book.iteration + past.length := by
  have hw : g₀.WorksBy Solver.LeavesIteration := .fresh hn hx
  rw [advance_iteration (hc.works hw) ha]
  cases hc with
  | opening _ => exact (Int.add_zero _).symm
  | step hc _ =>
    rw [hc.iteration hw (opening_iteration hw hn), List.length_append, List.length_singleton]
    show _ + 1 = _
    push_cast
    omega

/-! ## The law -/

/-- In every run, every iteration that is completed has a record of layers. First
come the standard entries: the place of the state in the run, the counters
that have counted, and what the shape adds. What the solver told lies over them:
new names follow in the order of the solver, and a standard entry stands unless
the solver told something else under its name. Over both lies the reason of the
end: a record has one if the state is terminated, and otherwise only if the solver
told one. The state keeps this record, and every observer that wants to hear of the
iteration is told it. -/
theorem what_the_solver_tells_lies_over_the_standard (hx : v.executor.solver.LeavesCounts)
    (hc : g₀.ComesTo kind past v) (ha : v.advance kind g₀.world.clock = .ok u) :
    ∃ standard : Record,
      u.executor.state.Standard standard ∧
      Layered standard (v.telling kind) u.executor.state.status.reason
        u.executor.state.record ∧
      (∀ k x, standard.get? k = some x → (u.executor.state.record.get? k = some x ↔
        ∀ y, (v.telling kind).get? k = some y → y = x)) ∧
      (u.executor.state.record.contains "termination" = true ↔
        u.executor.state.terminated = true ∨ (v.telling kind).contains "termination" = true) ∧
      (∀ o, u.executor.state.status = ⟨some o⟩ →
        u.executor.state.record.get? "termination" = some (.text o.message)) ∧
      (g₀.stored = .ok none → g₀.executor.solver.LeavesIteration →
        u.executor.state.book.iteration = g₀.executor.state.book.iteration + past.length) ∧
      ∀ w, v.iterate kind g₀.world.clock = .ok w →
        ∃ p : Passage τ, w.world.history = v.world.history ++ p.events ∧
          p.state = u.executor.state ∧
          p.words.filterMap Event.heard? = (p.hearers v.executor.observers).map fun name =>
            (name, u.executor.state.book.iteration, u.executor.state.record) := by
  obtain ⟨standard, hstandard, hlayered⟩ := advance_layered hx ha
  have hno := hstandard.no_termination
  refine ⟨standard, hstandard, hlayered, fun k x hx => hlayered.stands_iff hno hx, ?_, ?_,
    fun hn hleaves => hc.iteration hleaves hn ha, fun w hw => iterate_tells ha hw⟩
  · exact hlayered.termination_iff hno
  · intro o ho
    exact hlayered.termination_text (congrArg Status.reason ho)

/-- A solver that replays a truth value, and tells a record of its own at the
opening. -/
def outspoken (own : Record) : Solver Float :=
  { Sample.replay [true] with
    opening := fun s => .ok { s.movedTo (.bool true) with cost := .bool true } (some own) }

def spokenFor (own : Record) : Engine Float := underLimit (outspoken own) 1 none none (.start 0)

theorem spokenFor_advance (own : Record) :
    ∃ u, (spokenFor own).begun.settled.advance .opening 0 = .ok u ∧
      u.executor.state.status = .running ∧ u.executor.state.cost = .bool true := by
  have hcall : (spokenFor own).begun.settled.executor.solver.call .opening
      (spokenFor own).begun.settled.executor.state = .ok
        { (spokenFor own).begun.settled.executor.state.movedTo (.bool true) with
          cost := .bool true } (some own) := rfl
  obtain ⟨u, hu, _, _, hreaches⟩ := advance_of_call (fun _ => rfl) hcall rfl rfl rfl rfl
    (fun s hi _ => (check_of_limit 1 false s).trans (by rw [hi])) 0
  exact ⟨u, hu, hreaches.status, hreaches.cost⟩

/-- A record that says how long a step was. -/
def stepRecord : Record := Table.ofList [("step", .int 3)]

/-- The law for that record: it comes behind the standard entries, which all
stand. -/
theorem a_step_is_told_behind_the_standard :
    ∃ u standard, (spokenFor stepRecord).begun.settled.advance .opening 0 = .ok u ∧
      u.executor.state.Standard standard ∧
      u.executor.state.record.keys = standard.keys ++ ["step"] ∧
      (∀ k x, standard.get? k = some x → u.executor.state.record.get? k = some x) ∧
      u.executor.state.record.contains "termination" = false := by
  obtain ⟨u, hu, hrun, _⟩ := spokenFor_advance stepRecord
  obtain ⟨standard, hstandard, hlayered, hstands, htermination, _⟩ :=
    what_the_solver_tells_lies_over_the_standard (fun _ => rfl) (.opening rfl) hu
  have htold : (spokenFor stepRecord).begun.settled.telling .opening = stepRecord := rfl
  have hstep : "step" ∉ standard.keys := fun hmem =>
    absurd (hstandard.names.subset hmem) (by decide)
  rw [htold] at hlayered hstands htermination
  have hgoes : u.executor.state.terminated = false := State.not_terminated_iff.mpr hrun
  refine ⟨u, standard, hu, hstandard, ?_, fun k x hx => (hstands k x hx).mpr fun y hy => ?_, ?_⟩
  · have hkeys : stepRecord.keys = ["step"] := rfl
    have hnew : (["step"].filter fun k => k ∉ standard.keys) = ["step"] := by simp [hstep]
    rw [hlayered.keys, hrun, hkeys, hnew]
    exact List.append_nil _
  · have hmem : k ∈ standard.keys := Table.mem_keys.mpr (by rw [hx]; rfl)
    have hk : "step" ≠ k := fun h => hstep (h ▸ hmem)
    have hnone : stepRecord.get? k = none := by
      unfold stepRecord Table.get?
      simp [Table.ofList, Table.insert, Table.put, Table.empty, hk]
    cases hnone.symm.trans hy
  · rw [← Bool.not_eq_true, htermination, hgoes]
    decide

/-- A record with a cost that is none, and with a reason of an end. -/
def brashRecord : Record := Table.ofList [("cost", .int 7), ("termination", .text "soon")]

/-- The cost of the state is not in its record if the solver told another one,
and a run that goes on has a reason of its end there if the solver told one. -/
theorem a_standard_entry_can_be_hidden :
    ∃ u, (spokenFor brashRecord).begun.settled.advance .opening 0 = .ok u ∧
      u.executor.state.cost = .bool true ∧
      (∀ standard, u.executor.state.Standard standard →
        standard.get? "cost" ≠ u.executor.state.record.get? "cost") ∧
      u.executor.state.record.get? "cost" = some (.int 7) ∧
      u.executor.state.terminated = false ∧
      u.executor.state.record.get? "termination" = some (.text "soon") := by
  obtain ⟨u, hu, hrun, hcost⟩ := spokenFor_advance brashRecord
  obtain ⟨standard, _, hlayered⟩ := advance_layered (fun _ => rfl) hu
  have htold : (spokenFor brashRecord).begun.settled.telling .opening = brashRecord := rfl
  rw [htold, hrun] at hlayered
  have hseven : u.executor.state.record.get? "cost" = some (.int 7) := hlayered.reads "cost"
  refine ⟨u, hu, hcost, fun standard h => ?_, hseven, State.not_terminated_iff.mpr hrun,
    hlayered.reads "termination"⟩
  obtain ⟨n, cost, best, time, _, _, _, _, hentries⟩ := h
  rw [hseven]
  unfold Table.get?
  rw [hentries]
  simp

end Engine

end Minimize
