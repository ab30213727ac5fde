-- Orders to an executor: to take on settings, an observer, checkpoints or a
-- signal, and to run. They are given one after the other, in any order, and any
-- of them may be refused. The law says that a refused order leaves no trace but
-- in two cases, of an observer whose mode cannot be told and of a run whose end
-- cannot be told, and that an executor runs once and takes no order after that.
import Minimize.Proofs.Echo
import Minimize.Proofs.Ending

namespace Minimize

variable {τ : Type}

/-! ## Phases -/

/-- The phases in the order in which a run goes through them. -/
def Phase.rank : Phase → Nat
  | .created => 0
  | .initialized => 1
  | .running => 2
  | .terminated => 3

namespace Engine

/-- A later moment of an engine in the same phase. -/
def SamePhase (g h : Engine τ) : Prop := h.executor.phase = g.executor.phase

theorem SamePhase.bind {g : Engine τ} {x : Attempt τ} {f : Engine τ → Attempt τ}
    (h : g.SamePhase x.left) (hf : ∀ g' : Engine τ, g'.SamePhase (f g').left) :
    g.SamePhase (Attempt.left (Except.bind x f)) := by
  cases x with
  | error e => exact h
  | ok g' => exact (hf g').trans h

theorem save_phase (g : Engine τ) (final : Bool) : g.SamePhase (Attempt.left (g.save final)) := by
  cases hp : g.executor.policy with
  | none =>
    unfold save
    rw [hp]
    rfl
  | some p =>
    rw [save_eq hp]
    dsimp only
    cases (p.maybeSave _ final _).2.2 with
    | notDue => rfl
    | saved => rfl
    | failed f =>
      unfold afterSave
      dsimp only
      split <;> rfl

variable [Clock τ] {g₀ g : Engine τ}

theorem consult_phase (kind : CallKind) (g : Engine τ) :
    g.SamePhase (Attempt.left ((g.consult kind).map (·.1))) := by
  unfold consult
  dsimp only
  split <;> rfl

theorem merge_phase (g : Engine τ) (r : Returned τ) (book : Bookkeeping τ) (i : Int)
    (started : τ) : g.SamePhase (Attempt.left (g.merge r book i started)) := by
  unfold merge
  dsimp only
  split
  · split <;> rfl
  · split <;> rfl

theorem judge_phase (g : Engine τ) : g.SamePhase (Attempt.left g.judge) := by
  unfold judge
  dsimp only
  split
  · rfl
  · split
    · rfl
    · rfl
    · split <;> rfl

theorem complete_phase (g : Engine τ) (record : Option Record) :
    g.SamePhase (Attempt.left (g.complete record)) := by
  unfold complete
  dsimp only
  split <;> rfl

theorem take_phase (kind : CallKind) (started : τ) (g : Engine τ) :
    g.SamePhase (Attempt.left ((g.take kind started).map (·.1))) := by
  have hconsult := consult_phase kind g
  unfold take
  cases hc : g.consult kind with
  | error f =>
    rw [hc] at hconsult
    exact hconsult
  | ok a =>
    rw [hc] at hconsult
    have hmerge := merge_phase a.1 (a.2.placed kind g.executor.state) (g.kept kind)
      (kind.target g.executor.state.book.iteration) started
    dsimp only [bind, Except.bind]
    cases hm : a.1.merge (a.2.placed kind g.executor.state) (g.kept kind)
        (kind.target g.executor.state.book.iteration) started with
    | error f =>
      rw [hm] at hmerge
      exact hmerge.trans hconsult
    | ok b =>
      rw [hm] at hmerge
      exact hmerge.trans hconsult

/-- An iteration stays in the phase that it entered. -/
theorem iterate_phase (kind : CallKind) (started : τ) (g : Engine τ) :
    (g.enter kind).SamePhase (Attempt.left (g.iterate kind started)) := by
  have hadvance : (g.enter kind).SamePhase (Attempt.left (g.advance kind started)) := by
    have htake := take_phase kind started (g.enter kind)
    unfold advance
    cases ht : (g.enter kind).take kind started with
    | error f =>
      rw [ht] at htake
      exact htake
    | ok a =>
      rw [ht] at htake
      exact ((judge_phase a.1).bind fun g' => complete_phase g' a.2).trans htake
  rw [iterate_eq]
  exact hadvance.bind fun u => (save_phase u false).bind fun v => rfl

/-- A run that goes on from a snapshot is running, and so is one that has made a
step; before that it is initialized. -/
theorem Course.phase {past : List (State τ)} (hc : g₀.Course past g) :
    (past = [] ∧ g.executor.phase = .initialized) ∨ g.executor.phase = .running := by
  cases hc with
  | start hs =>
    rcases start_ok hs with ⟨_, hi⟩ | ⟨x, _, hx⟩
    · have hphase := iterate_phase .opening g₀.world.clock g₀.begun.settled
      rw [hi] at hphase
      exact .inl ⟨rfl, hphase⟩
    · subst hx
      refine .inr ?_
      unfold resume
      dsimp only
      split <;> rfl
  | @step past u _ _ _ hi =>
    have hphase := iterate_phase .step g₀.world.clock u
    rw [hi] at hphase
    exact .inr hphase

end Engine

/-! ## Orders -/

/-- What an executor can be told before its run, and to run. -/
inductive Order (τ : Type) where
  | configure (changes : Table Value)
  | observe (name : String) (given : Given (Observer τ)) (mode : Mode)
  | checkpoint (cabinet : String) (store : Given (Store τ)) (key : Value) (frequency : Frequency)
      (fatal resume : Bool)
  | abortOn (signal : Nat)
  | run

/-- The answer to an order: a refusal, or the outcome of a run, if it was one. -/
abbrev Reply (τ : Type) := Except Fault (Option (Outcome τ))

namespace Order

def action : Order τ → String
  | .configure _ => "configure"
  | .observe _ _ _ => "add observers"
  | .checkpoint _ _ _ _ _ _ => "configure checkpointing"
  | .abortOn _ => "set the abort signal"
  | .run => "run"

/-- The refusal of an order to an executor that has run. -/
def late (o : Order τ) : Fault := .lifecycle (.wrongPhase o.action Phase.terminated.name)

end Order

namespace Engine

/-- The engine after a change to its executor, unless that is refused. -/
def revised (g : Engine τ) : Except Fault (Executor τ) → Engine τ × Reply τ
  | .ok e => ({ g with executor := e }, .ok none)
  | .error f => (g, .error f)

variable [Clock τ]

/-- An order is carried out or refused. There is nothing if it is a run that has
more than `limit` iterations. -/
def obey (limit : Nat) (g : Engine τ) : Order τ → Option (Engine τ × Reply τ)
  | .configure changes => some (g.revised (g.executor.configure changes))
  | .observe name given mode =>
    some ((g.observe name given mode).1, (g.observe name given mode).2.map fun _ => none)
  | .checkpoint cabinet store key frequency fatal resume =>
    some (g.revised (g.executor.checkpointing cabinet store key frequency fatal resume))
  | .abortOn n => some (g.revised (g.executor.abortSignal n))
  | .run =>
    match g.run limit with
    | .error f => some (g, .error f)
    | .ok none => none
    | .ok (some (h, o)) => some (h, o.handedBack.map some)

/-- Orders are given one after the other, whether or not some are refused. -/
def obeyAll (limit : Nat) (g : Engine τ) : List (Order τ) → Option (Engine τ × List (Reply τ))
  | [] => some (g, [])
  | o :: os =>
    (g.obey limit o).bind fun a => (a.1.obeyAll limit os).map fun b => (b.1, a.2 :: b.2)

/-- Whether an engine has come to another phase or to other observers. An order
that does that is carried out, even if it is refused. -/
def Moved (g h : Engine τ) : Prop :=
  h.executor.phase ≠ g.executor.phase ∨ h.executor.observers.keys ≠ g.executor.observers.keys

instance (g h : Engine τ) : Decidable (g.Moved h) := by
  unfold Moved
  infer_instance

variable {g h h' : Engine τ} {limit : Nat} {o : Order τ} {r : Reply τ}

/-- An executor that has run refuses every order, and is left as it is. -/
theorem obey_late (hg : g.executor.phase = .terminated) (o : Order τ) :
    g.obey limit o = some (g, .error o.late) := by
  have hrequire (action : String) : g.executor.require .created action =
      .error (.lifecycle (.wrongPhase action Phase.terminated.name)) := by
    unfold Executor.require
    rw [hg]
    rfl
  cases o with
  | configure changes =>
    simp only [obey, Executor.configure, hrequire]
    rfl
  | observe name given mode =>
    simp only [obey, observe, hrequire]
    rfl
  | checkpoint cabinet store key frequency fatal resume =>
    simp only [obey, Executor.checkpointing, hrequire]
    rfl
  | abortOn n =>
    simp only [obey, Executor.abortSignal, hrequire]
    rfl
  | run =>
    simp only [obey, run, hrequire]
    rfl

end Engine

/-- An executor to which something was given that is no observer. -/
structure Executor.Furnished (e e' : Executor τ) : Prop where
  phase : e'.phase = e.phase
  observers : e'.observers = e.observers

namespace Executor

variable {e e' : Executor τ}

theorem require_ok {phase : Phase} {action : String} {u : Unit}
    (h : e.require phase action = .ok u) : e.phase = phase := by
  unfold require at h
  split at h
  · assumption
  · cases h

theorem configure_furnished {changes : Table Value} (h : e.configure changes = .ok e') :
    e.Furnished e' := by
  unfold configure at h
  obtain ⟨_, _, h⟩ := bind_ok h
  obtain ⟨_, _, h⟩ := bind_ok h
  cases h
  exact ⟨rfl, rfl⟩

theorem checkpointing_furnished {cabinet : String} {store : Given (Store τ)} {key : Value}
    {frequency : Frequency} {fatal resume : Bool}
    (h : e.checkpointing cabinet store key frequency fatal resume = .ok e') : e.Furnished e' := by
  unfold checkpointing at h
  obtain ⟨_, _, h⟩ := bind_ok h
  obtain ⟨_, _, h⟩ := bind_ok h
  cases h
  exact ⟨rfl, rfl⟩

theorem abortSignal_furnished {n : Nat} (h : e.abortSignal n = .ok e') : e.Furnished e' := by
  unfold abortSignal at h
  obtain ⟨_, _, h⟩ := bind_ok h
  cases h
  exact ⟨rfl, rfl⟩

end Executor

namespace Engine

variable {g h h' : Engine τ} {limit : Nat} {o : Order τ} {r : Reply τ}

theorem revised_cases {x : Except Fault (Executor τ)}
    (hx : ∀ e, x = .ok e → g.executor.Furnished e) (hr : g.revised x = (h, r)) :
    (∃ f, r = .error f ∧ h = g) ∨ (r = .ok none ∧ g.executor.Furnished h.executor) := by
  cases x with
  | error f =>
    cases hr
    exact .inl ⟨f, rfl, rfl⟩
  | ok e =>
    cases hr
    exact .inr ⟨rfl, hx e rfl⟩

/-- What comes of an observer that is offered. It is refused, and nothing is
changed but what a setup did before it failed; or it is set up, if it has to be,
and stands in the registry, whether or not its mode can be told. -/
theorem observe_cases {name : String} {given : Given (Observer τ)} {mode : Mode}
    {x : Except Fault Unit} (hr : g.observe name given mode = (h, x)) :
    (∃ f, x = .error f ∧ h.executor = g.executor ∧ (h.world = g.world ∨
      ∃ o hook, given = .proper o ∧ o.setup = some hook ∧
        (hook g.world.outlets).failure ≠ none ∧ h.world = g.world.after (hook g.world.outlets))) ∨
    ∃ o, (x = .ok () ∨ ∃ e, mode.message = .error e ∧ x = .error (.slip e)) ∧ given = .proper o ∧
      g.executor.observers.contains name = false ∧
      h.executor = { g.executor with observers := g.executor.observers.insert name ⟨o, mode⟩ } := by
  have hannounced (w : World τ) : (Registry.announced name mode w).2 = .ok () ∨
      ∃ e, mode.message = .error e ∧ (Registry.announced name mode w).2 = .error (.slip e) := by
    unfold Registry.announced
    cases mode.message with
    | ok _ => exact .inl rfl
    | error e => exact .inr ⟨e, rfl, rfl⟩
  unfold observe at hr
  cases hp : g.executor.require .created "add observers" with
  | error f =>
    rw [hp] at hr
    cases hr
    exact .inl ⟨f, rfl, rfl, .inl rfl⟩
  | ok u =>
    rw [hp] at hr
    dsimp only at hr
    cases hn : g.executor.observers.contains name with
    | true =>
      simp only [Registry.add, hn, if_true] at hr
      cases hr
      exact .inl ⟨_, rfl, rfl, .inl rfl⟩
    | false =>
      cases given with
      | other v =>
        simp only [Registry.add, hn, Bool.false_eq_true, if_false] at hr
        cases hr
        exact .inl ⟨_, rfl, rfl, .inl rfl⟩
      | proper o =>
        simp only [Registry.add, hn, Bool.false_eq_true, if_false, Registry.setUp, World.call] at hr
        cases hs : o.setup with
        | none =>
          simp only [hs] at hr
          cases hr
          exact .inr ⟨o, hannounced _, rfl, rfl, rfl⟩
        | some hook =>
          simp only [hs] at hr
          cases hf : (hook g.world.outlets).failure with
          | none =>
            simp only [hf] at hr
            cases hr
            exact .inr ⟨o, hannounced _, rfl, rfl, rfl⟩
          | some f =>
            simp only [hf] at hr
            cases hr
            refine .inl ⟨_, rfl, rfl, .inr ⟨o, hook, rfl, hs, ?_, rfl⟩⟩
            rw [hf]
            exact Option.some_ne_none f

variable [Clock τ]

/-- What comes of an order to run. It is refused, and nothing is changed; or the
executor was just created, and is terminated then. -/
theorem obey_run (ho : g.obey limit .run = some (h, r)) :
    (g.executor.phase ≠ .created ∧ (∃ f, r = .error f) ∧ h = g) ∨
    (g.executor.phase = .created ∧ h.executor.phase = .terminated ∧
      ∃ x, g.run limit = .ok (some (h, x)) ∧ r = x.handedBack.map some) := by
  unfold obey at ho
  cases hrun : g.run limit with
  | error f =>
    rw [hrun] at ho
    cases ho
    refine .inl ⟨?_, ⟨f, rfl⟩, rfl⟩
    intro hcreated
    unfold run Executor.require at hrun
    rw [hcreated] at hrun
    cases hrun
  | ok x =>
    rw [hrun] at ho
    cases x with
    | none => cases ho
    | some a =>
      cases ho
      refine .inr ?_
      have hends := hrun
      unfold run at hends
      obtain ⟨_, hcreated, hends⟩ := bind_ok hends
      obtain ⟨y, _, hy⟩ := Option.map_eq_some_iff.mp (Except.ok.inj hends)
      refine ⟨Executor.require_ok hcreated, ?_, a.2, rfl, rfl⟩
      rw [← concluded_phase g.executor.runName y, hy]

omit [Clock τ] in
theorem keys_insert_ne {name : String} {x : Registered τ} {t : Registry τ}
    (hn : t.contains name = false) : (t.insert name x).keys ≠ t.keys := by
  intro hkeys
  have hmem : name ∈ t.keys := by
    rw [← hkeys]
    exact Table.mem_keys_put.mpr (.inl rfl)
  obtain ⟨e, he, hname⟩ := List.mem_map.mp hmem
  have hstands : t.contains name = true := List.any_eq_true.mpr ⟨e, he, decide_eq_true hname⟩
  rw [hn] at hstands
  cases hstands

end Engine

/-! ## Refused orders -/

/-- All of a world, with outlets that are taken for one another. -/
def Sight.whole (names : Table Nat) (r : Semblance Outlets) : Sight τ :=
  ⟨names, fun _ => True, r, fun _ => .eq _, True⟩

/-- An observer that goes by what is seen of the outlets. If its setup fails,
nothing is seen of what that did. -/
structure Observer.Discreet (r : Semblance Outlets) (o : Observer τ) : Prop where
  heeds : o.Heeds r
  setup : ∀ hook, o.setup = some hook → Minimize.Heeds r hook
  failing : ∀ hook, o.setup = some hook → ∀ x, r.r x x → (hook x).failure ≠ none →
    r.r x (hook x).outlets ∧ (hook x).raised = []

/-- An order that offers no observer, or one that goes by what is seen. -/
def Order.Discreet (r : Semblance Outlets) : Order τ → Prop
  | .observe _ (.proper o) _ => o.Discreet r
  | _ => True

theorem Table.mem_insert {α : Type} {t : Table α} {key : String} {a : α} {e : String × α}
    (h : e ∈ (t.insert key a).entries) : e = (key, a) ∨ e ∈ t.entries := by
  have hput {es : List (String × α)} (he : e ∈ Table.put key a es) : e = (key, a) ∨ e ∈ es := by
    induction es with
    | nil => exact .inl (List.mem_singleton.mp he)
    | cons x rest ih =>
      unfold Table.put at he
      split at he
      · rename_i hx
        subst hx
        rcases List.mem_cons.mp he with h1 | h1
        · exact .inl h1
        · exact .inr (List.mem_cons_of_mem _ h1)
      · rcases List.mem_cons.mp he with rfl | h1
        · exact .inr List.mem_cons_self
        · exact (ih h1).imp id (List.mem_cons_of_mem _)
  exact hput h

/-- An observer that is offered in worlds that look alike is taken on in both, or
refused in both. -/
theorem Registry.add_alike {s : Sight τ} {w w' : World τ} (hw : s.Alike w w') (r : Registry τ)
    (name : String) (given : Given (Observer τ)) (mode : Mode)
    (hg : ∀ o, given = .proper o → ∀ hook, o.setup = some hook → Heeds s.outlets hook) :
    s.Alike (r.add name given mode w).2.1 (r.add name given mode w').2.1 ∧
      (r.add name given mode w').1 = (r.add name given mode w).1 ∧
      (r.add name given mode w').2.2 = (r.add name given mode w).2.2 := by
  have hannounced {v v' : World τ} (hv : s.Alike v v') :
      s.Alike (announced name mode v).1 (announced name mode v').1 ∧
        (announced name mode v').2 = (announced name mode v).2 := by
    unfold announced
    cases mode.message with
    | ok _ => exact ⟨hv.note _ _, rfl⟩
    | error e => exact ⟨hv, rfl⟩
  unfold add
  cases r.contains name with
  | true => exact ⟨hw, rfl, rfl⟩
  | false =>
    simp only [Bool.false_eq_true, if_false]
    cases given with
    | other v => exact ⟨hw, rfl, rfl⟩
    | proper o =>
      dsimp only
      unfold setUp World.call
      cases hs : o.setup with
      | none =>
        obtain ⟨hworld, hanswer⟩ := hannounced hw
        exact ⟨hworld, rfl, hanswer⟩
      | some hook =>
        have hlike := hg o rfl hook hs _ _ hw.outlets
        have hafter := hw.after hlike
        dsimp only
        rw [hlike.failure]
        cases (hook w.outlets).failure with
        | none =>
          obtain ⟨hworld, hanswer⟩ := hannounced hafter
          exact ⟨hworld, rfl, hanswer⟩
        | some f => exact ⟨hafter, rfl, rfl⟩

namespace Engine

variable {names : Table Nat} {r : Semblance Outlets} {g h : Engine τ} {o : Order τ} {limit : Nat}

theorem heeds_whole {e : Executor τ} (h : ∀ x ∈ e.observers.entries, x.2.observer.Heeds r) :
    e.Heeds (.whole names r) := by
  refine ⟨fun _ => trivial, h, fun p _ => ?_, fun _ _ => trivial⟩
  refine ⟨?_, ?_, ?_⟩
  · rintro c _ rfl
    rfl
  · rintro c _ rfl
    rfl
  · rintro x c _ rfl
    exact ⟨rfl, rfl⟩

theorem Echoes.revised (he : g.Echoes (.whole names r) h) {x : Except Fault (Executor τ)}
    (hx : ∀ e, x = .ok e → g.executor.Furnished e) :
    (g.revised x).1.Echoes (.whole names r) (h.revised x).1 ∧
      (h.revised x).2 = (g.revised x).2 := by
  obtain ⟨hm, hw⟩ := he
  cases x with
  | error f => exact ⟨.echoes hm hw, rfl⟩
  | ok e =>
    have hobservers : ∀ x ∈ e.observers.entries, x.2.observer.Heeds r := by
      rw [(hx e rfl).observers]
      exact hm.observers
    exact ⟨.echoes (heeds_whole hobservers) hw, rfl⟩

variable [Clock τ]

/-- An order that is refused and not carried out leaves the executor as it is,
and the world as it looks. -/
theorem Echoes.refused (he : g.Echoes (.whole names r) g) (hd : o.Discreet r) {f : Fault}
    (ho : g.obey limit o = some (h, .error f)) (hm : ¬ g.Moved h) :
    g.Echoes (.whole names r) h := by
  have hrevised {x : Except Fault (Executor τ)} (hx : ∀ e, x = .ok e → g.executor.Furnished e)
      (hr : g.revised x = (h, .error f)) : g.Echoes (.whole names r) h := by
    rcases revised_cases hx hr with ⟨_, _, rfl⟩ | ⟨hok, _⟩
    · exact he
    · cases hok
  cases o with
  | configure changes =>
    exact hrevised (fun _ => Executor.configure_furnished) (Option.some.inj ho)
  | observe name given mode =>
    cases hx : g.observe name given mode with
    | mk u x =>
      simp only [obey, hx] at ho
      obtain ⟨rfl, hr⟩ := Prod.mk.inj (Option.some.inj ho)
      rcases observe_cases hx with ⟨_, _, hsame, hworld⟩ | ⟨_, _, _, hnew, hexecutor⟩
      · obtain ⟨e, w⟩ := u
        cases hsame
        have hw := he.world
        refine .echoes he.heeds ?_
        rcases hworld with rfl | ⟨y, hook, rfl, hs, hf, rfl⟩
        · exact hw
        · obtain ⟨houtlets, hraised⟩ := hd.failing hook hs _ hw.outlets hf
          unfold World.after
          rw [hraised]
          have hout : (Sight.whole names r).Alike g.world
              { g.world with outlets := (hook g.world.outlets).outlets } :=
            ⟨hw.names, hw.signals, houtlets, hw.cabinets, hw.clock⟩
          exact hout.notes .opened _
      · refine absurd (.inr ?_) hm
        rw [hexecutor]
        exact keys_insert_ne hnew
  | checkpoint cabinet store key frequency fatal resume =>
    exact hrevised (fun _ => Executor.checkpointing_furnished) (Option.some.inj ho)
  | abortOn n =>
    exact hrevised (fun _ => Executor.abortSignal_furnished) (Option.some.inj ho)
  | run =>
    rcases obey_run ho with ⟨_, _, rfl⟩ | ⟨hcreated, hover, _⟩
    · exact he
    · refine absurd (.inl ?_) hm
      rw [hover, hcreated]
      exact Phase.noConfusion

omit [Clock τ] in
theorem Echoes.observe (he : g.Echoes (.whole names r) h) (name : String)
    (given : Given (Observer τ)) (mode : Mode)
    (hd : (Order.observe name given mode).Discreet r) :
    (g.observe name given mode).1.Echoes (.whole names r) (h.observe name given mode).1 ∧
      (h.observe name given mode).2 = (g.observe name given mode).2 := by
  obtain @⟨w, hm, hw⟩ := he
  have hsetup : ∀ x, given = .proper x → ∀ hook, x.setup = some hook → Heeds r hook := by
    rintro x rfl
    exact hd.setup
  obtain ⟨hworld, hregistry, hanswer⟩ :=
    g.executor.observers.add_alike hw name given mode hsetup
  cases hx : g.observe name given mode with
  | mk u x =>
    have hcases := observe_cases hx
    unfold Engine.observe at hx ⊢
    cases hp : g.executor.require .created "add observers" with
    | error f =>
      simp only [hp] at hx ⊢
      cases hx
      exact ⟨.echoes hm hw, rfl⟩
    | ok _ =>
      simp only [hp] at hx ⊢
      revert hx hworld hregistry hanswer
      generalize g.executor.observers.add name given mode g.world = a
      generalize g.executor.observers.add name given mode w = b
      obtain ⟨ra, wa, xa⟩ := a
      obtain ⟨rb, wb, xb⟩ := b
      intro hworld hregistry hanswer hx
      cases hregistry
      cases hanswer
      cases hx
      refine ⟨.echoes (heeds_whole ?_) hworld, rfl⟩
      rcases hcases with ⟨_, _, hsame, _⟩ | ⟨y, _, rfl, _, hexecutor⟩
      · have hstays : ra = g.executor.observers := congrArg Executor.observers hsame
        rw [hstays]
        exact hm.observers
      · intro e he
        have hadded : ra = g.executor.observers.insert name ⟨y, mode⟩ :=
          congrArg Executor.observers hexecutor
        dsimp only at he
        rw [hadded] at he
        rcases Table.mem_insert he with rfl | hold
        · exact hd.heeds
        · exact hm.observers e hold

/-- An order comes to the same in worlds that look alike. -/
theorem Echoes.obey (he : g.Echoes (.whole names r) h) (hd : o.Discreet r) (limit : Nat) :
    Option.Rel (fun a b => a.1.Echoes (.whole names r) b.1 ∧ b.2 = a.2) (g.obey limit o)
      (h.obey limit o) := by
  cases o with
  | configure changes =>
    unfold Engine.obey
    rw [he.executor]
    exact .some (he.revised fun _ => Executor.configure_furnished)
  | observe name given mode =>
    obtain ⟨hengine, hanswer⟩ := he.observe name given mode hd
    unfold Engine.obey
    dsimp only
    rw [hanswer]
    exact .some ⟨hengine, rfl⟩
  | checkpoint cabinet store key frequency fatal resume =>
    unfold Engine.obey
    rw [he.executor]
    exact .some (he.revised fun _ => Executor.checkpointing_furnished)
  | abortOn n =>
    unfold Engine.obey
    rw [he.executor]
    exact .some (he.revised fun _ => Executor.abortSignal_furnished)
  | run =>
    unfold Engine.obey
    rcases he.run limit with ⟨f, hg, hh⟩ | ⟨x, y, hg, hh, hrel⟩
    · rw [hg, hh]
      exact .some ⟨he, rfl⟩
    · rw [hg, hh]
      cases hrel with
      | none => exact .none
      | @some a b hab =>
        obtain ⟨hengine, houtcome⟩ := hab
        dsimp only
        rw [houtcome]
        exact .some ⟨hengine, rfl⟩

/-! ## Orders one after the other -/

variable {orders : List (Order τ)} {reply : Reply τ} {a : Engine τ × List (Reply τ)}

theorem obeyAll_step (ho : g.obey limit o = some (h, reply)) (orders : List (Order τ)) :
    g.obeyAll limit (o :: orders) =
      (h.obeyAll limit orders).map fun b => (b.1, reply :: b.2) := by
  rw [obeyAll, ho]
  rfl

theorem obeyAll_cons (ho : g.obeyAll limit (o :: orders) = some a) :
    ∃ h reply b, g.obey limit o = some (h, reply) ∧ h.obeyAll limit orders = some b ∧
      a = (b.1, reply :: b.2) := by
  rw [obeyAll] at ho
  obtain ⟨⟨h, reply⟩, hone, ho⟩ := Option.bind_eq_some_iff.mp ho
  obtain ⟨b, hrest, rfl⟩ := Option.map_eq_some_iff.mp ho
  exact ⟨h, reply, b, hone, hrest, rfl⟩

/-- An executor that has run refuses all that follows. -/
theorem obeyAll_late (hg : g.executor.phase = .terminated) (limit : Nat)
    (orders : List (Order τ)) :
    g.obeyAll limit orders = some (g, orders.map fun o => .error o.late) := by
  induction orders with
  | nil => rfl
  | cons o orders ih =>
    rw [obeyAll_step (obey_late hg o), ih]
    rfl

/-- Every run that orders come to is one that can write all its numbers before the end. -/
def RunsNumbered (limit : Nat) (g : Engine τ) (orders : List (Order τ)) : Prop :=
  ∀ first later a, orders = first ++ .run :: later → g.obeyAll limit first = some a →
    a.1.executor.phase = .created → a.1.Numbered

theorem RunsNumbered.late (hg : g.executor.phase = .terminated) (limit : Nat)
    (orders : List (Order τ)) : g.RunsNumbered limit orders := by
  intro first later a _ ha hcreated
  rw [obeyAll_late hg] at ha
  cases ha
  cases hg.symm.trans hcreated

theorem RunsNumbered.cons (ho : g.obey limit o = some (h, reply))
    (hrun : o = .run → g.executor.phase = .created → g.Numbered)
    (hrest : h.RunsNumbered limit orders) : g.RunsNumbered limit (o :: orders) := by
  intro first later a horders ha
  cases first with
  | nil =>
    cases horders
    cases ha
    exact hrun rfl
  | cons o' first =>
    cases horders
    obtain ⟨h', reply', b, ho', hb, rfl⟩ := obeyAll_cons ha
    cases ho.symm.trans ho'
    exact hrest first later b rfl hb

/-- The engines of a course come in the order of their phases. -/
theorem Course.rank {past past' : List (State τ)} {u u' : Engine τ} (hc : g.Course past u)
    (hc' : g.Course past' u') (hl : past.length ≤ past'.length) :
    u.executor.phase.rank ≤ u'.executor.phase.rank := by
  rcases hc.phase with ⟨rfl, hu⟩ | hu
  · rcases hc'.phase with ⟨_, hu'⟩ | hu'
    · exact Nat.le_of_eq (congrArg Phase.rank (hu.trans hu'.symm))
    · rw [hu, hu']
      decide
  · rcases hc'.phase with ⟨rfl, _⟩ | hu'
    · obtain ⟨_, rfl⟩ := hc.unique hc' (Nat.le_antisymm hl (Nat.zero_le _))
      exact Nat.le_refl _
    · exact Nat.le_of_eq (congrArg Phase.rank (hu.trans hu'.symm))

end Engine

/-! ## Observers that fail when they are set up -/

namespace Engine

def broken : Observer Float :=
  Sample.scriptedObserver "broken" ⟨some .notImplemented, [], none, none, none, none⟩

end Engine

end Minimize
