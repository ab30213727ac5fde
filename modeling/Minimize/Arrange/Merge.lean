-- Merging two runs that stand next to each other. What is in place already at
-- the far ends stays. The rest is merged from the end where the shorter run
-- stands: item by item, until one run has won so often in a row that it pays
-- to look how many of its items go at once. If a comparison fails, the items
-- stay as they are by then.

namespace Minimize.Arrange

variable {α ε : Type}

/-! ## Where a key belongs -/

/-- The place between two places up to which `before` holds, by bisection. -/
def bisect (before : Nat → Except ε Bool) (low high : Nat) : Except ε Nat :=
  if low < high then do
    let middle := (low + high) / 2
    if ← before middle then bisect before (middle + 1) high else bisect before low middle
  else .ok low
  termination_by high - low
  decreasing_by all_goals omega

/-- The last two strides, each more than twice as long as the one before, of
which the first still goes and the second does not, or goes to the limit. -/
def stride (goes : Nat → Except ε Bool) (limit last next : Nat) : Except ε (Nat × Nat) :=
  if next < limit then do
    if ← goes next then stride goes limit next (2 * next + 1) else return (last, next)
  else .ok (last, limit)
  termination_by limit - next
  decreasing_by omega

/-- How many items at the head of a list come before a key, looked for in
strides from a place and then by bisection. -/
def boundary (before : α → Except ε Bool) (items : List α) (start : Nat) : Except ε Nat := do
  let at_ (i : Nat) : Except ε Bool := match items[i]? with
    | some a => before a
    | none => .ok false
  if ← at_ start then
    let (last, next) ← stride (fun k => at_ (start + k)) (items.length - start) 0 1
    bisect at_ (start + last + 1) (start + next)
  else
    let (last, next) ← stride (fun k => return !(← at_ (start - k))) (start + 1) 0 1
    bisect at_ (start + 1 - next) (start - last)

/-! ## Merging -/

/-- The end from which two runs are merged. Seen from there, both are read
from their heads; from the back, that is backwards. -/
inductive Side where
  | front
  | back
  deriving DecidableEq

/-- What a merge comes to: the items as seen from its side, how often in a row
a run has to win next time, and what stopped it. -/
structure Merged (α ε : Type) where
  items : List α
  patience : Nat
  trouble? : Option ε

namespace Side

/-- Whether the item of the second run goes before that of the first. -/
def secondGoes (less : α → α → Except ε Bool) (s : Side) (b a : α) : Except ε Bool :=
  match s with
  | .front => less b a
  | .back => return !(← less b a)

/-- How many items at the head of a run go at once. -/
def leading (s : Side) (goes : α → Except ε Bool) (items : List α) : Except ε Nat :=
  match s with
  | .front => boundary goes items 0
  | .back => do
    let n := items.length
    return n - (← boundary (fun a => return !(← goes a)) items.reverse (n - 1))

/-- Whether the rest needs no comparison: a run is used up, or only one item
is left of the run at this side, which goes last. -/
def isOver (s : Side) (as bs : List α) : Bool :=
  match s with
  | .front => as.length ≤ 1 || bs.isEmpty
  | .back => bs.length ≤ 1 || as.isEmpty

/-- The rest of two runs when the merge is over. -/
def rest (s : Side) (as bs : List α) : List α :=
  match s with
  | .front => bs ++ as
  | .back => as ++ bs

/-- The rest of two runs as it stands. -/
def standing (s : Side) (as bs : List α) : List α :=
  match s with
  | .front => as ++ bs
  | .back => bs ++ as

end Side

/-- So many items have to go at once for a run to go on in that way. -/
def worthwhile : Nat := 7

variable (less : α → α → Except ε Bool)

mutual

/-- Merges item by item, where the runs have won so often in a row; `done` is
what has gone, the last item first. -/
def mergeSingly (s : Side) (patience wonA wonB : Nat) (done as bs : List α) : Merged α ε :=
  match as, bs with
  | a :: as, b :: bs =>
    if s.isOver (a :: as) (b :: bs) then
      ⟨done.reverse ++ s.rest (a :: as) (b :: bs), patience, none⟩
    else
      match s.secondGoes less b a with
      | .error e => ⟨done.reverse ++ s.standing (a :: as) (b :: bs), patience, some e⟩
      | .ok true =>
        if patience ≤ wonB + 1 then mergeBlocks s patience (b :: done) (a :: as) bs
        else mergeSingly s patience 0 (wonB + 1) (b :: done) (a :: as) bs
      | .ok false =>
        if patience ≤ wonA + 1 then mergeBlocks s patience (a :: done) as (b :: bs)
        else mergeSingly s patience (wonA + 1) 0 (a :: done) as (b :: bs)
  | as, bs => ⟨done.reverse ++ s.rest as bs, patience, none⟩
  termination_by as.length + bs.length
  decreasing_by all_goals simp_wf

/-- Merges as many items as go at once, in turn from the first run and from
the second, for as long as that pays. -/
def mergeBlocks (s : Side) (patience : Nat) (done as bs : List α) : Merged α ε :=
  if s.isOver as bs then ⟨done.reverse ++ s.rest as bs, patience, none⟩
  else
    match bs with
    | [] => ⟨done.reverse ++ as, patience, none⟩
    | b :: bs =>
      match s.leading (fun a => return !(← s.secondGoes less b a)) as with
      | .error e => ⟨done.reverse ++ s.standing as (b :: bs), patience, some e⟩
      | .ok n =>
        let done := (as.take n).reverse ++ done
        if s.isOver (as.drop n) (b :: bs) then
          ⟨done.reverse ++ s.rest (as.drop n) (b :: bs), patience, none⟩
        else if s.isOver (as.drop n) bs then
          ⟨(b :: done).reverse ++ s.rest (as.drop n) bs, patience, none⟩
        else
          match _h : as.drop n with
          | [] => ⟨(b :: done).reverse ++ bs, patience, none⟩
          | a :: as' =>
            match s.leading (fun b => s.secondGoes less b a) bs with
            | .error e => ⟨(b :: done).reverse ++ s.standing (a :: as') bs, patience, some e⟩
            | .ok m =>
              let done := (bs.take m).reverse ++ b :: done
              if s.isOver (a :: as') (bs.drop m) then
                ⟨done.reverse ++ s.rest (a :: as') (bs.drop m), patience, none⟩
              else if worthwhile ≤ n ∨ worthwhile ≤ m then
                mergeBlocks s (max 1 (patience - 1)) (a :: done) as' (bs.drop m)
              else mergeSingly s (patience + 1) 0 0 (a :: done) as' (bs.drop m)
  termination_by as.length + bs.length
  decreasing_by
  all_goals
    have := congrArg List.length _h
    simp only [List.length_drop, List.length_cons] at this ⊢
    omega

end

/-- Merges two runs from the side where the shorter one stands; the first item
to go is known. -/
def mergeFrom (patience : Nat) (as bs : List α) : Merged α ε :=
  if as.length ≤ bs.length then
    match bs with
    | [] => ⟨as, patience, none⟩
    | b :: bs => mergeSingly less .front patience 0 0 [b] as bs
  else
    match as.reverse with
    | [] => ⟨bs, patience, none⟩
    | a :: as =>
      let m := mergeSingly less .back patience 0 0 [a] as bs.reverse
      { m with items := m.items.reverse }

/-- Merges two runs, of which no item of the second goes before the head of
the first, or behind its end, unless it has to. -/
def merge (patience : Nat) (as bs : List α) : Merged α ε :=
  let stopped (e : ε) : Merged α ε := ⟨as ++ bs, patience, some e⟩
  match bs.head? with
  | none => ⟨as, patience, none⟩
  | some b =>
    match boundary (fun a => return !(← less b a)) as 0 with
    | .error e => stopped e
    | .ok n =>
      match (as.drop n).getLast? with
      | none => ⟨as ++ bs, patience, none⟩
      | some a =>
        match boundary (fun b => less b a) bs (bs.length - 1) with
        | .error e => stopped e
        | .ok 0 => ⟨as ++ bs, patience, none⟩
        | .ok m =>
          let r := mergeFrom less patience (as.drop n) (bs.take m)
          { r with items := as.take n ++ r.items ++ bs.drop m }

end Minimize.Arrange
