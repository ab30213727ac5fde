-- Reading JSON with something behind the text. What goes on with nothing that was
-- begun, such as an object behind a blank, spoils a text that it stands behind: the
-- text has what follows it left over, or it is malformed, or there is no room for it.
import Minimize.Proofs.Parsing

namespace Minimize.JsonValue

variable {α β : Type} {X cs ds r t w : List Char} {room fuel d : Nat}

/-! ## Texts with something behind them -/

/-- What a text is read as alone, and with something behind it: the same, nothing at
all, or a text that ends only behind its end. -/
inductive TextBehind (X : List Char) : Option (List Char × List Char) →
    Option (List Char × List Char) → Prop
  | within (w r : List Char) : TextBehind X (some (w, r)) (some (w, r ++ X))
  | stopped : TextBehind X none none
  | crossed {w r v : List Char} (hX : textTail X = some (v, r)) : TextBehind X none (some (w, r))

theorem TextBehind.cons {a b : Option (List Char × List Char)} (h : TextBehind X a b) (c : Char) :
    TextBehind X (consText c a) (consText c b) := by
  cases h with
  | within w r => exact .within (c :: w) r
  | stopped => exact .stopped
  | crossed hX => exact .crossed hX

theorem hexValue?_of_isEnd {c : Char} (hc : isEnd c = true) : hexValue? c = none := by
  have hapart {d : Char} (hd : isEnd d = false) : c.toNat ≠ d.toNat :=
    fun h => ne_of_isEnd hc hd (Char.toNat_inj.mp h)
  unfold isEnd Text.isBlank Text.isSpace at hc
  simp only [Bool.or_eq_true, Bool.and_eq_true, decide_eq_true_eq, beq_iff_eq] at hc
  have hplace : c.toNat ≤ 0x2c ∨ 0x7b ≤ c.toNat := by
    rcases hc with ((rfl | rfl) | rfl) | hc
    · decide
    · decide
    · decide
    · omega
  unfold hexValue?
  dsimp only
  rw [if_neg (by omega), if_neg (by omega), if_neg (by omega)]

theorem shortEscape?_of_isEnd {c : Char} (hc : isEnd c = true) : shortEscape? c = none := by
  unfold shortEscape?
  split
  all_goals first | rfl | exact absurd hc (by decide)

/-- Four characters are no unit if one of them ends a number. -/
theorem unit?_of_isEnd {a b c d x : Char} (hx : isEnd x = true) (hmem : x ∈ [a, b, c, d]) :
    unit? a b c d = none := by
  have hnone := hexValue?_of_isEnd hx
  simp only [List.mem_cons, List.not_mem_nil, or_false] at hmem
  unfold unit?
  rcases hmem with rfl | rfl | rfl | rfl <;> simp [hnone]

/-- A unit with no escape of another behind it. -/
theorem textTail_single {rest : List Char}
    (hsingle : ∀ e f g h t, rest ≠ '\\' :: 'u' :: e :: f :: g :: h :: t) (a b c d : Char) :
    textTail ('\\' :: 'u' :: a :: b :: c :: d :: rest) =
      (unit? a b c d).bind fun n => consText (ofPoint n) (textTail rest) := by
  rw [textTail.eq_4 a b c d rest hsingle]
  cases unit? a b c d <;> rfl

theorem textTail_no_unit {a b c d : Char} (h : unit? a b c d = none) (rest : List Char) :
    textTail ('\\' :: 'u' :: a :: b :: c :: d :: rest) = none := by
  by_cases hpair : ∃ e f g h t, rest = '\\' :: 'u' :: e :: f :: g :: h :: t
  · obtain ⟨e, f, g, h', t, rfl⟩ := hpair
    rw [textTail_units, h]
  · rw [textTail_single fun e f g h t ht => hpair ⟨e, f, g, h, t, ht⟩, h]
    rfl

theorem textTail_lone {a b c d : Char} {n : Nat} (hn : unit? a b c d = some n)
    (hlone : ∀ e f g h t, r = '\\' :: 'u' :: e :: f :: g :: h :: t → ∀ m,
      (if isHighUnit n then unit? e f g h else none) = some m → ¬ isLowUnit m = true) :
    textTail ('\\' :: 'u' :: a :: b :: c :: d :: r) = consText (ofPoint n) (textTail r) := by
  by_cases hpair : ∃ e f g h t, r = '\\' :: 'u' :: e :: f :: g :: h :: t
  · obtain ⟨e, f, g, h', t, rfl⟩ := hpair
    rw [textTail_units, hn]
    dsimp only
    split
    · rename_i m hm
      rw [if_neg (hlone e f g h' t rfl m hm)]
    · rfl
  · rw [textTail_single fun e f g h t ht => hpair ⟨e, f, g, h, t, ht⟩, hn]
    rfl

/-- An escape that is no unit is a short one or none. -/
theorem textTail_escaped {c : Char} {rest : List Char}
    (hunit : c = 'u' → ∀ a b c d t, rest ≠ a :: b :: c :: d :: t) :
    textTail ('\\' :: c :: rest) = (shortEscape? c).bind fun c' => consText c' (textTail rest) := by
  rw [textTail.eq_5 c rest (fun a b c d _ _ _ _ t hc heq => hunit hc a b c d _ heq)
    fun a b c d t hc heq => hunit hc a b c d t heq]
  cases shortEscape? c <;> rfl

/-- A character that is no mark of a text stands for itself, if it is printed. -/
theorem textTail_other {c : Char} (hq : c ≠ '"') (hb : c ≠ '\\') (rest : List Char) :
    textTail (c :: rest) = if c.toNat < 0x20 then none else consText c (textTail rest) := by
  rw [textTail.eq_6 c rest hq (fun _ _ _ _ _ _ _ _ _ h => absurd h hb)
    (fun _ _ _ _ _ h => absurd h hb) fun _ _ h => absurd h hb]
  simp [hb]

/-- A unit is cut off, or what ends a number stands in it. -/
theorem textTail_cut (hX : Ends X) {cs : List Char}
    (hshort : ∀ a b c d t, cs ≠ a :: b :: c :: d :: t) :
    textTail ('\\' :: 'u' :: (cs ++ X)) = none := by
  obtain ⟨x, rest, rfl, hx⟩ := hX
  by_cases hlong : ∃ a b c d t, cs ++ x :: rest = a :: b :: c :: d :: t
  · obtain ⟨a, b, c, d, t, heq⟩ := hlong
    rw [heq]
    refine textTail_no_unit (unit?_of_isEnd hx ?_) t
    rcases cs with _ | ⟨a', _ | ⟨b', _ | ⟨c', _ | ⟨d', cs⟩⟩⟩⟩
    · simp_all
    · simp_all
    · simp_all
    · simp_all
    · exact absurd rfl (hshort a' b' c' d' cs)
  · rw [textTail_escaped fun _ a b c d t heq => hlong ⟨a, b, c, d, t, heq⟩]
    rfl

theorem unit?_cut (hX : Ends X) {cs : List Char}
    (hshort : ∀ e f g h t, cs ≠ '\\' :: 'u' :: e :: f :: g :: h :: t) {e f g h : Char}
    {t : List Char} (heq : cs ++ X = '\\' :: 'u' :: e :: f :: g :: h :: t) :
    unit? e f g h = none := by
  obtain ⟨x, rest, rfl, hx⟩ := hX
  rcases cs with _ | ⟨a, _ | ⟨b, cs⟩⟩
  · simp only [List.nil_append, List.cons.injEq] at heq
    exact absurd heq.1 (ne_of_isEnd hx rfl)
  · simp only [List.cons_append, List.nil_append, List.cons.injEq] at heq
    exact absurd heq.2.1 (ne_of_isEnd hx rfl)
  · simp only [List.cons_append, List.cons.injEq] at heq
    obtain ⟨rfl, rfl, heq⟩ := heq
    refine unit?_of_isEnd hx ?_
    rcases cs with _ | ⟨e', _ | ⟨f', _ | ⟨g', _ | ⟨h', cs⟩⟩⟩⟩
    · simp_all
    · simp_all
    · simp_all
    · simp_all
    · exact absurd rfl (hshort e' f' g' h' cs)

/-- A text is read up to its end, whatever stands behind that; if it has no end, it
is no text, or it ends within what stands behind it. -/
theorem textTail_behind (hX : Ends X) (cs : List Char) :
    TextBehind X (textTail cs) (textTail (cs ++ X)) := by
  fun_induction textTail cs with
  | case1 =>
    rw [List.nil_append]
    cases hcrossed : textTail X with
    | none => exact .stopped
    | some p => exact .crossed hcrossed
  | case2 rest => exact .within [] rest
  | case3 a b c d e f g h rest hn =>
    simp only [List.cons_append]
    rw [textTail_no_unit hn]
    exact .stopped
  | case4 a b c d e f g h rest n hn m hm hlow ih =>
    simp only [List.cons_append]
    rw [textTail_units, hn]
    dsimp only
    rw [hm]
    dsimp only
    rw [if_pos hlow]
    exact ih.cons _
  | case5 a b c d e f g h rest n hn m hm hlow ih =>
    simp only [List.cons_append] at ih ⊢
    rw [textTail_lone hn fun _ _ _ _ _ heq m' hm' => ?_]
    · exact ih.cons _
    · cases heq
      rw [hm] at hm'
      cases hm'
      exact hlow
  | case6 a b c d e f g h rest n hn hm ih =>
    simp only [List.cons_append] at ih ⊢
    rw [textTail_lone hn fun _ _ _ _ _ heq m' hm' => ?_]
    · exact ih.cons _
    · cases heq
      rw [hm] at hm'
      cases hm'
  | case7 a b c d rest hno hn =>
    simp only [List.cons_append]
    rw [textTail_no_unit hn]
    exact .stopped
  | case8 a b c d rest hno n hn ih =>
    simp only [List.cons_append]
    rw [textTail_lone hn fun e f g h t heq m hm => ?_]
    · exact ih.cons _
    · rw [unit?_cut hX hno heq] at hm
      split at hm <;> cases hm
  | case9 c rest hno hno' hc =>
    simp only [List.cons_append]
    by_cases hu : c = 'u'
    · subst hu
      rw [textTail_cut hX fun a b c d t heq => hno' a b c d t rfl heq]
      exact .stopped
    · rw [textTail_escaped fun h => absurd h hu, hc]
      exact .stopped
  | case10 c rest hno hno' c' hc ih =>
    have hu : c ≠ 'u' := by
      rintro rfl
      cases hc
    simp only [List.cons_append]
    rw [textTail_escaped fun h => absurd h hu, hc]
    exact ih.cons c'
  | case11 c rest hq hno hno' hno'' hc =>
    simp only [List.cons_append]
    by_cases hb : c = '\\'
    · subst hb
      obtain ⟨x, xs, rfl, hx⟩ := hX
      cases rest with
      | nil =>
        rw [List.nil_append, textTail_escaped fun h => absurd h (ne_of_isEnd hx rfl),
          shortEscape?_of_isEnd hx]
        exact .stopped
      | cons y ys => exact absurd rfl (hno'' y ys rfl)
    · rw [textTail_other hq hb, if_pos (by simpa [hb] using hc)]
      exact .stopped
  | case12 c rest hq hno hno' hno'' hc ih =>
    simp only [Bool.or_eq_true, decide_eq_true_eq, beq_iff_eq, not_or] at hc
    simp only [List.cons_append]
    rw [textTail_other hq hc.2, if_neg hc.1]
    exact ih.cons c

/-! ## Values with something behind them -/

/-- Characters with which what was begun goes on. -/
def isMark (c : Char) : Bool := c == ',' || c == ']' || c == '\x7d' || c == ':' || c == '"'

/-- Something that goes on with nothing that was begun before it. A text that ends in
it leaves a letter; and where a value is looked for, it is a value to its end, or it
is none, or there is no room for it. -/
structure Intruder (X : List Char) : Prop where
  ends : Ends X
  leaves : ∀ w r, textTail X = some (w, r) → ∃ t, r = 't' :: t
  visible : skip X ≠ []
  unmarked : ∀ c t, skip X = c :: t → isMark c = false
  value : ∀ fuel room, X.length + 1 ≤ fuel →
    value fuel room (skip X) = .error .malformedText ∨
      (room = 0 ∧ value fuel room (skip X) = .error .tooDeep) ∨
      ∃ j, value fuel room (skip X) = .ok (j, [])

/-- What a reading comes to alone, and with something behind the text: the same, or
the text is malformed alone, and with what is behind it there is no room. -/
inductive Behind (X : List Char) (room : Nat) (cs : List Char) :
    Except Slip (α × List Char) → Except Slip (α × List Char) → Prop
  | within {a : α} {r : List Char} (hr : r <:+ cs) : Behind X room cs (.ok (a, r)) (.ok (a, r ++ X))
  | refused (e : Slip) : Behind X room cs (.error e) (.error e)
  | full (hroom : room ≤ cs.countP isOpening) :
      Behind X room cs (.error .malformedText) (.error .tooDeep)

/-- The same for a value, which also may end in what stands behind the text, or be
all of that. -/
inductive ValueBehind (X : List Char) (room : Nat) (cs : List Char) :
    Except Slip (JsonValue × List Char) → Except Slip (JsonValue × List Char) → Prop
  | behind {x y : Except Slip (JsonValue × List Char)} (h : Behind X room cs x y) :
      ValueBehind X room cs x y
  | crossed (j : JsonValue) (t : List Char) :
      ValueBehind X room cs (.error .malformedText) (.ok (j, 't' :: t))
  | begun (j : JsonValue) (hcs : skip cs = []) :
      ValueBehind X room cs (.error .malformedText) (.ok (j, []))

namespace Behind

variable {x y : Except Slip (α × List Char)}

theorem before (h : Behind X room ds x y) (hends : ds <:+ cs) : Behind X room cs x y := by
  cases h with
  | within hr => exact .within (hr.trans hends)
  | refused e => exact .refused e
  | full hroom => exact .full (hroom.trans hends.sublist.countP_le)

theorem bind (h : Behind X room cs x y) {f g : α × List Char → Except Slip (β × List Char)}
    (hnext : ∀ a r, r <:+ cs → Behind X room cs (f (a, r)) (g (a, r ++ X))) :
    Behind X room cs (x.bind f) (y.bind g) := by
  cases h with
  | within hr => exact hnext _ _ hr
  | refused e => exact .refused e
  | full hroom => exact .full hroom

theorem opened {c : Char} (hc : isOpening c = true) (h : Behind X room ds x y)
    (hends : c :: ds <:+ cs) (made : α → β) :
    Behind X (room + 1) cs (x.bind fun p => .ok (made p.1, p.2))
      (y.bind fun p => .ok (made p.1, p.2)) := by
  cases h with
  | within hr => exact .within ((hr.trans (List.suffix_cons c ds)).trans hends)
  | refused e => exact .refused e
  | full hroom =>
    have hcount := hends.sublist.countP_le (p := isOpening)
    rw [List.countP_cons_of_pos hc] at hcount
    exact .full (by omega)

end Behind

/-- Behind a value of which too much was read, nothing goes on. -/
theorem ValueBehind.bind {x y : Except Slip (JsonValue × List Char)}
    (h : ValueBehind X room cs x y)
    {f g : JsonValue × List Char → Except Slip (β × List Char)}
    (hnext : ∀ a r, r <:+ cs → Behind X room cs (f (a, r)) (g (a, r ++ X)))
    (hnone : ∀ j r, (∀ c t, skip r = c :: t → isMark c = false) →
      g (j, r) = .error .malformedText) : Behind X room cs (x.bind f) (y.bind g) := by
  cases h with
  | behind h => exact h.bind hnext
  | crossed j t =>
    have hg : g (j, 't' :: t) = .error .malformedText := by
      refine hnone j _ fun c t' ht => ?_
      cases ht
      rfl
    show Behind X room cs (.error .malformedText) (g (j, 't' :: t))
    rw [hg]
    exact .refused _
  | begun j hcs =>
    have hg : g (j, []) = .error .malformedText := hnone j [] fun c t ht => nomatch ht
    show Behind X room cs (.error .malformedText) (g (j, []))
    rw [hg]
    exact .refused _

/-- Behind a text that has no end but within what stands behind it, nothing goes on. -/
theorem TextBehind.bind {a b : Option (List Char × List Char)} (h : TextBehind X a b)
    (hends : ∀ w r, a = some (w, r) → r <:+ cs)
    {f g : List Char × List Char → Except Slip (β × List Char)}
    (hnext : ∀ w r, r <:+ cs → Behind X room cs (f (w, r)) (g (w, r ++ X)))
    (hnone : ∀ w r v, textTail X = some (v, r) → g (w, r) = .error .malformedText) :
    Behind X room cs ((orMalformed a).bind f) ((orMalformed b).bind g) := by
  cases h with
  | within w r => exact hnext w r (hends w r rfl)
  | stopped => exact .refused _
  | @crossed w r v hX =>
    show Behind X room cs (.error .malformedText) (g (w, r))
    rw [hnone w r v hX]
    exact .refused _

theorem skip_append_of_cons {c : Char} (h : skip cs = c :: t) (X : List Char) :
    skip (cs ++ X) = c :: (t ++ X) := by
  rw [skip_append, h]
  rfl

theorem skip_append_of_nil (h : skip cs = []) (X : List Char) : skip (cs ++ X) = skip X := by
  rw [skip_append, h]
  rfl

theorem suffix_of_skip {c : Char} (h : skip cs = c :: t) : c :: t <:+ cs := h ▸ skip_suffix cs

/-- What goes by the next character comes to the same, if it does so at every
character and what stands behind the text begins with none that it goes by. -/
theorem Behind.next {f g : List Char → Except Slip (α × List Char)}
    (hnil : f [] = .error .malformedText) (hX : g (skip X) = .error .malformedText)
    (hcons : ∀ c t, c :: t <:+ cs → Behind X room cs (f (c :: t)) (g (c :: (t ++ X)))) :
    Behind X room cs (f (skip cs)) (g (skip (cs ++ X))) := by
  cases hskip : skip cs with
  | nil =>
    rw [skip_append_of_nil hskip, hnil, hX]
    exact .refused _
  | cons c t =>
    rw [skip_append_of_cons hskip]
    exact hcons c t (suffix_of_skip hskip)

theorem afterItem_unmarked (h : ∀ c t, cs = c :: t → isMark c = false) (fuel room : Nat)
    (j : JsonValue) : afterItem fuel room j cs = .error .malformedText := by
  unfold afterItem
  split
  · exact absurd (h _ _ rfl) (by decide)
  · exact absurd (h _ _ rfl) (by decide)
  · rfl

theorem afterMember_unmarked (h : ∀ c t, cs = c :: t → isMark c = false) (fuel room : Nat)
    (ms : List (String × JsonValue)) : afterMember fuel room ms cs = .error .malformedText := by
  unfold afterMember
  split
  · exact absurd (h _ _ rfl) (by decide)
  · exact absurd (h _ _ rfl) (by decide)
  · rfl

theorem afterName_unmarked (h : ∀ c t, cs = c :: t → isMark c = false) (fuel room : Nat)
    (before : List (String × JsonValue)) (k : List Char) :
    afterName fuel room before k cs = .error .malformedText := by
  unfold afterName
  split
  · exact absurd (h _ _ rfl) (by decide)
  · rfl

/-- That readings of texts come to the same alone, with so much fuel, and with
something behind them, with so much fuel more. -/
structure ReadsBehind (X : List Char) (d fuel : Nat) : Prop where
  value (room : Nat) (cs : List Char) (hfuel : 2 * cs.length + 1 ≤ fuel) :
    ValueBehind X room cs (value fuel room (skip cs)) (value (fuel + d) room (skip (cs ++ X)))
  items (room : Nat) (cs : List Char) (hfuel : 2 * cs.length + 2 ≤ fuel) :
    Behind X room cs (itemsTail fuel room (skip cs)) (itemsTail (fuel + d) room (skip (cs ++ X)))
  members (room : Nat) (before : List (String × JsonValue)) (cs : List Char)
    (hfuel : 2 * cs.length + 2 ≤ fuel) : Behind X room cs (membersTail fuel room before (skip cs))
      (membersTail (fuel + d) room before (skip (cs ++ X)))

namespace ReadsBehind

variable (h : ReadsBehind X d fuel) (hX : Intruder X) (room : Nat)

include h hX

theorem afterItem (j : JsonValue) (hfuel : 2 * cs.length ≤ fuel) :
    Behind X room cs (JsonValue.afterItem fuel room j (skip cs))
      (JsonValue.afterItem (fuel + d) room j (skip (cs ++ X))) := by
  refine .next rfl (afterItem_unmarked hX.unmarked _ _ _) fun c t hends => ?_
  have hrest := (List.suffix_cons c t).trans hends
  have hlength := hends.length_le
  rw [List.length_cons] at hlength
  by_cases hclose : c = ']'
  · subst hclose
    exact .within hrest
  by_cases hcomma : c = ','
  · subst hcomma
    exact ((h.items room t (by omega)).before hrest).bind fun js r hr => .within hr
  have hother (f : Nat) (xs : List Char) :
      JsonValue.afterItem f room j (c :: xs) = .error .malformedText :=
    afterItem.eq_3 f room j _ (fun _ heq => hclose (List.cons.inj heq).1)
      fun _ heq => hcomma (List.cons.inj heq).1
  rw [hother, hother]
  exact .refused _

theorem items_succ (hfuel : 2 * cs.length + 2 ≤ fuel + 1) :
    Behind X room cs (itemsTail (fuel + 1) room (skip cs))
      (itemsTail (fuel + 1 + d) room (skip (cs ++ X))) := by
  rw [show fuel + 1 + d = fuel + d + 1 by omega, itemsTail_succ, itemsTail_succ]
  refine (h.value room cs (by omega)).bind (fun j r hr => ?_) fun j r hr => ?_
  · have hlength := hr.length_le
    exact (h.afterItem hX room j (show 2 * r.length ≤ fuel by omega)).before hr
  · exact afterItem_unmarked hr _ _ _

theorem afterMember (ms : List (String × JsonValue)) (hfuel : 2 * cs.length ≤ fuel) :
    Behind X room cs (JsonValue.afterMember fuel room ms (skip cs))
      (JsonValue.afterMember (fuel + d) room ms (skip (cs ++ X))) := by
  refine .next rfl (afterMember_unmarked hX.unmarked _ _ _) fun c t hends => ?_
  have hrest := (List.suffix_cons c t).trans hends
  have hlength := hends.length_le
  rw [List.length_cons] at hlength
  by_cases hclose : c = '\x7d'
  · subst hclose
    exact .within hrest
  by_cases hcomma : c = ','
  · subst hcomma
    exact (h.members room ms t (by omega)).before hrest
  have hother (f : Nat) (xs : List Char) :
      JsonValue.afterMember f room ms (c :: xs) = .error .malformedText :=
    afterMember.eq_3 f room ms _ (fun _ heq => hclose (List.cons.inj heq).1)
      fun _ heq => hcomma (List.cons.inj heq).1
  rw [hother, hother]
  exact .refused _

theorem afterName (before : List (String × JsonValue)) (k : List Char)
    (hfuel : 2 * cs.length ≤ fuel) :
    Behind X room cs (JsonValue.afterName fuel room before k (skip cs))
      (JsonValue.afterName (fuel + d) room before k (skip (cs ++ X))) := by
  refine .next rfl (afterName_unmarked hX.unmarked _ _ _ _) fun c t hends => ?_
  have hlength := hends.length_le
  rw [List.length_cons] at hlength
  by_cases hcolon : c = ':'
  · subst hcolon
    have hvalue := (h.value room t (by omega)).bind
      (f := fun p => JsonValue.afterMember fuel room (Table.put (String.ofList k) p.1 before)
        (skip p.2))
      (g := fun p => JsonValue.afterMember (fuel + d) room
        (Table.put (String.ofList k) p.1 before) (skip p.2))
      (fun j r hr =>
        (h.afterMember hX room _ (Nat.le_trans (Nat.mul_le_mul_left 2 hr.length_le)
          (by omega))).before hr)
      fun j r hr => afterMember_unmarked hr _ _ _
    exact hvalue.before ((List.suffix_cons _ t).trans hends)
  have hother (f : Nat) (xs : List Char) :
      JsonValue.afterName f room before k (c :: xs) = .error .malformedText :=
    afterName.eq_2 f room before k _ fun _ heq => hcolon (List.cons.inj heq).1
  rw [hother, hother]
  exact .refused _

theorem members_succ (before : List (String × JsonValue)) (hfuel : 2 * cs.length + 2 ≤ fuel + 1) :
    Behind X room cs (membersTail (fuel + 1) room before (skip cs))
      (membersTail (fuel + 1 + d) room before (skip (cs ++ X))) := by
  rw [show fuel + 1 + d = fuel + d + 1 by omega]
  have hquote : ∀ r, skip X ≠ '"' :: r := fun r hr => absurd (hX.unmarked _ _ hr) (by decide)
  refine .next (membersTail_other (fun r => (List.cons_ne_nil '"' r).symm) _ _ _)
    (membersTail_other hquote _ _ _) fun c t hends => ?_
  have hlength := hends.length_le
  rw [List.length_cons] at hlength
  by_cases hquote : c = '"'
  · subst hquote
    rw [membersTail_quoted, membersTail_quoted]
    refine (textTail_behind hX.ends t).bind (fun w r hr => ?_) (fun w r hr => ?_)
      fun w r v hr => ?_
    · exact ((textTail_suffix hr).trans (List.suffix_cons _ t)).trans hends
    · exact (h.afterName hX room before w (Nat.le_trans
        (Nat.mul_le_mul_left 2 hr.length_le) (by omega))).before hr
    · obtain ⟨u, rfl⟩ := hX.leaves _ _ hr
      exact afterName_unmarked (fun c' t' heq => by cases heq; rfl) _ _ _ _
  · have hother (f : Nat) (xs : List Char) :
        membersTail (f + 1) room before (c :: xs) = .error .malformedText :=
      membersTail_other (fun r heq => hquote (List.cons.inj heq).1) f room before
    rw [hother, hother]
    exact .refused _

omit h in
theorem value_nil (hd : X.length + 1 ≤ fuel + d) (hskip : skip cs = []) :
    ValueBehind X room cs (JsonValue.value (fuel + 1) room (skip cs))
      (JsonValue.value (fuel + d) room (skip (cs ++ X))) := by
  have hnil : JsonValue.value (fuel + 1) room [] = .error .malformedText :=
    value_other (fun r => (List.cons_ne_nil '"' r).symm) (fun r => (List.cons_ne_nil '[' r).symm)
      (fun r => (List.cons_ne_nil '\x7b' r).symm) fuel room
  rw [skip_append_of_nil hskip, hskip, hnil]
  rcases hX.value (fuel + d) room hd with hvalue | ⟨rfl, hvalue⟩ | ⟨j, hvalue⟩
  · rw [hvalue]
    exact .behind (.refused _)
  · rw [hvalue]
    exact .behind (.full (Nat.zero_le _))
  · rw [hvalue]
    exact .begun j hskip

omit h in
theorem skip_ne {z : Char} (hz : isMark z = true) (hne : ∀ u, skip t ≠ z :: u) (u : List Char) :
    skip (t ++ X) ≠ z :: u := by
  intro heq
  cases hskip : skip t with
  | nil =>
    rw [skip_append_of_nil hskip] at heq
    rw [hX.unmarked _ _ heq] at hz
    cases hz
  | cons c v =>
    rw [skip_append_of_cons hskip] at heq
    exact hne v (by rw [hskip, (List.cons.inj heq).1])

theorem value_list (hends : '[' :: t <:+ cs) (hfuel : 2 * t.length + 2 ≤ fuel) :
    ValueBehind X room cs (JsonValue.value (fuel + 1) room ('[' :: t))
      (JsonValue.value (fuel + d + 1) room ('[' :: (t ++ X))) := by
  refine .behind ?_
  cases room with
  | zero =>
    rw [value_full rfl, value_full rfl]
    exact .refused _
  | succ room =>
    by_cases hclose : ∃ u, skip t = ']' :: u
    · obtain ⟨u, hu⟩ := hclose
      rw [value_empty_list hu, value_empty_list (skip_append_of_cons hu X)]
      exact .within ((((List.suffix_cons _ u).trans (suffix_of_skip hu)).trans
        (List.suffix_cons _ t)).trans hends)
    · have hne : ∀ u, skip t ≠ ']' :: u := fun u hu => hclose ⟨u, hu⟩
      rw [value_items hne, value_items (skip_ne hX rfl hne)]
      exact (h.items room t hfuel).opened rfl hends JsonValue.list

theorem value_object (hends : '\x7b' :: t <:+ cs) (hfuel : 2 * t.length + 2 ≤ fuel) :
    ValueBehind X room cs (JsonValue.value (fuel + 1) room ('\x7b' :: t))
      (JsonValue.value (fuel + d + 1) room ('\x7b' :: (t ++ X))) := by
  refine .behind ?_
  cases room with
  | zero =>
    rw [value_full rfl, value_full rfl]
    exact .refused _
  | succ room =>
    by_cases hclose : ∃ u, skip t = '\x7d' :: u
    · obtain ⟨u, hu⟩ := hclose
      rw [value_empty_object hu, value_empty_object (skip_append_of_cons hu X)]
      exact .within ((((List.suffix_cons _ u).trans (suffix_of_skip hu)).trans
        (List.suffix_cons _ t)).trans hends)
    · have hne : ∀ u, skip t ≠ '\x7d' :: u := fun u hu => hclose ⟨u, hu⟩
      rw [value_members hne, value_members (skip_ne hX rfl hne)]
      exact (h.members room [] t hfuel).opened rfl hends JsonValue.object

omit h in
theorem value_quote (hends : '"' :: t <:+ cs) :
    ValueBehind X room cs (JsonValue.value (fuel + 1) room ('"' :: t))
      (JsonValue.value (fuel + d + 1) room ('"' :: (t ++ X))) := by
  rw [value_quoted, value_quoted]
  have htext := textTail_behind hX.ends t
  cases halone : textTail t with
  | some p =>
    rw [halone] at htext
    generalize textTail (t ++ X) = b at htext
    cases htext with
    | within w r =>
      exact .behind (.within (((textTail_suffix halone).trans (List.suffix_cons _ t)).trans hends))
  | none =>
    rw [halone] at htext
    generalize textTail (t ++ X) = b at htext
    cases htext with
    | stopped => exact .behind (.refused _)
    | @crossed w r v hleaves =>
      obtain ⟨u, rfl⟩ := hX.leaves _ _ hleaves
      exact .crossed _ u

omit h in
theorem value_atom {c : Char} (hends : c :: t <:+ cs) (hq : c ≠ '"') (hl : c ≠ '[')
    (ho : c ≠ '\x7b') : ValueBehind X room cs (JsonValue.value (fuel + 1) room (c :: t))
      (JsonValue.value (fuel + d + 1) room (c :: (t ++ X))) := by
  rw [JsonValue.value_atom hq hl ho, JsonValue.value_atom hq hl ho, ← List.cons_append,
    atom_append hX.ends]
  have hwithin := atom_within room (c :: t)
  generalize atom (c :: t) = x at hwithin
  cases hwithin with
  | read hr => exact .behind (.within (hr.trans hends))
  | refused => exact .behind (.refused _)

theorem value_succ (hd : X.length ≤ d) (hfuel : 2 * cs.length + 1 ≤ fuel + 1) :
    ValueBehind X room cs (JsonValue.value (fuel + 1) room (skip cs))
      (JsonValue.value (fuel + 1 + d) room (skip (cs ++ X))) := by
  cases hskip : skip cs with
  | nil =>
    have hroom : X.length + 1 ≤ fuel + (d + 1) := by omega
    have hnil := value_nil hX room hroom hskip
    rwa [hskip, show fuel + (d + 1) = fuel + 1 + d by omega] at hnil
  | cons c t =>
    have hends := suffix_of_skip hskip
    have hlength := hends.length_le
    rw [List.length_cons] at hlength
    rw [skip_append_of_cons hskip, show fuel + 1 + d = fuel + d + 1 by omega]
    by_cases hq : c = '"'
    · subst hq
      exact value_quote hX room hends
    by_cases hl : c = '['
    · subst hl
      exact h.value_list hX room hends (by omega)
    by_cases ho : c = '\x7b'
    · subst ho
      exact h.value_object hX room hends (by omega)
    exact value_atom hX room hends hq hl ho

end ReadsBehind

theorem readsBehind (hX : Intruder X) (hd : X.length ≤ d) (fuel : Nat) :
    ReadsBehind X d fuel := by
  induction fuel with
  | zero =>
    exact ⟨fun _ _ h => absurd h (by omega), fun _ _ h => absurd h (by omega),
      fun _ _ _ h => absurd h (by omega)⟩
  | succ fuel ih =>
    exact ⟨fun room cs hfuel => ih.value_succ hX room hd hfuel,
      fun room cs hfuel => ih.items_succ hX room hfuel,
      fun room before cs hfuel => ih.members_succ hX room before hfuel⟩

/-- A text that is not blank is spoiled by what goes on with nothing: it is refused
for what it would be refused for alone, or it is malformed, or so many lists and
objects were begun that there is no room. -/
theorem ofChars_behind (hX : Intruder X) (hcs : skip cs ≠ []) :
    ofChars (cs ++ X) = .error .malformedText ∨
      (ofChars (cs ++ X) = .error .tooDeep ∧ depthLimit ≤ cs.countP isOpening) ∨
      ∃ e, ofChars cs = .error e ∧ ofChars (cs ++ X) = .error e := by
  have hvalue := (readsBehind (d := 2 * X.length) hX (by omega) (2 * cs.length + 2)).value
    depthLimit cs (by omega)
  unfold ofChars
  rw [List.length_append, show 2 * (cs.length + X.length) + 2 = 2 * cs.length + 2 + 2 * X.length by
    omega]
  generalize value (2 * cs.length + 2) depthLimit (skip cs) = x at hvalue
  generalize value (2 * cs.length + 2 + 2 * X.length) depthLimit (skip (cs ++ X)) = y at hvalue
  cases hvalue with
  | behind h =>
    cases h with
    | @within j r hr =>
      have hrest : (skip (r ++ X)).isEmpty = false := by
        rw [List.isEmpty_eq_false_iff]
        cases hr : skip r with
        | nil => exact skip_append_of_nil hr X ▸ hX.visible
        | cons c t => exact skip_append_of_cons hr X ▸ List.cons_ne_nil c _
      refine .inl ?_
      show (if (skip (r ++ X)).isEmpty then _ else _) = _
      rw [hrest]
      rfl
    | refused e => exact .inr (.inr ⟨e, rfl, rfl⟩)
    | full hroom => exact .inr (.inl ⟨rfl, hroom⟩)
  | crossed j t => exact .inl rfl
  | begun j h => exact absurd h hcs

/-! ## An object behind blanks -/

theorem isEnd_of_isBlank {c : Char} (hc : Text.isBlank c = true) : isEnd c = true := by
  unfold isEnd
  simp [hc]

theorem ne_of_isBlank {c d : Char} (hc : Text.isBlank c = true) (hd : Text.isBlank d = false) :
    c ≠ d := by
  rintro rfl
  rw [hc] at hd
  cases hd

theorem isBlank_of_isSpace {c : Char} (hc : isSpace c = true) : Text.isBlank c = true := by
  unfold isSpace at hc
  simp only [Bool.or_eq_true, beq_iff_eq] at hc
  rcases hc with ((rfl | rfl) | rfl) | rfl <;> rfl

/-- A text that ends in blanks and an object ends where the first name begins. -/
theorem textTail_blanks {bs : List Char} (hbs : ∀ b ∈ bs, Text.isBlank b = true)
    (h : textTail (bs ++ '\x7b' :: '"' :: t) = some (w, r)) : r = t := by
  induction bs generalizing w with
  | nil =>
    cases h
    rfl
  | cons b bs ih =>
    obtain ⟨hb, hbs⟩ := List.forall_mem_cons.mp hbs
    rw [List.cons_append, textTail_other (ne_of_isBlank hb rfl) (ne_of_isBlank hb rfl)] at h
    split at h
    · cases h
    · obtain ⟨⟨w', r'⟩, hrest, heq⟩ := Option.map_eq_some_iff.mp h
      cases heq
      exact ih hbs hrest

/-- What is seen of blanks and an object is the object, or a blank that JSON does not
know. -/
theorem skip_blanks {bs : List Char} (hbs : ∀ b ∈ bs, Text.isBlank b = true) (ds : List Char) :
    skip (bs ++ '\x7b' :: ds) = '\x7b' :: ds ∨
      ∃ b t, Text.isBlank b = true ∧ skip (bs ++ '\x7b' :: ds) = b :: t := by
  cases hskip : skip bs with
  | nil => exact .inl (skip_append_of_nil hskip _)
  | cons b t =>
    refine .inr ⟨b, t ++ '\x7b' :: ds, ?_, skip_append_of_cons hskip _⟩
    exact hbs b ((suffix_of_skip hskip).subset List.mem_cons_self)

/-- An object whose first name begins with that letter is an intruder, and so it is
with blanks before it. -/
theorem Laid.intruder {ms : List (String × JsonValue)} {bs : List Char}
    (hbs : ∀ b ∈ bs, Text.isBlank b = true) (h : Laid ms ('"' :: 't' :: t))
    (hall : ∀ m ∈ ms, Legible m.2) (hdistinct : (ms.map (·.1)).Nodup) :
    Intruder (bs ++ '\x7b' :: '"' :: 't' :: t) := by
  have hskip := skip_blanks hbs ('"' :: 't' :: t)
  refine ⟨?_, fun w r hr => ⟨t, textTail_blanks hbs hr⟩, ?_, fun c u hu => ?_,
    fun fuel room hfuel => ?_⟩
  · cases bs with
    | nil => exact ⟨_, _, rfl, rfl⟩
    | cons b bs => exact ⟨b, _, rfl, isEnd_of_isBlank (hbs b List.mem_cons_self)⟩
  · rcases hskip with hskip | ⟨b, u, -, hskip⟩
    · rw [hskip]
      exact List.cons_ne_nil _ _
    · rw [hskip]
      exact List.cons_ne_nil _ _
  · rcases hskip with hskip | ⟨b, v, hb, hskip⟩
    · rw [hskip] at hu
      cases hu
      rfl
    · rw [hskip] at hu
      rw [← (List.cons.inj hu).1]
      have hne {d : Char} (hd : Text.isBlank d = false) : b ≠ d := ne_of_isBlank hb hd
      simp only [isMark, Bool.or_eq_false_iff, beq_eq_false_iff_ne]
      exact ⟨⟨⟨⟨hne rfl, hne rfl⟩, hne rfl⟩, hne rfl⟩, hne rfl⟩
  · obtain ⟨f, rfl⟩ : ∃ f, fuel = f + 1 := ⟨fuel - 1, by omega⟩
    rcases hskip with hskip | ⟨b, v, hb, hskip⟩
    · rw [hskip]
      cases room with
      | zero => exact .inr (.inl ⟨rfl, value_full rfl f _⟩)
      | succ room =>
        have hlength := h.length_le
        simp only [List.length_append, List.length_cons] at hfuel hlength
        have hread := h.membersTail room (f - ms.length - 1) [] hall hdistinct
        rw [show f - ms.length - 1 + ms.length + 1 = f by omega] at hread
        exact .inr (.inr ⟨_, value_object rfl hread⟩)
    · have hatom := atom_append ⟨b, v, rfl, isEnd_of_isBlank hb⟩ []
      rw [hskip, value_atom (ne_of_isBlank hb rfl) (ne_of_isBlank hb rfl) (ne_of_isBlank hb rfl)]
      exact .inl hatom

end Minimize.JsonValue
