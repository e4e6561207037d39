import Mathlib.Data.List.TakeDrop
import ServerLink.Script.Scanner
import ServerLink.Proofs.Slices

/-!
What the scanner leaves of a text. Whatever is read, what is left is the end of the text, and its
offset counts the bytes before it; a token that is one takes up text.
-/

set_option autoImplicit false

namespace ServerLink.Script

open Text

namespace Tail

/-- The tail is left of the characters from an offset on, once some of them are taken. -/
def LeftOf (cs : List Char) (o : Nat) (t : Tail) : Prop :=
  ∃ taken, cs = taken ++ t.chars ∧ t.offset = o + byteLength taken

/-- The tail is left of a text. -/
def Of (text : List Char) (t : Tail) : Prop := LeftOf text 0 t

namespace LeftOf

variable {cs : List Char} {o : Nat} {t : Tail}

theorem refl (cs : List Char) (o : Nat) : LeftOf cs o ⟨cs, o⟩ := ⟨[], rfl, rfl⟩

theorem le (h : LeftOf cs o t) : o ≤ t.offset := by
  obtain ⟨taken, -, offset⟩ := h
  omega

theorem trans {u : Tail} (first : LeftOf cs o t) (second : LeftOf t.chars t.offset u) :
    LeftOf cs o u := by
  obtain ⟨taken, rfl, offset⟩ := first
  obtain ⟨more, split, further⟩ := second
  refine ⟨taken ++ more, by rw [split, List.append_assoc], ?_⟩
  rw [further, offset, byteLength_append, Nat.add_assoc]

theorem cons {c : Char} (h : LeftOf cs (o + c.utf8Size) t) : LeftOf (c :: cs) o t := by
  obtain ⟨taken, rfl, offset⟩ := h
  exact ⟨c :: taken, rfl, by rw [offset, byteLength_cons, Nat.add_assoc]⟩

-- A character of one byte.
theorem cons_ascii {c : Char} (size : c.utf8Size = 1) (h : LeftOf cs (o + 1) t) :
    LeftOf (c :: cs) o t :=
  cons (size.symm ▸ h)

theorem append {ds : List Char} (h : LeftOf cs (o + byteLength ds) t) :
    LeftOf (ds ++ cs) o t := by
  obtain ⟨taken, rfl, offset⟩ := h
  exact ⟨ds ++ taken, by rw [List.append_assoc], by
    rw [offset, byteLength_append, Nat.add_assoc]⟩

end LeftOf

theorem Of.trans {text : List Char} {t u : Tail} (first : t.Of text)
    (second : LeftOf t.chars t.offset u) : u.Of text :=
  LeftOf.trans first second

theorem Of.cut {text : List Char} {t : Tail} (h : t.Of text) : IsBoundary text t.offset := by
  obtain ⟨taken, whole, offset⟩ := h
  exact ⟨taken, t.chars, whole, by rw [offset, Nat.zero_add]⟩

theorem Of.textFrom {text : List Char} {t : Tail} (h : t.Of text) :
    textFrom text t.offset = t.chars := by
  obtain ⟨taken, rfl, offset⟩ := h
  rw [offset, Nat.zero_add, textFrom_byteLength]

/-! ### Blanks and comments -/

-- After blanks and comments no blank is left, so that no line ends there.
theorem skipGap_eq_some {w : Within} {cs : List Char} {o : Nat} {nl newline : Bool} {t : Tail}
    (h : skipGap w cs o nl = some (t, newline)) :
    LeftOf cs o t ∧ ∀ c ∈ t.chars.head?, isLineEnd c = false := by
  fun_induction skipGap w cs o nl with
  | case1 o nl cs ih =>
    exact ⟨.cons_ascii rfl (.cons_ascii rfl (ih h).1), (ih h).2⟩
  | case2 o nl cs ih =>
    exact ⟨.cons_ascii rfl (.cons_ascii rfl (ih h).1), (ih h).2⟩
  | case3 o nl c cs _ _ ends ih => exact ⟨.cons (ih h).1, (ih h).2⟩
  | case4 o nl c cs _ _ ends blank ih => exact ⟨.cons (ih h).1, (ih h).2⟩
  | case5 o nl c cs _ _ ends blank =>
    obtain ⟨rfl, -⟩ := Prod.mk.inj (Option.some.inj h)
    exact ⟨.refl _ _, by simpa using ends⟩
  | case6 o nl =>
    obtain ⟨rfl, -⟩ := Prod.mk.inj (Option.some.inj h)
    exact ⟨.refl _ _, by simp⟩
  | case7 o nl c cs ends ih => exact ⟨.cons (ih h).1, (ih h).2⟩
  | case8 o nl c cs ends ih => exact ⟨.cons (ih h).1, (ih h).2⟩
  | case9 o nl =>
    obtain ⟨rfl, -⟩ := Prod.mk.inj (Option.some.inj h)
    exact ⟨.refl _ _, by simp⟩
  | case10 o nl cs ih =>
    exact ⟨.cons_ascii rfl (.cons_ascii rfl (ih h).1), (ih h).2⟩
  | case11 o nl c cs _ ih => exact ⟨.cons (ih h).1, (ih h).2⟩
  | case12 => simp at h

/-! ### Characters of one byte -/

theorem size_of_ascii {c : Char} (small : c.toNat < 128) : c.utf8Size = 1 := by
  have le : c.val ≤ 0x7f := by
    rw [UInt32.le_iff_toNat_le]
    exact Nat.le_of_lt_succ small
  simp [Char.utf8Size, le]

theorem size_of_isDigit {c : Char} (digit : c.isDigit = true) : c.utf8Size = 1 := by
  apply size_of_ascii
  simp [Char.isDigit, UInt32.le_iff_toNat_le] at digit
  omega

theorem size_of_isHex {c : Char} (hex : isHex c = true) : c.utf8Size = 1 := by
  apply size_of_ascii
  simp [isHex, Char.isDigit, Char.le_def, UInt32.le_iff_toNat_le] at hex
  omega

theorem byteLength_of_sizes {cs : List Char} (small : ∀ c ∈ cs, c.utf8Size = 1) :
    byteLength cs = cs.length := by
  induction cs with
  | nil => rfl
  | cons c cs ih =>
    rw [byteLength_cons, List.length_cons, small c (by simp),
      ih fun d member => small d (List.mem_cons_of_mem _ member), Nat.add_comm]

/-- So many characters, each of one byte, stand before the rest. -/
def Took (cs : List Char) (n : Nat) (rest : List Char) : Prop :=
  ∃ taken, cs = taken ++ rest ∧ taken.length = n ∧ ∀ c ∈ taken, c.utf8Size = 1

namespace Took

variable {cs mid rest : List Char} {m n : Nat}

theorem refl (cs : List Char) : Took cs 0 cs := ⟨[], rfl, rfl, by simp⟩

theorem cons {c : Char} (size : c.utf8Size = 1) (h : Took cs n rest) : Took (c :: cs) (n + 1) rest := by
  obtain ⟨taken, rfl, length, small⟩ := h
  exact ⟨c :: taken, rfl, by simp [length], by simpa using ⟨size, small⟩⟩

theorem trans (first : Took cs m mid) (second : Took mid n rest) : Took cs (m + n) rest := by
  obtain ⟨taken, rfl, rfl, small⟩ := first
  obtain ⟨more, rfl, rfl, also⟩ := second
  refine ⟨taken ++ more, by simp, by simp, ?_⟩
  intro c member
  rcases List.mem_append.1 member with early | late
  · exact small c early
  · exact also c late

theorem leftOf (h : Took cs n rest) (o : Nat) : LeftOf cs o ⟨rest, o + n⟩ := by
  obtain ⟨taken, rfl, rfl, small⟩ := h
  exact ⟨taken, rfl, by rw [byteLength_of_sizes small]⟩

end Took

/-! ### Names -/

theorem takeName_eq_some {e : NameEscape} {cs : List Char} {o : Nat} {seen : List Char}
    {esc : Bool} {n : NameRead} (h : takeName e cs o seen esc = some n) :
    LeftOf cs o n.rest := by
  fun_induction takeName e cs o seen esc
  case case1 | case4 =>
    obtain rfl := Option.some.inj h
    exact .refl _ _
  case case2 ih => exact .cons (ih h)
  case case3 ih | case5 ih | case7 ih => exact .cons_ascii rfl (ih h)
  case case8 hex ih | case12 hex _ _ ih | case14 hex _ ih =>
    exact .cons_ascii (size_of_isHex hex) (ih h)
  case case10 hex _ _ _ ih => exact .cons_ascii (size_of_isHex hex) (ih h)
  case case16 closing ih =>
    simp only [Bool.and_eq_true, decide_eq_true_eq] at closing
    exact .cons_ascii (closing.1 ▸ rfl) (ih h)
  all_goals simp at h

theorem takeName_escaped {e : NameEscape} {cs : List Char} {o : Nat} {seen : List Char}
    {n : NameRead} (h : takeName e cs o seen true = some n) : n.escaped = true := by
  generalize marked : true = esc at h
  fun_induction takeName e cs o seen esc
  case case1 | case4 =>
    obtain rfl := Option.some.inj h
    rfl
  case case3 ih => exact marked ▸ ih rfl h
  case case6 | case9 | case11 | case13 | case15 | case17 | case18 => simp at h
  all_goals
    rename_i ih
    exact ih marked h

-- A name without escapes is spelled as it reads.
theorem takeName_plain {cs : List Char} {o : Nat} {seen : List Char} {n : NameRead}
    (h : takeName .none cs o seen false = some n) (plain : n.escaped = false) :
    ∃ taken, cs = taken ++ n.rest.chars ∧ n.text.toList = seen.reverse ++ taken ∧
      n.rest.offset = o + byteLength taken := by
  induction cs generalizing o seen with
  | nil =>
    simp only [takeName, Option.some.injEq] at h
    subst h
    exact ⟨[], by simp⟩
  | cons c cs ih =>
    simp only [takeName] at h
    split at h
    · obtain ⟨taken, split, text, offset⟩ := ih h
      exact ⟨c :: taken, by simp [split], by simp [text], by
        rw [offset, byteLength_cons, Nat.add_assoc]⟩
    · split at h
      · simp [takeName_escaped h] at plain
      · simp only [Option.some.injEq] at h
        subst h
        exact ⟨[], by simp⟩

-- A name takes up text unless it is empty.
theorem lt_takeName {cs : List Char} {o : Nat} {n : NameRead}
    (h : takeName .none cs o [] false = some n) (named : n.text.isEmpty = false) :
    o < n.rest.offset := by
  cases cs with
  | nil =>
    obtain rfl := Option.some.inj h
    simp at named
  | cons c cs =>
    simp only [takeName] at h
    split at h
    · have := (takeName_eq_some h).le
      have := c.utf8Size_pos
      omega
    · split at h
      · exact (takeName_eq_some h).le
      · obtain rfl := Option.some.inj h
        simp at named

/-! ### Quoted text -/

theorem takeQuoted_eq_some {quote : Char} (size : quote.utf8Size = 1) {cs : List Char} {o : Nat}
    {seen raw : List Char} {t : Tail} (h : takeQuoted quote cs o seen = some (raw, t)) :
    LeftOf cs o t := by
  fun_induction takeQuoted quote cs o seen
  case case2 ih =>
    exact .cons_ascii rfl (.cons_ascii rfl (.cons_ascii rfl (ih h)))
  case case3 ih => exact .cons_ascii rfl (.cons (ih h))
  case case4 =>
    obtain ⟨-, rfl⟩ := Prod.mk.inj (Option.some.inj h)
    exact .cons_ascii size (.refl _ _)
  case case6 ih => exact .cons (ih h)
  all_goals simp at h

theorem takeVerbatim_eq_some {quote : Char} (size : quote.utf8Size = 1) {cs : List Char} {o : Nat}
    {t : Tail} (h : takeVerbatim quote cs o = some t) : LeftOf cs o t := by
  fun_induction takeVerbatim quote cs o
  case case2 =>
    obtain rfl := Option.some.inj h
    exact .cons_ascii size (.refl _ _)
  case case3 ih => exact .cons (ih h)
  all_goals simp at h

theorem takePiece_eq_some {cs : List Char} {o : Nat} {seen : List Char} {p : TemplatePiece}
    (h : takePiece cs o seen = some p) : LeftOf cs o p.rest := by
  fun_induction takePiece cs o seen
  case case2 =>
    obtain rfl := Option.some.inj h
    exact .cons_ascii rfl (.refl _ _)
  case case3 =>
    obtain rfl := Option.some.inj h
    exact .cons_ascii rfl (.cons_ascii rfl (.refl _ _))
  case case4 ih => exact .cons_ascii rfl (.cons (ih h))
  case case5 ih => exact .cons (ih h)
  all_goals simp at h

/-! ### Patterns -/

theorem takePattern_eq_some {inClass : Bool} {cs : List Char} {o : Nat} {t : Tail}
    (h : takePattern inClass cs o = some t) : LeftOf cs o t := by
  fun_induction takePattern inClass cs o
  case case3 ih => exact .cons_ascii rfl (.cons (ih h))
  case case5 closing =>
    obtain rfl := Option.some.inj h
    simp only [Bool.and_eq_true, decide_eq_true_eq] at closing
    exact .cons_ascii (closing.1 ▸ rfl) (.refl _ _)
  case case6 ih => exact .cons (ih h)
  all_goals simp at h

theorem takeRegex_eq_some {t rest : Tail} (h : takeRegex t = some rest) :
    LeftOf t.chars t.offset rest := by
  obtain ⟨body, pattern, more⟩ := Option.bind_eq_some_iff.1 h
  obtain ⟨flags, name, sound⟩ := Option.bind_eq_some_iff.1 more
  split at sound
  · obtain rfl := Option.some.inj sound
    exact (takePattern_eq_some pattern).trans (takeName_eq_some name)
  · simp at sound

/-! ### Numbers -/

section Numbers

variable {isDigit : Char → Bool} {cs rest : List Char} {size n : Nat}

theorem digitRun_took (small : ∀ c, isDigit c = true → c.utf8Size = 1) (cs : List Char) :
    Took cs (digitRun isDigit cs).1.length (digitRun isDigit cs).2 := by
  rw [digitRun, List.span_eq_takeWhile_dropWhile]
  refine ⟨_, (List.takeWhile_append_dropWhile).symm, rfl, ?_⟩
  intro c member
  have run := List.all_eq_true.1 List.all_takeWhile c member
  simp only [Bool.or_eq_true, beq_iff_eq] at run
  rcases run with digit | rfl
  · exact small c digit
  · rfl

theorem digits_took (small : ∀ c, isDigit c = true → c.utf8Size = 1)
    (h : digits isDigit size cs = some (n, rest)) : ∃ k, n = size + k ∧ Took cs k rest := by
  have run := digitRun_took small cs
  simp only [digits] at h
  split at h
  · obtain ⟨rfl, rfl⟩ := Prod.mk.inj (Option.some.inj h)
    exact ⟨_, rfl, run⟩
  · simp at h

theorem takeExponent_took (h : takeExponent size cs = some (n, rest)) :
    ∃ k, n = size + k ∧ Took cs k rest := by
  have decimal (c : Char) (digit : c.isDigit = true) := size_of_isDigit digit
  unfold takeExponent at h
  split at h
  iterate 4
    · obtain ⟨k, rfl, took⟩ := digits_took decimal h
      exact ⟨_, Nat.add_assoc _ _ _, .trans (.cons rfl (.cons rfl (.refl _))) took⟩
  iterate 2
    · obtain ⟨k, rfl, took⟩ := digits_took decimal h
      exact ⟨_, Nat.add_assoc _ _ _, .trans (.cons rfl (.refl _)) took⟩
  · obtain ⟨rfl, rfl⟩ := Prod.mk.inj (Option.some.inj h)
    exact ⟨0, rfl, .refl _⟩

theorem takeBased_took (small : ∀ c, isDigit c = true → c.utf8Size = 1)
    (h : takeBased isDigit cs = some (n, rest)) : ∃ k, n = 2 + k ∧ Took cs k rest := by
  unfold takeBased at h
  split at h
  · rename_i size after read
    obtain ⟨k, rfl, took⟩ := digits_took small read
    obtain ⟨rfl, rfl⟩ := Prod.mk.inj (Option.some.inj h)
    exact ⟨k + 1, rfl, .trans took (.cons rfl (.refl _))⟩
  · exact digits_took small h

-- Sound digits are there at all.
theorem soundDigits_pos {run : List Char} (sound : soundDigits true run = true) : 0 < run.length := by
  cases run with
  | nil => simp [soundDigits] at sound
  | cons c run => simp

theorem takeDecimal_took (h : takeDecimal cs = some (n, rest)) : 0 < n ∧ Took cs n rest := by
  have decimal (c : Char) (digit : c.isDigit = true) := size_of_isDigit digit
  have run := digitRun_took decimal cs
  simp only [takeDecimal] at h
  split at h
  · simp at h
  · rename_i sound
    simp only [Bool.not_eq_true', Bool.not_eq_false, Bool.and_eq_true] at sound
    have pos := soundDigits_pos sound.1
    split at h
    · rename_i after same
      rw [same] at run
      obtain ⟨rfl, rfl⟩ := Prod.mk.inj (Option.some.inj h)
      exact ⟨by omega, .trans run (.cons rfl (.refl _))⟩
    · rename_i after same
      rw [same] at run
      have fraction := digitRun_took decimal after
      split at h
      · obtain ⟨k, rfl, took⟩ := takeExponent_took h
        exact ⟨by omega, .trans (.trans (.trans run (.cons rfl (.refl _))) fraction) took⟩
      · simp at h
    · obtain ⟨k, rfl, took⟩ := takeExponent_took h
      exact ⟨by omega, .trans run took⟩

theorem takeFraction_took (h : takeFraction cs = some (n, rest)) :
    ∃ k, n = 1 + k ∧ Took cs k rest := by
  have decimal (c : Char) (digit : c.isDigit = true) := size_of_isDigit digit
  obtain ⟨⟨size, after⟩, whole, more⟩ := Option.bind_eq_some_iff.1 h
  obtain ⟨k, rfl, took⟩ := digits_took decimal whole
  obtain ⟨j, rfl, exponent⟩ := takeExponent_took more
  exact ⟨k + j, Nat.add_assoc _ _ _, took.trans exponent⟩

-- A number takes up text, all of it characters of one byte.
theorem takeNumber_took (h : takeNumber cs = some (n, rest)) : 0 < n ∧ Took cs n rest := by
  obtain ⟨read, -⟩ := Option.filter_eq_some_iff.1 h
  have octal (c : Char) (digit : (decide ('0' ≤ c) && decide (c ≤ '7')) = true) :
      c.utf8Size = 1 := by
    refine size_of_isDigit ?_
    simp [Char.isDigit, Char.le_def, UInt32.le_iff_toNat_le] at digit ⊢
    omega
  have binary (c : Char) (digit : (c == '0' || c == '1') = true) : c.utf8Size = 1 := by
    simp only [Bool.or_eq_true, beq_iff_eq] at digit
    rcases digit with rfl | rfl <;> rfl
  have marked {mark : Char} {after : List Char} {k : Nat} (size : mark.utf8Size = 1)
      (took : Took after k rest) : 0 < 2 + k ∧ Took ('0' :: mark :: after) (2 + k) rest :=
    ⟨by omega, .trans (.cons rfl (.cons size (.refl _))) took⟩
  split at read
  iterate 2
    · obtain ⟨k, rfl, took⟩ := takeBased_took (fun c => size_of_isHex) read
      exact marked rfl took
  iterate 2
    · obtain ⟨k, rfl, took⟩ := takeBased_took octal read
      exact marked rfl took
  iterate 2
    · obtain ⟨k, rfl, took⟩ := takeBased_took binary read
      exact marked rfl took
  · obtain ⟨k, rfl, took⟩ := takeFraction_took read
    exact ⟨by omega, .trans (.cons rfl (.refl _)) took⟩
  · exact takeDecimal_took read

end Numbers

/-! ### Tokens -/

theorem punctuation_sound : ∀ entry ∈ punctuation, entry.1 = entry.2.toList ∧ entry.1 ≠ [] ∧
    ∀ c ∈ entry.1, c.toNat < 128 := by
  have plain : (punctuation.all fun entry =>
      !entry.1.isEmpty && entry.1.all fun c => decide (c.toNat < 128)) = true := by decide
  intro entry member
  have here := List.all_eq_true.1 plain entry member
  obtain ⟨s, -, rfl⟩ := List.mem_map.1 member
  simp only [Bool.and_eq_true, Bool.not_eq_true', List.isEmpty_eq_false_iff, List.all_eq_true,
    decide_eq_true_eq] at here
  exact ⟨rfl, here⟩

-- Punctuation stands in the text as it reads.
theorem takePunct_eq_some {t rest : Tail} {p : String} (h : takePunct t = some (p, rest)) :
    p.toList ≠ [] ∧ t.chars = p.toList ++ rest.chars ∧
      rest.offset = t.offset + byteLength p.toList := by
  obtain ⟨⟨cs, s⟩, found, read⟩ := Option.bind_eq_some_iff.1 h
  obtain ⟨spelled, some, small⟩ := punctuation_sound _ (List.mem_of_find?_eq_some found)
  have stands : cs.isPrefixOf t.chars = true := by simpa using List.find?_some found
  obtain ⟨after, same⟩ := List.isPrefixOf_iff_prefix.1 stands
  simp only at spelled some small
  subst spelled
  simp only at read
  split at read
  · simp at read
  · split at read
    · rename_i mark
      obtain ⟨rfl, rfl⟩ := Prod.mk.inj (Option.some.inj read)
      simp only [Bool.and_eq_true, beq_iff_eq] at mark
      obtain ⟨rfl, -⟩ := mark
      refine ⟨by simp, by simp [← same], rfl⟩
    · obtain ⟨rfl, rfl⟩ := Prod.mk.inj (Option.some.inj read)
      rw [← same, List.drop_left]
      exact ⟨some, rfl, by
        rw [byteLength_of_sizes fun c member => size_of_ascii (small c member)]⟩

theorem NameRead.token_ne_invalid {n : NameRead} {first : Char} (sound : n.token first ≠ .invalid) :
    n.token first = .name n.text n.escaped ∧ n.text.isEmpty = false := by
  unfold NameRead.token at sound ⊢
  split
  · simp_all
  · simp_all

/-- The characters of a token that is spelled in one way only. -/
def spelling? : Token → Option (List Char)
  | .punct p => some p.toList
  | .name s false => some s.toList
  | _ => none

/-- How a token stands between what is left before it and behind it. -/
structure Stands (t : Tail) (token : Token) (next : Tail) : Prop where
  left : LeftOf t.chars t.offset next
  lt : token ≠ .done → token ≠ .invalid → t.offset < next.offset
  spelled : ∀ cs ∈ spelling? token,
    t.chars = cs ++ next.chars ∧ next.offset = t.offset + byteLength cs

theorem takeToken_stands {t next : Tail} {token : Token} (h : takeToken t = (token, next)) :
    t.Stands token next := by
  have failed {u : Tail} {other : Token} (h : (Token.invalid, t) = (other, u)) :
      t.Stands other u := by
    obtain ⟨rfl, rfl⟩ := Prod.mk.inj h
    exact ⟨.refl _ _, by simp, by simp [spelling?]⟩
  unfold takeToken at h
  split at h
  · obtain ⟨rfl, rfl⟩ := Prod.mk.inj h
    exact ⟨.refl _ _, by simp, by simp [spelling?]⟩
  · rename_i c cs chars
    split at h
    · split at h
      · rename_i n name
        obtain ⟨rfl, rfl⟩ := Prod.mk.inj h
        refine ⟨takeName_eq_some name, fun _ sound =>
          lt_takeName name (NameRead.token_ne_invalid sound).2, ?_⟩
        intro cs spelled
        by_cases sound : n.token c = .invalid
        · simp [sound, spelling?] at spelled
        · rw [(NameRead.token_ne_invalid sound).1] at spelled
          cases escaped : n.escaped with
          | true => simp [escaped, spelling?] at spelled
          | false =>
            obtain ⟨taken, split, text, offset⟩ := takeName_plain name escaped
            simp only [escaped, spelling?, Option.mem_def, Option.some.injEq] at spelled
            rw [← spelled, text]
            exact ⟨split, offset⟩
      · exact failed h
    · split at h
      · split at h
        · rename_i size rest number
          obtain ⟨rfl, rfl⟩ := Prod.mk.inj h
          obtain ⟨pos, took⟩ := takeNumber_took number
          exact ⟨took.leftOf _, fun _ _ => Nat.lt_add_of_pos_right pos, by simp [spelling?]⟩
        · exact failed h
      · split at h
        · rename_i quote
          have size : c.utf8Size = 1 := by
            simp only [Bool.or_eq_true, decide_eq_true_eq] at quote
            rcases quote with rfl | rfl <;> rfl
          split at h
          · rename_i raw rest text
            have left := takeQuoted_eq_some size text
            split at h
            · obtain ⟨rfl, rfl⟩ := Prod.mk.inj h
              exact ⟨chars ▸ .cons_ascii size left, fun _ _ => left.le, by simp [spelling?]⟩
            · exact failed h
          · exact failed h
        · split at h
          · rename_i hash
            split at h
            · rename_i n name
              split at h
              · exact failed h
              · obtain ⟨rfl, rfl⟩ := Prod.mk.inj h
                have left := takeName_eq_some name
                exact ⟨chars ▸ hash ▸ .cons_ascii rfl left, fun _ _ => left.le,
                  by simp [spelling?]⟩
            · exact failed h
          · split at h
            · rename_i p rest punct
              obtain ⟨rfl, rfl⟩ := Prod.mk.inj h
              obtain ⟨some, spelled, left⟩ := takePunct_eq_some punct
              have pos : byteLength p.toList ≠ 0 := fun none => some (byteLength_eq_zero.1 none)
              exact ⟨⟨p.toList, spelled, left⟩, fun _ _ => by omega,
                by simpa [spelling?] using ⟨spelled, left⟩⟩
            · exact failed h

-- A name without escapes begins with a character that may begin one.
theorem takeToken_name {t next : Tail} {s : String} (h : takeToken t = (.name s false, next)) :
    ∃ c cs, t.chars = c :: cs ∧ isNameStart c = true := by
  unfold takeToken at h
  split at h
  · simp at h
  · rename_i c cs chars
    refine ⟨c, cs, chars, ?_⟩
    split at h
    · split at h
      · rename_i n name
        have read := (Prod.mk.inj h).1
        have sound : n.token c ≠ .invalid := by simp [read]
        obtain ⟨same, named⟩ := NameRead.token_ne_invalid sound
        rw [same, Token.name.injEq] at read
        rw [chars] at name
        simp only [takeName, fitsName, List.isEmpty_nil, if_true] at name
        split at name
        · assumption
        · split at name
          · simp [takeName_escaped name] at read
          · obtain rfl := Option.some.inj name
            simp at named
      · simp at h
    · split at h
      · split at h <;> simp at h
      · split at h
        · split at h
          · split at h <;> simp at h
          · simp at h
        · split at h
          · split at h
            · split at h <;> simp at h
            · simp at h
          · split at h <;> simp at h

end Tail

end ServerLink.Script
