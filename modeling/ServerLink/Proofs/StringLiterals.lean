import Mathlib.Algebra.Group.Nat.Defs
import ServerLink.Proofs.Spelling.Tokens

/-!
String literals of scripts. The grammar says which texts between double quotes are literals, and
which UTF-16 units they stand for. Where a literal begins no other one does, and it stands for one
value only: the scanner reads each literal up to its end, and decodes it to its units.
-/

set_option autoImplicit false

namespace ServerLink.Script

open Text

/-! ### The grammar of string literals -/

/-- The UTF-16 units of a code point. -/
def unitsOf (n : Nat) : List Nat :=
  if n < 0x10000 then [n] else [0xd800 + (n - 0x10000) / 0x400, 0xdc00 + (n - 0x10000) % 0x400]

/-- The UTF-16 units of a text, which are what a script takes it for. -/
def units (cs : List Char) : List Nat := cs.flatMap fun c => unitsOf c.toNat

/-- The characters with a meaning of their own behind a backslash, and what they stand for. -/
def shortEscapes : List (Char × Nat) :=
  [('\'', 0x27), ('"', 0x22), ('\\', 0x5c), ('b', 8), ('f', 0xc), ('n', 0xa), ('r', 0xd), ('t', 9),
    ('v', 0xb)]

/-- The number that hexadecimal digits write, behind the digits of another one. -/
def hexNumber (before : Nat) (ds : List Char) : Nat :=
  ds.foldl (fun n d => n * 16 + Tail.hexValue d) before

/-- What may stand behind a backslash, and the units it stands for. -/
inductive Escaped : List Char → List Nat → Prop
  | short {c : Char} {u : Nat} (known : (c, u) ∈ shortEscapes) : Escaped [c] [u]
  /-- Any other character stands for itself. -/
  | other {c : Char} (unknown : c ∉ shortEscapes.map Prod.fst) (letter : c ≠ 'x' ∧ c ≠ 'u')
      (digit : c.isDigit = false) (line : isLineEnd c = false) : Escaped [c] (unitsOf c.toNat)
  | zero : Escaped ['0'] [0]
  | hex {ds : List Char} (two : ds.length = 2) (digits : ds.all Tail.isHex = true) :
      Escaped ('x' :: ds) [hexNumber 0 ds]
  | unicode {ds : List Char} (four : ds.length = 4) (digits : ds.all Tail.isHex = true) :
      Escaped ('u' :: ds) [hexNumber 0 ds]
  | braced {ds : List Char} (some : ds ≠ []) (digits : ds.all Tail.isHex = true)
      (fits : hexNumber 0 ds ≤ 0x10ffff) :
      Escaped ('u' :: '\x7b' :: ds ++ ['\x7d']) (unitsOf (hexNumber 0 ds))
  /-- A line that goes on in the next one stands for nothing. -/
  | lineEnd {c : Char} (line : isLineEnd c = true) : Escaped [c] []
  | twoLineEnds : Escaped ['\r', '\n'] []

/-- What may stand between double quotes, and the units it stands for. -/
inductive Inside : List Char → List Nat → Prop
  | nothing : Inside [] []
  | plain {c : Char} {cs : List Char} {us : List Nat} (literal : isLiteral c = true)
      (rest : Inside cs us) : Inside (c :: cs) (unitsOf c.toNat ++ us)
  /-- A zero is not followed by a digit. -/
  | escaped {e cs : List Char} {vs us : List Nat} (escape : Escaped e vs)
      (apart : e = ['0'] → cs.head?.any Char.isDigit = false) (rest : Inside cs us) :
      Inside ('\\' :: e ++ cs) (vs ++ us)

/-- The text is a string literal in double quotes that stands for these units. -/
def IsStringLiteral (text : List Char) (us : List Nat) : Prop :=
  ∃ cs, text = '"' :: cs ++ ['"'] ∧ Inside cs us

/-! ### Hexadecimal digits -/

section Digits

variable {c : Char} {ds : List Char}

theorem isLiteral_of_isHex (digit : Tail.isHex c = true) : isLiteral c = true := by
  have other {d : Char} (apart : Tail.isHex d = false) : c ≠ d := by
    rintro rfl
    simp [digit] at apart
  simp [isLiteral, other (d := '"') rfl, other (d := '\\') rfl, other (d := '\n') rfl,
    other (d := '\r') rfl]

theorem hexValue_lt (digit : Tail.isHex c = true) : Tail.hexValue c < 16 := by
  by_cases low : c.toNat < 0x80
  next =>
    have ascii : (!Tail.isHex c || decide (Tail.hexValue c < 16)) = true :=
      of_ascii (P := fun c => !Tail.isHex c || decide (Tail.hexValue c < 16)) (by decide) low
    simpa [digit] using ascii
  next =>
    have high : ∀ d : Char, d.toNat < 0x80 → ¬ c ≤ d := fun d small below =>
      low (Nat.lt_of_le_of_lt below small)
    simp [Tail.isHex, Char.isDigit, high 'f' (by decide), high 'F' (by decide)] at digit
    exact absurd digit.2 (high '9' (by decide))

theorem hexNumber_lt (digits : ds.all Tail.isHex = true) (before : Nat) :
    hexNumber before ds < (before + 1) * 16 ^ ds.length := by
  induction ds generalizing before with
  | nil => simp [hexNumber]
  | cons d ds ih =>
    obtain ⟨here, later⟩ := Bool.and_eq_true_iff.1 (List.all_cons.symm.trans digits)
    have value := hexValue_lt here
    have step := ih later (before * 16 + Tail.hexValue d)
    have room : (before * 16 + Tail.hexValue d + 1) * 16 ^ ds.length ≤
        ((before + 1) * 16) * 16 ^ ds.length := Nat.mul_le_mul_right _ (by omega)
    rw [List.length_cons, Nat.pow_succ, Nat.mul_comm (16 ^ ds.length), ← Nat.mul_assoc]
    exact Nat.lt_of_lt_of_le step room

theorem le_hexNumber (before : Nat) : before ≤ hexNumber before ds := by
  induction ds generalizing before with
  | nil => exact Nat.le_refl _
  | cons d ds ih => exact Nat.le_trans (by omega) (ih (before * 16 + Tail.hexValue d))

theorem unitsOf_hexNumber (digits : ds.all Tail.isHex = true) (few : ds.length ≤ 4) :
    unitsOf (hexNumber 0 ds) = [hexNumber 0 ds] := by
  have bound := hexNumber_lt digits 0
  have power : 16 ^ ds.length ≤ 16 ^ 4 := Nat.pow_le_pow_right (by decide) few
  rw [unitsOf, if_pos (by omega)]

end Digits

/-! ### What the scanner reads -/

theorem ne_of_isLiteral {c d : Char} (literal : isLiteral c = true) (other : isLiteral d = false) :
    c ≠ d := by
  rintro rfl
  simp [literal] at other

-- Behind its first character an escape holds nothing that ends a literal.
theorem Escaped.shape {e : List Char} {vs : List Nat} (escape : Escaped e vs) :
    e = ['\r', '\n'] ∨ ∃ c ls, e = c :: ls ∧ ls.all isLiteral = true := by
  have literals {ds : List Char} (digits : ds.all Tail.isHex = true) : ds.all isLiteral = true :=
    List.all_eq_true.2 fun c member => isLiteral_of_isHex (List.all_eq_true.1 digits c member)
  cases escape with
  | twoLineEnds => exact Or.inl rfl
  | hex _ digits => exact Or.inr ⟨_, _, rfl, literals digits⟩
  | unicode _ digits => exact Or.inr ⟨_, _, rfl, literals digits⟩
  | braced _ digits _ =>
    refine Or.inr ⟨_, _, rfl, ?_⟩
    show ('\x7b' :: (_ ++ ['\x7d'])).all isLiteral = true
    rw [List.all_cons, List.all_append, literals digits]
    decide
  | _ => exact Or.inr ⟨_, [], rfl, rfl⟩

theorem takeQuoted_literals {ls : List Char} (literals : ls.all isLiteral = true)
    (rest : List Char) (o : Nat) (seen : List Char) :
    Tail.takeQuoted '"' (ls ++ rest) o seen =
      Tail.takeQuoted '"' rest (o + byteLength ls) (ls.reverse ++ seen) := by
  induction ls generalizing o seen with
  | nil => simp
  | cons c ls ih =>
    obtain ⟨here, later⟩ := Bool.and_eq_true_iff.1 (List.all_cons.symm.trans literals)
    rw [List.cons_append, takeQuoted_isLiteral here, ih later]
    simp [Nat.add_assoc]

theorem Escaped.takeQuoted {e more : List Char} {vs : List Nat} (escape : Escaped e vs)
    (next : more.head? ≠ some '\n') (o : Nat) (seen : List Char) :
    Tail.takeQuoted '"' ('\\' :: e ++ more) o seen =
      Tail.takeQuoted '"' more (o + byteLength ('\\' :: e)) (('\\' :: e).reverse ++ seen) := by
  have widths : '\\'.utf8Size = 1 ∧ '\r'.utf8Size = 1 ∧ '\n'.utf8Size = 1 := by decide
  obtain rfl | ⟨c, ls, rfl, literals⟩ := escape.shape
  · simp [Tail.takeQuoted, widths]
  · have single : ∀ cs, c = '\r' → ls ++ more = '\n' :: cs → False := by
      intro cs _ split
      cases ls with
      | nil => simp [show more = '\n' :: cs from split] at next
      | cons l ls =>
        have here := (Bool.and_eq_true_iff.1 (List.all_cons.symm.trans literals)).1
        exact ne_of_isLiteral here rfl (List.cons.inj split).1
    rw [List.cons_append, List.cons_append, Tail.takeQuoted.eq_3 _ _ _ _ _ single,
      takeQuoted_literals literals]
    simp [widths, Nat.add_assoc]

namespace Inside

variable {cs : List Char} {us : List Nat}

-- No line feed stands where an escape or a character may begin.
theorem head_ne_lineFeed (inside : Inside cs us) : cs.head? ≠ some '\n' := by
  cases inside with
  | nothing => simp
  | plain literal _ => simpa using ne_of_isLiteral literal (d := '\n') rfl
  | escaped => simp

theorem takeQuoted (inside : Inside cs us) (rest : List Char) (o : Nat) (seen : List Char) :
    Tail.takeQuoted '"' (cs ++ '"' :: rest) o seen =
      some (cs.reverse ++ seen, ⟨rest, o + byteLength cs + 1⟩) := by
  induction inside generalizing o seen with
  | nothing => rfl
  | plain literal _ ih =>
    rw [List.cons_append, takeQuoted_isLiteral literal, ih]
    simp [Nat.add_assoc]
  | @escaped e cs vs us escape _ inside ih =>
    have next : (cs ++ '"' :: rest).head? ≠ some '\n' := by
      cases cs with
      | nil => simp
      | cons c cs => simpa using inside.head_ne_lineFeed
    rw [List.append_assoc, escape.takeQuoted next, ih]
    simp [Nat.add_assoc]

end Inside

/-! ### What the scanner takes them for -/

section Decoding

variable {ds : List Char}

theorem decodeFrom_digits (digits : ds.all Tail.isHex = true) (some : ds ≠ []) (before : Nat)
    (more : List Char) :
    Tail.decodeFrom (.digits ds.length before) (ds ++ more) =
      (hexNumber before ds :: ·) <$> Tail.decodeFrom .none more := by
  induction ds generalizing before with
  | nil => exact absurd rfl some
  | cons d ds ih =>
    obtain ⟨here, later⟩ := Bool.and_eq_true_iff.1 (List.all_cons.symm.trans digits)
    cases ds with
    | nil => simp [Tail.decodeFrom, here, hexNumber]
    | cons e es =>
      have rest := ih later (by simp) (before * 16 + Tail.hexValue d)
      rw [List.cons_append, Tail.decodeFrom, if_pos here]
      simpa [hexNumber] using rest

theorem decodeFrom_braced (digits : ds.all Tail.isHex = true) (before : Nat) {any : Bool}
    (some : any = true ∨ ds ≠ []) (fits : hexNumber before ds ≤ 0x10ffff) (more : List Char) :
    Tail.decodeFrom (.braced before any) (ds ++ '\x7d' :: more) =
      (hexNumber before ds :: ·) <$> Tail.decodeFrom .none more := by
  induction ds generalizing before any with
  | nil =>
    obtain rfl : any = true := by simpa using some
    rw [List.nil_append, Tail.decodeFrom, if_neg (by decide), if_pos (by decide)]
    rfl
  | cons d ds ih =>
    obtain ⟨here, later⟩ := Bool.and_eq_true_iff.1 (List.all_cons.symm.trans digits)
    have room : before * 16 + Tail.hexValue d ≤ 0x10ffff :=
      Nat.le_trans (le_hexNumber _) fits
    rw [List.cons_append, Tail.decodeFrom, if_pos here, if_pos room]
    exact ih later _ (Or.inl rfl) fits

theorem decodeFrom_zero {more : List Char} (apart : more.head?.any Char.isDigit = false) :
    Tail.decodeFrom .zero more = (0 :: ·) <$> Tail.decodeFrom .none more := by
  cases more with
  | nil => rfl
  | cons c cs =>
    have digit : c.isDigit = false := by simpa using apart
    by_cases slash : c = '\\'
    · simp [Tail.decodeFrom, slash]
    · simp [Tail.decodeFrom, digit, slash, Function.comp_def]

theorem eq_of_isLineEnd {c : Char} (line : isLineEnd c = true) :
    c = '\n' ∨ c = '\r' ∨ c = '\u2028' ∨ c = '\u2029' := by
  have point {n : Nat} (same : c.toNat = n) : c = Char.ofNat n := by rw [← same, Char.ofNat_toNat]
  simp only [isLineEnd, Bool.or_eq_true, beq_iff_eq] at line
  obtain ((feed | back) | separator) | paragraph := line
  · exact Or.inl feed
  · exact Or.inr (Or.inl back)
  · exact Or.inr (Or.inr (Or.inl (point separator)))
  · exact Or.inr (Or.inr (Or.inr (point paragraph)))

theorem decodeFrom_lineEnd {more : List Char} (next : more.head? ≠ some '\n') :
    Tail.decodeFrom .lineEnd more = Tail.decodeFrom .none more := by
  cases more with
  | nil => rfl
  | cons c cs =>
    have other : c ≠ '\n' := by simpa using next
    simp [Tail.decodeFrom, other]

end Decoding

theorem Escaped.decodeFrom {e : List Char} {vs : List Nat} (escape : Escaped e vs)
    {more : List Char} (apart : e = ['0'] → more.head?.any Char.isDigit = false)
    (next : more.head? ≠ some '\n') :
    ∃ points : List Nat, points.flatMap unitsOf = vs ∧
      Tail.decodeFrom .opened (e ++ more) = (points ++ ·) <$> Tail.decodeFrom .none more := by
  cases escape with
  | @short c u known =>
    have plain : ∀ p ∈ shortEscapes, p.1 ≠ 'x' ∧ p.1 ≠ 'u' ∧ p.1 ≠ '0' ∧ p.1 ≠ '\r' ∧
        p.1.isDigit = false ∧ isLineEnd p.1 = false ∧ Tail.simpleEscape p.1 = p.2 ∧
        unitsOf p.2 = [p.2] := by
      decide
    obtain ⟨x, u', zero, back, digit, line, value, unit⟩ := plain _ known
    exact ⟨[u], by simpa using unit,
      by simp [Tail.decodeFrom, x, u', zero, back, digit, line, value]⟩
  | @other c unknown letter digit line =>
    have itself : Tail.simpleEscape c = c.toNat := by
      simp [shortEscapes] at unknown
      simp [Tail.simpleEscape, unknown]
    have apart : c ≠ '0' ∧ c ≠ '\r' := by
      constructor <;> rintro rfl <;> simp_all [isLineEnd]
    exact ⟨[c.toNat], by simp, by simp [Tail.decodeFrom, letter, digit, line, itself, apart]⟩
  | zero => exact ⟨[0], rfl, by simp [Tail.decodeFrom, decodeFrom_zero (apart rfl)]⟩
  | @hex ds two digits =>
    have some : ds ≠ [] := by
      rintro rfl
      simp at two
    have read := decodeFrom_digits digits some 0 more
    rw [two] at read
    refine ⟨[hexNumber 0 ds], ?_, ?_⟩
    · simpa using unitsOf_hexNumber digits (by omega)
    · simpa [Tail.decodeFrom] using read
  | @unicode ds four digits =>
    cases ds with
    | nil => simp at four
    | cons d ds =>
      obtain ⟨here, later⟩ := Bool.and_eq_true_iff.1 (List.all_cons.symm.trans digits)
      have brace : d ≠ '\x7b' := by
        rintro rfl
        simp [Tail.isHex] at here
      have some : ds ≠ [] := by
        rintro rfl
        simp at four
      have read := decodeFrom_digits later some (Tail.hexValue d) more
      rw [show ds.length = 3 by simpa using four] at read
      refine ⟨[hexNumber 0 (d :: ds)], ?_, ?_⟩
      · simpa using unitsOf_hexNumber digits (by omega)
      · simpa [Tail.decodeFrom, brace, here, hexNumber] using read
  | @braced ds some digits fits =>
    have read : Tail.decodeFrom (.braced 0 false) (ds ++ '\x7d' :: more) = _ :=
      decodeFrom_braced digits 0 (Or.inr some) fits more
    exact ⟨[hexNumber 0 ds], by simp, by simpa [Tail.decodeFrom] using read⟩
  | @lineEnd c line =>
    refine ⟨[], rfl, ?_⟩
    by_cases back : c = '\r'
    · simp [Tail.decodeFrom, back, decodeFrom_lineEnd next]
    · have plain : c ≠ 'x' ∧ c ≠ 'u' ∧ c ≠ '0' ∧ c.isDigit = false := by
        rcases eq_of_isLineEnd line with rfl | rfl | rfl | rfl
        all_goals decide
      simp [Tail.decodeFrom, back, line, plain]
  | twoLineEnds => exact ⟨[], rfl, by simp [Tail.decodeFrom]⟩

theorem Inside.decodeFrom {cs : List Char} {us : List Nat} (inside : Inside cs us) :
    ∃ points : List Nat, points.flatMap unitsOf = us ∧
      Tail.decodeFrom .none cs = some points := by
  induction inside with
  | nothing => exact ⟨[], rfl, rfl⟩
  | @plain c cs us literal _ ih =>
    obtain ⟨points, values, decoded⟩ := ih
    have slash : c ≠ '\\' := ne_of_isLiteral literal rfl
    exact ⟨c.toNat :: points, by simp [values], by simp [Tail.decodeFrom, slash, decoded]⟩
  | @escaped e cs vs us escape apart inside ih =>
    obtain ⟨points, values, decoded⟩ := ih
    obtain ⟨here, meant, read⟩ := escape.decodeFrom apart inside.head_ne_lineFeed
    refine ⟨here ++ points, by simp [meant, values], ?_⟩
    simpa [Tail.decodeFrom, decoded] using read

/-- Where a literal begins no other one does, and it stands for one value only. -/
theorem IsStringLiteral.unique {text text' xs ys : List Char} {us us' : List Nat}
    (left : IsStringLiteral text us) (right : IsStringLiteral text' us')
    (same : text ++ xs = text' ++ ys) : text = text' ∧ us = us' ∧ xs = ys := by
  obtain ⟨cs, rfl, inside⟩ := left
  obtain ⟨ds, rfl, inside'⟩ := right
  have behind : cs ++ '"' :: xs = ds ++ '"' :: ys := by simpa using same
  have read := inside.takeQuoted xs 0 []
  rw [behind, inside'.takeQuoted ys 0 []] at read
  obtain ⟨reversed, rest⟩ := Prod.mk.inj (Option.some.inj read)
  obtain rfl : ds = cs := by simpa using reversed
  obtain ⟨points, rfl, decoded⟩ := inside.decodeFrom
  obtain ⟨points', rfl, decoded'⟩ := inside'.decodeFrom
  obtain rfl : points = points' := Option.some.inj (decoded.symm.trans decoded')
  exact ⟨rfl, rfl, (Tail.mk.inj rest).1.symm⟩

/-! ### Units -/

theorem joinUnits_units (cs : List Char) : Tail.joinUnits (units cs) = cs := by
  induction cs with
  | nil => rfl
  | cons c cs ih =>
    have whole := not_surrogate c
    rw [units, List.flatMap_cons, ← units, unitsOf]
    split
    next small => rw [List.singleton_append, joinUnits_cons whole, ih, Char.ofNat_toNat]
    next large =>
      have bound : c.toNat < 0x110000 := by
        have valid := c.valid
        simp only [UInt32.isValidChar, Nat.isValidChar] at valid
        change c.val.toNat < 0x110000
        omega
      have pair : 0x10000 + (0xd800 + (c.toNat - 0x10000) / 0x400 - 0xd800) * 0x400 +
          (0xdc00 + (c.toNat - 0x10000) % 0x400 - 0xdc00) = c.toNat := by
        omega
      rw [List.cons_append, List.singleton_append, Tail.joinUnits, if_pos, pair, ih,
        Char.ofNat_toNat]
      simp only [Bool.and_eq_true, decide_eq_true_eq]
      omega

theorem units_inj {cs ds : List Char} : units cs = units ds ↔ cs = ds := by
  constructor
  · intro same
    rw [← joinUnits_units cs, same, joinUnits_units]
  · rintro rfl
    rfl

end ServerLink.Script
