import ServerLink.Proofs.Parsing.Markup
import ServerLink.Proofs.Registration

/-!
Text that spells a token. A name is read as itself up to the first character that cannot go on with
it, and quoted text as what was quoted, whatever follows.
-/

set_option autoImplicit false

namespace ServerLink.Script

open Text

/-- Wherever it stands before the rest, the text is read as the token and the rest is left. -/
structure Spells (cs : List Char) (t : Token) (rest : List Char) : Prop where
  read (o : Nat) : Tail.takeToken ⟨cs ++ rest, o⟩ = (t, ⟨rest, o + byteLength cs⟩)
  begins (o : Nat) (newline : Bool) :
    Tail.skipGap .code (cs ++ rest) o newline = some (⟨cs ++ rest, o⟩, newline)

/-! ### Gaps -/

-- No gap begins with this character.
def isDense (c : Char) : Bool := !(isLineEnd c || isBlank c || c == '/')

theorem skipGap_of_isDense {c : Char} (dense : isDense c = true) (cs : List Char) (o : Nat)
    (newline : Bool) :
    Tail.skipGap .code (c :: cs) o newline = some (⟨c :: cs, o⟩, newline) := by
  simp only [isDense, Bool.not_eq_true', Bool.or_eq_false_iff, beq_eq_false_iff_ne] at dense
  obtain ⟨⟨line, blank⟩, slash⟩ := dense
  rw [Tail.skipGap.eq_3 _ _ _ _ (by rintro _ rfl; exact absurd rfl slash)
    (by rintro _ rfl; exact absurd rfl slash)]
  simp [line, blank]

/-- Ranges beyond ASCII of the characters between tokens. -/
def gapRanges : List (Nat × Nat) :=
  [(0xa0, 0xa0), (0x1680, 0x1680), (0x2000, 0x200a), (0x2028, 0x2029), (0x202f, 0x202f),
   (0x205f, 0x205f), (0x3000, 0x3000), (0xfeff, 0xfeff)]

-- No range of theirs meets one of the characters that names begin with.
theorem gapRanges_apart :
    (nameStarts.toList.all fun r => gapRanges.all fun g => r.2 < g.1 || g.2 < r.1) = true := by
  decide +kernel

theorem exists_gapRange {c : Char} (gap : isDense c = false) (beyond : 0x80 ≤ c.toNat) :
    ∃ g ∈ gapRanges, g.1 ≤ c.toNat ∧ c.toNat ≤ g.2 := by
  have ascii (d : Char) (low : d.toNat < 0x80) : c ≠ d := by
    rintro rfl
    omega
  simp only [isDense, isLineEnd, isBlank, Bool.not_eq_false', Bool.or_eq_true, beq_iff_eq,
    Bool.and_eq_true, decide_eq_true_eq, ascii '\n' (by decide), ascii '\r' (by decide),
    ascii ' ' (by decide), ascii '\t' (by decide), ascii '\x0b' (by decide),
    ascii '\x0c' (by decide), ascii '\x00' (by decide), ascii '/' (by decide), false_or,
    or_false] at gap
  simp only [gapRanges, List.mem_cons, List.not_mem_nil, or_false, exists_eq_or_imp, exists_eq_left]
  omega

-- What is so of all characters of ASCII can be seen by trying them.
theorem of_ascii {P : Char → Bool} (all : ∀ n < 0x80, P (Char.ofNat n) = true) {c : Char}
    (low : c.toNat < 0x80) : P c = true := by
  have here := all c.toNat low
  rwa [Char.ofNat_toNat] at here

theorem isDense_of_isNameStart {c : Char} (starts : isNameStart c = true) : isDense c = true := by
  by_cases low : c.toNat < 0x80
  next =>
    have ascii : (!isNameStart c || isDense c) = true :=
      of_ascii (P := fun c => !isNameStart c || isDense c) (by decide) low
    simpa [starts] using ascii
  next =>
    apply Classical.byContradiction
    intro sparse
    obtain ⟨g, gap, between⟩ := exists_gapRange (by simpa using sparse) (by omega)
    have inside : inRanges nameStarts c = true := by simpa [isNameStart, low] using starts
    obtain ⟨r, member, range⟩ := List.any_eq_true.1 (Array.any_toList.trans inside)
    have apart := List.all_eq_true.1 (List.all_eq_true.1 gapRanges_apart r member) g gap
    simp only [Bool.and_eq_true, Bool.or_eq_true, decide_eq_true_eq] at apart range
    omega

theorem isDigit_of_isNameStart {c : Char} (starts : isNameStart c = true) : c.isDigit = false := by
  by_cases low : c.toNat < 0x80
  next =>
    have ascii : (!(isNameStart c && c.isDigit)) = true :=
      of_ascii (P := fun c => !(isNameStart c && c.isDigit)) (by decide) low
    simpa [starts] using ascii
  next =>
    have high : ¬ c.toNat ≤ '9'.toNat := by
      show ¬ c.toNat ≤ 57
      omega
    have beyond : decide (c.val ≤ '9'.val) = false := decide_eq_false high
    rw [Char.isDigit, beyond, Bool.and_false]

/-! ### Names -/

/-- The text can be written as a name. -/
def isName (s : String) : Bool :=
  match s.toList with
  | c :: cs => isNameStart c && cs.all isNameContinue
  | [] => false

-- A name ends before this text.
def endsName (rest : List Char) : Bool :=
  rest.head?.all fun c => !isNameContinue c && c != '\\'

theorem takeName_of_endsName {rest : List Char} (ends : endsName rest = true) (o : Nat)
    (first : Char) (seen : List Char) :
    Tail.takeName .none rest o (first :: seen) false =
      some ⟨String.ofList (first :: seen).reverse, false, ⟨rest, o⟩⟩ := by
  cases rest with
  | nil => rfl
  | cons c cs =>
    simp only [endsName, List.head?_cons, Option.all_some, Bool.and_eq_true, Bool.not_eq_true',
      bne_iff_ne] at ends
    simp [Tail.takeName, Tail.fitsName, ends.1, ends.2]

theorem takeName_more {cs rest : List Char} (more : cs.all isNameContinue = true)
    (ends : endsName rest = true) (o : Nat) (first : Char) (seen : List Char) :
    Tail.takeName .none (cs ++ rest) o (first :: seen) false =
      some ⟨String.ofList ((first :: seen).reverse ++ cs), false, ⟨rest, o + byteLength cs⟩⟩ := by
  induction cs generalizing o first seen with
  | nil => simpa using takeName_of_endsName ends o first seen
  | cons c cs ih =>
    obtain ⟨here, later⟩ := Bool.and_eq_true_iff.1 (List.all_cons.symm.trans more)
    have fits : Tail.fitsName (first :: seen) c = true := by simpa [Tail.fitsName] using here
    rw [List.cons_append, Tail.takeName.eq_2, if_pos fits, ih later]
    simp [Nat.add_assoc]

theorem name_spells {s : String} (named : isName s = true) {rest : List Char}
    (ends : endsName rest = true) : Spells s.toList (.name s false) rest := by
  cases chars : s.toList with
  | nil => simp [isName, chars] at named
  | cons c cs =>
    obtain ⟨starts, more⟩ : isNameStart c = true ∧ cs.all isNameContinue = true := by
      simpa [isName, chars] using named
    constructor
    · intro o
      have first : Tail.fitsName [] c = true := by simpa [Tail.fitsName] using starts
      have whole : String.ofList (c :: cs) = s := by rw [← chars, String.ofList_toList]
      have some : s.isEmpty = false := by simp [← whole]
      simp only [Tail.takeToken, List.cons_append, starts, Bool.true_or, if_true,
        Tail.takeName.eq_2, first, takeName_more more ends]
      simp [Tail.NameRead.token, whole, some, Nat.add_assoc]
    · intro o newline
      exact skipGap_of_isDense (isDense_of_isNameStart starts) _ _ _

theorem word_spells {w : String} (named : isName w = true) {c : Char} (ends : endsName [c] = true)
    (rest : List Char) : Spells w.toList (.name w false) (c :: rest) :=
  name_spells named ends

/-! ### Marks -/

-- No longer mark can be read where this one stands before the rest.
def Longest (p : String) (rest : List Char) : Prop :=
  (punctuation.find? fun (q, _) => q.isPrefixOf (p.toList ++ rest)) = some (p.toList, p)

-- A character that only marks begin with.
def isMark (c : Char) : Bool :=
  isDense c && !(isNameStart c || c.isDigit || ['\\', '"', '\'', '#'].contains c)

theorem mark_spells {p : String} {rest : List Char} (longest : Longest p rest)
    (mark : p.toList.head?.any isMark = true) (plain : p ≠ "<" ∧ p ≠ "?.")
    (apart : ((p.toList ++ rest).drop 1).head?.any Char.isDigit = false) :
    Spells p.toList (.punct p) rest := by
  have width : byteLength p.toList = p.toList.length := by
    have all : ∀ q ∈ punctuation, byteLength q.1 = q.1.length := by decide
    exact all _ (List.mem_of_find?_eq_some longest)
  cases chars : p.toList with
  | nil => simp [chars] at mark
  | cons c cs =>
    simp only [chars, List.head?_cons, Option.any_some, isMark, Bool.and_eq_true, Bool.not_eq_true',
      Bool.or_eq_false_iff, List.contains_cons, List.contains_nil, beq_eq_false_iff_ne] at mark
    obtain ⟨dense, ⟨letter, digit⟩, slash, double, single, hash, -⟩ := mark
    constructor
    · intro o
      have taken : Tail.takePunct ⟨c :: (cs ++ rest), o⟩ =
          some (p, ⟨rest, o + byteLength (c :: cs)⟩) := by
        rw [← chars, width]
        simp only [Longest, chars, List.cons_append] at longest
        simp [Tail.takePunct, longest, plain, chars]
      have next : (cs ++ rest).head?.any Char.isDigit = false := by simpa [chars] using apart
      simp only [List.cons_append, Tail.takeToken, letter, slash, digit, next, double, single, hash,
        taken, Bool.and_false, Bool.or_false, Bool.false_eq_true, decide_false, if_false]
    · intro o newline
      exact skipGap_of_isDense dense _ _ _

-- A point before a name is the mark between an object and its property.
theorem point_spells {w : String} (named : isName w = true) (rest : List Char) :
    Spells ".".toList (.punct ".") (w.toList ++ rest) := by
  cases chars : w.toList with
  | nil => simp [isName, chars] at named
  | cons c cs =>
    have starts : isNameStart c = true := by
      simp only [isName, chars, Bool.and_eq_true] at named
      exact named.1
    have other : '.' ≠ c := by
      rintro rfl
      revert starts
      decide
    apply mark_spells _ (by decide) (by decide)
    · simpa using isDigit_of_isNameStart starts
    · simp [Longest, punctuation, List.find?, List.isPrefixOf, other]

/-! ### Quoted text -/

theorem hexDigit_reads :
    ∀ d < 16, Tail.isHex (hexDigit d) = true ∧ Tail.hexValue (hexDigit d) = d := by
  decide

-- A character that stands for itself between quotes.
def isLiteral (c : Char) : Bool := !(['"', '\\', '\n', '\r'].contains c)

theorem takeQuoted_isLiteral {c : Char} (literal : isLiteral c = true) (rest : List Char) (o : Nat)
    (seen : List Char) :
    Tail.takeQuoted '"' (c :: rest) o seen =
      Tail.takeQuoted '"' rest (o + c.utf8Size) (c :: seen) := by
  simp only [isLiteral, List.contains_cons, List.contains_nil, Bool.not_eq_true',
    Bool.or_eq_false_iff, beq_eq_false_iff_ne] at literal
  obtain ⟨quote, slash, feed, back, -⟩ := literal
  rw [Tail.takeQuoted.eq_4]
  · simp [quote, feed, back]
  · rintro _ rfl
    exact absurd rfl slash
  · rintro _ _ rfl
    exact absurd rfl slash

theorem hexDigit_isLiteral : ∀ d < 16, isLiteral (hexDigit d) = true := by
  decide

-- What quoted characters are read up to, and what they are decoded as, one written form at a time.
theorem takeQuoted_escape (c : Char) (rest : List Char) (o : Nat) (seen : List Char) :
    Tail.takeQuoted '"' (escape c ++ rest) o seen =
      Tail.takeQuoted '"' rest (o + byteLength (escape c)) ((escape c).reverse ++ seen) := by
  unfold escape
  repeat' split
  all_goals try rfl
  · next control =>
    have high := hexDigit_isLiteral (c.toNat / 16) (by omega)
    have low := hexDigit_isLiteral (c.toNat % 16) (by omega)
    simp only [List.cons_append, List.nil_append]
    rw [Tail.takeQuoted.eq_3 _ _ _ _ _ (by rintro _ ⟨⟩), takeQuoted_isLiteral (by decide),
      takeQuoted_isLiteral (by decide), takeQuoted_isLiteral high, takeQuoted_isLiteral low]
    simp [Nat.add_assoc, show '\\'.utf8Size = 1 from rfl]
  · next quote slash feed back _ _ _ _ =>
    apply takeQuoted_isLiteral
    simp [isLiteral, quote, slash, feed, back]

theorem decodeFrom_escape (c : Char) (rest : List Char) :
    Tail.decodeFrom .none (escape c ++ rest) = (c.toNat :: ·) <$> Tail.decodeFrom .none rest := by
  unfold escape
  repeat' split
  all_goals try (subst_vars; rfl)
  · next control =>
    obtain ⟨high, highValue⟩ := hexDigit_reads (c.toNat / 16) (by omega)
    obtain ⟨low, lowValue⟩ := hexDigit_reads (c.toNat % 16) (by omega)
    have whole : c.toNat / 16 * 16 + c.toNat % 16 = c.toNat := by omega
    have zero : Tail.isHex '0' = true ∧ Tail.hexValue '0' = 0 := by decide
    simp [Tail.decodeFrom, zero, high, highValue, low, lowValue, whole]
  · next slash _ _ _ _ _ _ => simp [Tail.decodeFrom, slash]

theorem not_surrogate (c : Char) : ¬ (0xd800 ≤ c.toNat ∧ c.toNat < 0xe000) := by
  have valid := c.valid
  simp only [UInt32.isValidChar, Nat.isValidChar] at valid
  change ¬ (0xd800 ≤ c.val.toNat ∧ c.val.toNat < 0xe000)
  omega

theorem joinUnits_cons {n : Nat} (whole : ¬ (0xd800 ≤ n ∧ n < 0xe000)) (us : List Nat) :
    Tail.joinUnits (n :: us) = Char.ofNat n :: Tail.joinUnits us := by
  cases us with
  | nil => simp [Tail.joinUnits, whole]
  | cons u us =>
    have first : ¬ (0xd800 ≤ n ∧ n < 0xdc00) := by omega
    rw [Tail.joinUnits]
    simp [first, whole]

theorem joinUnits_toNat (cs : List Char) : Tail.joinUnits (cs.map Char.toNat) = cs := by
  induction cs with
  | nil => rfl
  | cons c cs ih => rw [List.map_cons, joinUnits_cons (not_surrogate c), ih, Char.ofNat_toNat]

theorem takeQuoted_written (cs rest : List Char) (o : Nat) (seen : List Char) :
    Tail.takeQuoted '"' (cs.flatMap escape ++ '"' :: rest) o seen =
      some ((cs.flatMap escape).reverse ++ seen,
        ⟨rest, o + byteLength (cs.flatMap escape) + 1⟩) := by
  induction cs generalizing o seen with
  | nil => rfl
  | cons c cs ih =>
    rw [List.flatMap_cons, List.append_assoc, takeQuoted_escape, ih]
    simp [Nat.add_assoc]

theorem decodeText_written (cs : List Char) :
    Tail.decodeText (cs.flatMap escape) = some (String.ofList cs) := by
  have points : Tail.decodeFrom .none (cs.flatMap escape) = some (cs.map Char.toNat) := by
    induction cs with
    | nil => rfl
    | cons c cs ih => simp [decodeFrom_escape, ih]
  simp [Tail.decodeText, points, joinUnits_toNat]

theorem quoted_spells (s : String) (rest : List Char) :
    Spells (quoted s).toList (.text s) rest := by
  rw [toList_quoted]
  constructor
  · intro o
    have outside : isNameStart '"' = false ∧ Char.isDigit '"' = false := by decide
    simp [quotedChars, Tail.takeToken, outside, takeQuoted_written, decodeText_written,
      show '"'.utf8Size = 1 from rfl]
    omega
  · intro o newline
    exact skipGap_of_isDense (by decide) _ _ _

/-! ### Tokens one behind the other -/

/-- The text is written in these tokens, with no more than a space before each, and the rest. -/
inductive Written : List Char → List Token → List Char → Prop
  | nothing (rest : List Char) : Written rest [] rest
  | token {cs more rest : List Char} {t : Token} {ts : List Token} (spelled : Spells cs t more)
      (later : Written more ts rest) : Written (cs ++ more) (t :: ts) rest
  | spaced {cs more rest : List Char} {t : Token} {ts : List Token} (spelled : Spells cs t more)
      (later : Written more ts rest) : Written (' ' :: (cs ++ more)) (t :: ts) rest

namespace Cursor

/-- The cursor so many tokens further on. -/
def skip (c : Cursor) : Nat → Cursor
  | 0 => c
  | k + 1 => .at (c.skip k).next

theorem skip_skip (c : Cursor) (k l : Nat) : (c.skip k).skip l = c.skip (k + l) := by
  induction l with
  | zero => rfl
  | succ l ih => exact congrArg (fun d : Cursor => Cursor.at d.next) ih

/-- The cursor is at the first of the tokens, and the others follow on its line up to the rest. -/
def Faces (c : Cursor) : List Token → List Char → Prop
  | [], rest => ∃ o, c = .at ⟨rest, o⟩
  | t :: ts, rest =>
      c.token = t ∧ (ts = [] ∨ (c.skip 1).newline = false) ∧ (c.skip 1).Faces ts rest

variable {cs rest : List Char} {t : Token}

theorem at_spelled (spelled : Spells cs t rest) (o : Nat) :
    Cursor.at ⟨cs ++ rest, o⟩ =
      ⟨t, ⟨cs ++ rest, o⟩, ⟨rest, o + byteLength cs⟩, false, o⟩ := by
  simp [Cursor.at, spelled.begins, spelled.read]

theorem at_gap {gap : Char} (blank : gap = ' ' ∨ gap = '\n') (spelled : Spells cs t rest) (o : Nat) :
    Cursor.at ⟨gap :: (cs ++ rest), o⟩ =
      ⟨t, ⟨cs ++ rest, o + 1⟩, ⟨rest, o + 1 + byteLength cs⟩, gap == '\n', o⟩ := by
  have skipped : Tail.skipGap .code (gap :: (cs ++ rest)) o false =
      Tail.skipGap .code (cs ++ rest) (o + 1) (gap == '\n') := by
    obtain rfl | rfl := blank
    all_goals
      rw [Tail.skipGap.eq_3 _ _ _ _ (by rintro _ ⟨⟩) (by rintro _ ⟨⟩)]
      rfl
  simp [Cursor.at, skipped, spelled.begins, spelled.read]

theorem Faces.of_written {text : List Char} {ts : List Token} (written : Written text ts rest)
    (o : Nat) : (Cursor.at ⟨text, o⟩).Faces ts rest ∧
      (ts = [] ∨ (Cursor.at ⟨text, o⟩).newline = false) := by
  induction written generalizing o with
  | nothing rest => exact ⟨⟨o, rfl⟩, Or.inl rfl⟩
  | token spelled later ih =>
    rw [at_spelled spelled]
    exact ⟨⟨rfl, (ih _).2, (ih _).1⟩, Or.inr rfl⟩
  | spaced spelled later ih =>
    rw [at_gap (Or.inl rfl) spelled]
    exact ⟨⟨rfl, (ih _).2, (ih _).1⟩, Or.inr rfl⟩

theorem Faces.of_line {text : List Char} {ts : List Token} (written : Written text (t :: ts) rest)
    (starts : text.head? ≠ some ' ') (o : Nat) :
    (Cursor.at ⟨'\n' :: text, o⟩).Faces (t :: ts) rest := by
  cases written with
  | token spelled later =>
    rw [at_gap (Or.inr rfl) spelled]
    exact ⟨rfl, (of_written later _).2, (of_written later _).1⟩
  | spaced spelled later => simp at starts

variable {c : Cursor} {ts : List Token}

theorem Faces.drop (row : c.Faces ts rest) (k : Nat) (within : k ≤ ts.length) :
    (c.skip k).Faces (ts.drop k) rest := by
  induction k generalizing c ts with
  | zero => exact row
  | succ k ih =>
    cases ts with
    | nil => simp at within
    | cons t ts =>
      rw [Nat.add_comm k 1, ← skip_skip, Nat.add_comm 1 k]
      exact ih row.2.2 (by simpa using within)

theorem Faces.token (row : c.Faces ts rest) {k : Nat} {t : Token} (stands : ts[k]? = some t) :
    (c.skip k).token = t := by
  obtain ⟨inside, rfl⟩ := List.getElem?_eq_some_iff.1 stands
  have later := row.drop k (by omega)
  rw [List.drop_eq_getElem_cons inside] at later
  exact later.1

theorem Faces.newline (row : c.Faces ts rest) {k : Nat} (inside : k + 1 < ts.length) :
    (c.skip (k + 1)).newline = false := by
  have later := row.drop k (by omega)
  rw [List.drop_eq_getElem_cons (by omega)] at later
  obtain last | same := later.2.1
  · simp at last
    omega
  · simpa [skip_skip] using same

theorem Faces.ends (row : c.Faces ts rest) : ∃ o, c.skip ts.length = .at ⟨rest, o⟩ := by
  simpa [Faces] using row.drop ts.length (Nat.le_refl _)

end Cursor

end ServerLink.Script
