import ServerLink.Text.Offset
import ServerLink.Text.Position

/-!
Texts whose lines end in a carriage return and a line feed. Every offset of a text has its place in
the longer one, in the same order and on the same line.
-/

set_option autoImplicit false

namespace ServerLink.Text

/-- The text with a carriage return before each line feed. -/
def crlf : List Char → List Char
  | [] => []
  | c :: cs => if c = '\n' then '\r' :: '\n' :: crlf cs else c :: crlf cs

/-- Where an offset of the text is once it has the carriage returns. -/
def crlfOffset : List Char → Nat → Nat
  | [], n => n
  | c :: cs, n =>
      if n < c.utf8Size then n else byteLength (crlf [c]) + crlfOffset cs (n - c.utf8Size)

@[simp] theorem crlf_nil : crlf [] = [] := rfl

@[simp] theorem crlf_lineFeed (cs : List Char) : crlf ('\n' :: cs) = '\r' :: '\n' :: crlf cs := rfl

theorem crlf_cons {c : Char} (other : c ≠ '\n') (cs : List Char) : crlf (c :: cs) = c :: crlf cs :=
  if_neg other

@[simp] theorem crlf_append (xs ys : List Char) : crlf (xs ++ ys) = crlf xs ++ crlf ys := by
  induction xs with
  | nil => rfl
  | cons c cs ih => by_cases line : c = '\n' <;> simp [crlf, line, ih]

-- Nothing is added to a text of one line.
theorem crlf_eq_self {cs : List Char} (line : '\n' ∉ cs) : crlf cs = cs := by
  induction cs with
  | nil => rfl
  | cons c cs ih =>
    simp only [List.mem_cons, not_or] at line
    rw [crlf_cons (Ne.symm line.1), ih line.2]

theorem crlf_eq_nil {cs : List Char} : crlf cs = [] ↔ cs = [] := by
  cases cs with
  | nil => simp
  | cons c cs => by_cases line : c = '\n' <;> simp [crlf, line]

-- Beside carriage returns the longer text goes on as the text does.
theorem crlf_eq_cons {c : Char} (other : c ≠ '\r') {cs ds : List Char} (split : crlf cs = c :: ds) :
    ∃ es, cs = c :: es ∧ ds = crlf es := by
  cases cs with
  | nil => simp at split
  | cons b es =>
    by_cases line : b = '\n'
    · subst line
      exact absurd (List.cons.inj split).1.symm other
    · rw [crlf_cons line] at split
      obtain ⟨rfl, rfl⟩ := List.cons.inj split
      exact ⟨es, rfl, rfl⟩

-- What the text with carriage returns begins with, the text begins with.
theorem crlf_eq_append {p cs ds : List Char} (line : '\n' ∉ p ∧ '\r' ∉ p)
    (split : crlf cs = p ++ ds) : ∃ es, cs = p ++ es ∧ ds = crlf es := by
  induction p generalizing cs with
  | nil => exact ⟨cs, rfl, split.symm⟩
  | cons c p ih =>
    simp only [List.mem_cons, not_or] at line
    obtain ⟨rest, rfl, more⟩ := crlf_eq_cons (Ne.symm line.2.1) split
    obtain ⟨es, rfl, rfl⟩ := ih ⟨line.1.2, line.2.2⟩ more.symm
    exact ⟨es, rfl, rfl⟩

-- What the text does not begin with, the text with carriage returns does not begin with.
theorem crlf_begins {cs : List Char} (p : List Char) (line : '\n' ∉ p ∧ '\r' ∉ p)
    (no : ∀ es, cs = p ++ es → False) (ds : List Char) (split : crlf cs = p ++ ds) : False := by
  obtain ⟨es, same, -⟩ := crlf_eq_append line split
  exact no es same

theorem countP_crlf (cs : List Char) :
    (crlf cs).countP (· != '\r') = cs.countP (· != '\r') := by
  induction cs with
  | nil => rfl
  | cons c cs ih => by_cases line : c = '\n' <;> simp [crlf, line, List.countP_cons, ih]

theorem withoutMark_crlf (cs : List Char) : withoutMark (crlf cs) = crlf (withoutMark cs) := by
  cases cs with
  | nil => rfl
  | cons c cs =>
    by_cases line : c = '\n'
    next =>
      subst line
      rfl
    next =>
      rw [crlf_cons line]
      by_cases mark : c = byteOrderMark <;> simp [withoutMark, mark, crlf, line]

theorem not_mem_withoutMark {c : Char} {cs : List Char} (plain : c ∉ cs) : c ∉ withoutMark cs := by
  unfold withoutMark
  split
  · split
    · exact fun among => plain (List.mem_cons_of_mem _ among)
    · exact plain
  · exact plain

/-! ### Offsets -/

theorem size_le_crlf (c : Char) : c.utf8Size ≤ byteLength (crlf [c]) := by
  by_cases line : c = '\n'
  next =>
    subst line
    decide
  next => simp [crlf, line]

@[simp] theorem crlfOffset_zero (cs : List Char) : crlfOffset cs 0 = 0 := by
  cases cs with
  | nil => rfl
  | cons c cs => exact if_pos c.utf8Size_pos

theorem crlfOffset_append (before rest : List Char) (n : Nat) :
    crlfOffset (before ++ rest) (byteLength before + n) =
      byteLength (crlf before) + crlfOffset rest n := by
  induction before with
  | nil => simp
  | cons c cs ih =>
    have behind : c.utf8Size + byteLength cs + n - c.utf8Size = byteLength cs + n := by omega
    have parts : crlf (c :: cs) = crlf [c] ++ crlf cs := crlf_append [c] cs
    rw [List.cons_append, byteLength_cons, crlfOffset, if_neg (by omega), behind, ih, parts,
      byteLength_append, Nat.add_assoc]

-- The end of a beginning of the text.
theorem crlfOffset_byteLength (before rest : List Char) :
    crlfOffset (before ++ rest) (byteLength before) = byteLength (crlf before) := by
  simpa using crlfOffset_append before rest 0

theorem crlfOffset_lt {cs : List Char} {m n : Nat} (lt : m < n) :
    crlfOffset cs m < crlfOffset cs n := by
  induction cs generalizing m n with
  | nil => exact lt
  | cons c cs ih =>
    have size := size_le_crlf c
    simp only [crlfOffset]
    split
    · split <;> omega
    · rw [if_neg (by omega)]
      have rest := @ih (m - c.utf8Size) (n - c.utf8Size) (by omega)
      omega

theorem crlfOffset_inj {cs : List Char} {m n : Nat} :
    crlfOffset cs m = crlfOffset cs n ↔ m = n := by
  constructor
  · intro same
    rcases Nat.lt_trichotomy m n with lt | eq | gt
    · exact absurd same (Nat.ne_of_lt (crlfOffset_lt lt))
    · exact eq
    · exact absurd same.symm (Nat.ne_of_lt (crlfOffset_lt gt))
  · rintro rfl
    rfl

/-! ### Lines -/

theorem positionFrom_past {c : Char} {cs : List Char} {p : Position} {n : Nat}
    (past : c.utf8Size ≤ n) :
    positionFrom p (c :: cs) n = positionFrom
      (if (c = '\n' || (c = '\r' && cs.head? != some '\n')) && !cs.isEmpty then ⟨p.line + 1, 0⟩
        else ⟨p.line, p.column + units16 c⟩) cs (n - c.utf8Size) := by
  have size := c.utf8Size_pos
  obtain ⟨n, rfl⟩ := Nat.exists_eq_add_one.2 (show 0 < n by omega)
  rw [positionFrom, if_neg (by omega)]

-- A carriage return before a line feed ends no line by itself.
theorem line_crlf {cs : List Char} (plain : '\r' ∉ cs) {p q : Position} (same : p.line = q.line)
    (n : Nat) : (positionFrom p (crlf cs) (crlfOffset cs n)).line = (positionFrom q cs n).line := by
  induction cs generalizing p q n with
  | nil => cases n <;> simp [positionFrom, crlfOffset, same]
  | cons c cs ih =>
    simp only [List.mem_cons, not_or] at plain
    by_cases inside : n < c.utf8Size
    next =>
      have other : c ≠ '\n' ∨ n = 0 := by
        by_cases line : c = '\n'
        · subst line
          exact .inr (Nat.lt_one_iff.1 inside)
        · exact .inl line
      rcases other with line | rfl
      · rw [crlf_cons line, crlfOffset, if_pos inside]
        cases n with
        | zero => simp [positionFrom, same]
        | succ n => simp [positionFrom, inside, same]
      · simp [positionFrom, same]
    next =>
      have past : c.utf8Size ≤ n := Nat.le_of_not_lt inside
      rw [crlfOffset, if_neg inside, positionFrom_past past]
      by_cases line : c = '\n'
      next =>
        subst line
        have two : byteLength (crlf ['\n']) = 2 := by decide
        have sizes : '\r'.utf8Size = 1 ∧ '\n'.utf8Size = 1 := by decide
        have empty : (crlf cs).isEmpty = cs.isEmpty := by
          rw [Bool.eq_iff_iff, List.isEmpty_iff, List.isEmpty_iff, crlf_eq_nil]
        have rest : 2 + crlfOffset cs (n - 1) - 1 - 1 = crlfOffset cs (n - 1) := by omega
        rw [crlf_lineFeed, two, sizes.2, positionFrom_past (by omega), positionFrom_past (by omega),
          sizes.1, sizes.2, rest, empty]
        apply ih plain.2
        by_cases last : cs.isEmpty = true <;> simp [last, same]
      next =>
        have alone : byteLength (crlf [c]) = c.utf8Size := by simp [crlf, line]
        rw [crlf_cons line, alone, positionFrom_past (Nat.le_add_right _ _),
          Nat.add_sub_cancel_left]
        apply ih plain.2
        simp [line, Ne.symm plain.1, same]

theorem lineAt_crlf {cs : List Char} (plain : '\r' ∉ cs) (n : Nat) :
    lineAt (crlf cs) (crlfOffset cs n) = lineAt cs n := by
  rw [lineAt, lineAt, positionAt, positionAt, line_crlf plain rfl]

end ServerLink.Text
