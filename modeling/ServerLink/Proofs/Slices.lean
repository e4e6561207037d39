import ServerLink.Text.Offset

/-!
Texts cut at byte offsets. A slice is what stands between two cuts; slices that meet at a cut add
up, and the slices of a whole text are the text.
-/

set_option autoImplicit false

namespace ServerLink.Text

/-- The text from an offset on. -/
def textFrom (text : List Char) (n : Nat) : List Char :=
  ((splitAt? text n).map Prod.snd).getD []

/-- The text up to an offset. -/
def textUpTo (text : List Char) (n : Nat) : List Char :=
  ((splitAt? text n).map Prod.fst).getD []

@[simp] theorem textFrom_byteLength (before after : List Char) :
    textFrom (before ++ after) (byteLength before) = after := by
  simp [textFrom, splitAt?_byteLength]

theorem isBoundary_zero (text : List Char) : IsBoundary text 0 :=
  ⟨[], text, rfl, rfl⟩

theorem isBoundary_byteLength (text : List Char) : IsBoundary text (byteLength text) :=
  ⟨text, [], by simp, rfl⟩

theorem IsBoundary.le_byteLength {text : List Char} {n : Nat} (cut : IsBoundary text n) :
    n ≤ byteLength text := by
  obtain ⟨before, after, rfl, rfl⟩ := cut
  simp

-- Of two beginnings of one text the shorter is a beginning of the longer.
theorem append_eq_of_byteLength_le {a b c d : List Char} (same : a ++ b = c ++ d)
    (le : byteLength a ≤ byteLength c) : ∃ mid, c = a ++ mid ∧ b = mid ++ d := by
  induction a generalizing c with
  | nil => exact ⟨c, rfl, by simpa using same⟩
  | cons x xs ih =>
    cases c with
    | nil =>
      have positive := x.utf8Size_pos
      simp only [byteLength_cons, byteLength_nil] at le
      omega
    | cons y ys =>
      simp only [List.cons_append, List.cons.injEq] at same
      obtain ⟨rfl, same⟩ := same
      obtain ⟨mid, rfl, rfl⟩ := ih same (by simpa using le)
      exact ⟨mid, rfl, rfl⟩

-- Two cuts in order leave a beginning, a middle and an end.
theorem IsBoundary.split {text : List Char} {m n : Nat} (first : IsBoundary text m)
    (second : IsBoundary text n) (le : m ≤ n) :
    ∃ before mid after, text = before ++ mid ++ after ∧
      byteLength before = m ∧ byteLength (before ++ mid) = n := by
  obtain ⟨a, b, rfl, rfl⟩ := first
  obtain ⟨c, d, same, rfl⟩ := second
  obtain ⟨mid, rfl, rfl⟩ := append_eq_of_byteLength_le same le
  exact ⟨a, mid, d, by simp, rfl, rfl⟩

theorem slice_of_append (before mid after : List Char) :
    slice (before ++ mid ++ after) (byteLength before) (byteLength (before ++ mid)) = mid := by
  have rest : splitAt? (mid ++ after) (byteLength mid) = some (mid, after) :=
    splitAt?_byteLength mid after
  simp [slice, splitAt?_byteLength, rest]

@[simp] theorem slice_self (text : List Char) (n : Nat) : slice text n n = [] := by
  unfold slice
  split <;> simp

-- The whole of a text is its slice from the beginning to its end.
@[simp] theorem slice_all (text : List Char) : slice text 0 (byteLength text) = text := by
  simpa using slice_of_append [] text []

-- Slices that meet at a cut add up.
theorem slice_append {text : List Char} {l m n : Nat} (first : IsBoundary text l)
    (second : IsBoundary text m) (third : IsBoundary text n) (lm : l ≤ m) (mn : m ≤ n) :
    slice text l m ++ slice text m n = slice text l n := by
  obtain ⟨before, mid, after, rfl, rfl, rfl⟩ := first.split second lm
  obtain ⟨x, y, same, rfl⟩ := third
  obtain ⟨more, rfl, rfl⟩ := append_eq_of_byteLength_le same mn
  have left : slice (before ++ mid ++ (more ++ y)) (byteLength before) (byteLength (before ++ mid))
      = mid := slice_of_append before mid (more ++ y)
  have right : slice (before ++ mid ++ (more ++ y)) (byteLength (before ++ mid))
      (byteLength (before ++ mid ++ more)) = more := by
    simpa using slice_of_append (before ++ mid) more y
  have both : slice (before ++ mid ++ (more ++ y)) (byteLength before)
      (byteLength (before ++ mid ++ more)) = mid ++ more := by
    simpa using slice_of_append before (mid ++ more) y
  rw [left, right, both]

-- What is cut off behind an offset can be cut again.
theorem slice_textFrom {text : List Char} {m n : Nat} (cut : IsBoundary text m) :
    slice (textFrom text m) 0 (n - m) = slice text m n := by
  obtain ⟨before, after, rfl, rfl⟩ := cut
  simp [slice, splitAt?_byteLength]

theorem textFrom_textFrom {text : List Char} {m n : Nat} (first : IsBoundary text m)
    (second : IsBoundary text n) (le : m ≤ n) :
    textFrom (textFrom text m) (n - m) = textFrom text n := by
  obtain ⟨before, mid, after, rfl, rfl, rfl⟩ := first.split second le
  have inner : textFrom (before ++ mid ++ after) (byteLength before) = mid ++ after := by
    simp
  have width : byteLength (before ++ mid) - byteLength before = byteLength mid := by simp
  rw [inner, width, textFrom_byteLength, textFrom_byteLength]

theorem slice_to_end {text : List Char} {n : Nat} (cut : IsBoundary text n) :
    slice text n (byteLength text) = textFrom text n := by
  obtain ⟨before, after, rfl, rfl⟩ := cut
  simpa using slice_of_append before after []

@[simp] theorem textFrom_zero (text : List Char) : textFrom text 0 = text := by
  simp [textFrom]

-- A later cut that does not stand before the same character stands behind it.
theorem IsBoundary.past {before after : List Char} {c : Char} {n : Nat}
    (cut : IsBoundary (before ++ c :: after) n) (later : byteLength before ≤ n)
    (differs : (textFrom (before ++ c :: after) n).head? ≠ some c) :
    byteLength (before ++ [c]) ≤ n := by
  obtain ⟨pre, post, same, rfl⟩ := cut
  obtain ⟨mid, rfl, tail⟩ := append_eq_of_byteLength_le same later
  cases mid with
  | nil =>
    simp only [List.nil_append] at tail
    subst tail
    simp at differs
  | cons d ds =>
    simp only [List.cons_append, List.cons.injEq] at tail
    obtain ⟨rfl, -⟩ := tail
    simp

end ServerLink.Text
