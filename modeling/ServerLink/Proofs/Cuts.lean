import ServerLink.Proofs.Mappings
import ServerLink.Proofs.Replaced

/-!
Texts and their edits cut in two. What the edits in front of a cut make stands before what those
behind it make, so that a place in the edited text is one in the text of the source.
-/

set_option autoImplicit false

namespace ServerLink

open Text

/-- A text and its edits cut at an offset: the edits in front make `before` of the text up to there,
those behind make `after` of the text from there on. -/
structure Cut (lo : Nat) (text : List Char) (row : List Edit) where
  left : List Char
  right : List Char
  front : List Edit
  back : List Edit
  before : List Char
  after : List Char
  text_eq : left ++ right = text
  row_eq : front ++ back = row
  made_before : Replaced lo left front before
  made_after : Replaced (lo + byteLength left) right back after

namespace Cut

variable {lo : Nat} {text : List Char} {row : List Edit}

def offset (c : Cut lo text row) : Nat := lo + byteLength c.left

/-- What comes of the text from the cut on begins here, if the text begins at `p`. -/
def place (c : Cut lo text row) (p : Position) : Position := p.advance c.before

/-- The character behind the cut is kept. -/
def Keeps (c : Cut lo text row) : Prop := c.right ≠ [] ∧ ∀ e ∈ c.back, c.offset < e.start

/-- A line or a stretch that is kept begins behind the cut. -/
def Begins (c : Cut lo text row) : Prop :=
  StartsLine c.left ∨ ∃ e ∈ c.front, e.stop = c.offset

/-- Text is put in behind the cut. -/
def Puts (c : Cut lo text row) (e : Edit) : Prop :=
  c.back.head? = some e ∧ e.start = c.offset ∧ e.content.toList ≠ []

theorem made (c : Cut lo text row) : Replaced lo text row (c.before ++ c.after) := by
  have whole := c.made_before.append c.made_after
  rwa [c.text_eq, c.row_eq] at whole

/-- A cut of a text without edits. -/
def unedited (lo : Nat) (left right : List Char) (split : left ++ right = text) :
    Cut lo text [] where
  left := left
  right := right
  front := []
  back := []
  before := left
  after := right
  text_eq := split
  row_eq := rfl
  made_before := .rest lo left
  made_after := .rest _ right

section Edit

variable {keep gone rest made : List Char} {e : Edit} {es : List Edit}

/-- A cut of what is kept in front of an edit. -/
def within (start : e.start = lo + byteLength keep) (stop : e.stop = e.start + byteLength gone)
    (more : Replaced e.stop rest es made) (left right : List Char) (split : left ++ right = keep) :
    Cut lo (keep ++ gone ++ rest) (e :: es) where
  left := left
  right := right ++ gone ++ rest
  front := []
  back := e :: es
  before := left
  after := right ++ e.content.toList ++ made
  text_eq := by simp [← split]
  row_eq := rfl
  made_before := .rest lo left
  made_after := .edit (by rw [start, ← split, byteLength_append, Nat.add_assoc]) stop more

/-- A cut behind an edit. -/
def behind (start : e.start = lo + byteLength keep) (stop : e.stop = e.start + byteLength gone)
    (c : Cut e.stop rest es) : Cut lo (keep ++ gone ++ rest) (e :: es) where
  left := keep ++ gone ++ c.left
  right := c.right
  front := e :: c.front
  back := c.back
  before := keep ++ e.content.toList ++ c.before
  after := c.after
  text_eq := by simp [← c.text_eq]
  row_eq := by simp [← c.row_eq]
  made_before := .edit start stop c.made_before
  made_after := by
    have reached : lo + byteLength (keep ++ gone ++ c.left) = e.stop + byteLength c.left := by
      simp only [byteLength_append]
      omega
    rw [reached]
    exact c.made_after

end Edit

theorem cases_unedited {lo : Nat} {text : List Char} (c : Cut lo text []) :
    ∃ left right, ∃ split : left ++ right = text, c = unedited lo left right split := by
  obtain ⟨left, right, front, back, before, after, text_eq, row_eq, made_before, made_after⟩ := c
  obtain ⟨rfl, rfl⟩ := List.append_eq_nil_iff.1 row_eq
  cases made_before
  cases made_after
  exact ⟨left, right, text_eq, rfl⟩

section Edit

variable {lo : Nat} {keep gone rest made : List Char} {e : Edit} {es : List Edit}

theorem cases_edit (start : e.start = lo + byteLength keep)
    (stop : e.stop = e.start + byteLength gone) (more : Replaced e.stop rest es made)
    (c : Cut lo (keep ++ gone ++ rest) (e :: es)) :
    (∃ left right, ∃ split : left ++ right = keep, c = within start stop more left right split) ∨
      ∃ c', c = behind start stop c' := by
  obtain ⟨left, right, front, back, before, after, text_eq, row_eq, made_before, made_after⟩ := c
  cases front with
  | nil =>
    obtain rfl : back = e :: es := row_eq
    obtain ⟨keep', gone', rest', more', rfl, rfl, start', stop', next⟩ := made_after.of_cons
    cases made_before
    have whole : (left ++ keep') ++ (gone' ++ rest') = keep ++ (gone ++ rest) := by
      simpa using text_eq
    obtain ⟨rfl, tail⟩ := append_inj_of_byteLength whole (by rw [byteLength_append]; omega)
    obtain ⟨rfl, rfl⟩ := append_inj_of_byteLength tail (by omega)
    obtain rfl := next.unique more
    exact Or.inl ⟨left, keep', rfl, rfl⟩
  | cons e' front =>
    obtain ⟨rfl, rest_eq⟩ := List.cons.inj row_eq
    obtain ⟨keep', gone', left', before', rfl, rfl, start', stop', next⟩ := made_before.of_cons
    have whole : keep' ++ (gone' ++ (left' ++ right)) = keep ++ (gone ++ rest) := by
      simpa using text_eq
    obtain ⟨rfl, tail⟩ := append_inj_of_byteLength whole (by omega)
    obtain ⟨rfl, last⟩ := append_inj_of_byteLength tail (by omega)
    have reached : lo + byteLength (keep' ++ gone' ++ left') = e'.stop + byteLength left' := by
      simp only [byteLength_append]
      omega
    exact Or.inr ⟨⟨left', right, front, back, before', after, last, rest_eq, next,
      reached ▸ made_after⟩, rfl⟩

variable (start : e.start = lo + byteLength keep) (stop : e.stop = e.start + byteLength gone)
  (more : Replaced e.stop rest es made)

theorem offset_behind (c : Cut e.stop rest es) : (behind start stop c).offset = c.offset := by
  simp only [offset, behind, byteLength_append]
  omega

theorem place_behind (c : Cut e.stop rest es) (p : Position) :
    (behind start stop c).place p = c.place ((p.advance keep).advance e.content.toList) := by
  simp [place, behind]

theorem keeps_behind {c : Cut e.stop rest es} : (behind start stop c).Keeps ↔ c.Keeps := by
  simp only [Keeps, offset_behind]
  rfl

theorem puts_behind {c : Cut e.stop rest es} {f : Edit} :
    (behind start stop c).Puts f ↔ c.Puts f := by
  simp only [Puts, offset_behind]
  rfl

-- A cut that is nowhere behind the edit but at its very end has nothing of the rest on its left.
theorem begins_behind {c : Cut e.stop rest es} : (behind start stop c).Begins ↔ c.Begins := by
  have first : e.stop = c.offset ↔ c.left = [] := by
    rw [← byteLength_eq_zero, offset]
    omega
  simp only [Begins, offset_behind, StartsLine]
  by_cases none : c.left = []
  · simp [behind, none, first]
  · simp [behind, first, none]

theorem keeps_within {left right : List Char} (split : left ++ right = keep) :
    (within start stop more left right split).Keeps ↔ right ≠ [] := by
  have apart : lo + byteLength left < e.start ↔ right ≠ [] := by
    have size := congrArg byteLength split
    rw [byteLength_append] at size
    rw [ne_eq, ← byteLength_eq_zero]
    omega
  constructor
  · intro keeps
    exact apart.1 (keeps.2 e (by simp [within]))
  · intro filled
    have order := apart.2 filled
    refine ⟨by simp [within, filled], fun f member => ?_⟩
    change lo + byteLength left < f.start
    rcases List.mem_cons.1 member with rfl | later
    · exact order
    · have := more.le_start f later
      omega

theorem begins_within {left right : List Char} (split : left ++ right = keep) :
    (within start stop more left right split).Begins ↔ StartsLine left := by
  simp [Begins, within]

theorem puts_within {left right : List Char} (split : left ++ right = keep) {f : Edit} :
    (within start stop more left right split).Puts f ↔
      f = e ∧ right = [] ∧ e.content.toList ≠ [] := by
  have meet : e.start = lo + byteLength left ↔ right = [] := by
    have size := congrArg byteLength split
    rw [byteLength_append] at size
    rw [← byteLength_eq_zero]
    omega
  simp only [Puts, within, offset, List.head?_cons, Option.some.injEq]
  constructor
  · rintro ⟨rfl, at_, filled⟩
    exact ⟨rfl, meet.1 at_, filled⟩
  · rintro ⟨rfl, none, filled⟩
    exact ⟨rfl, meet.2 none, filled⟩

end Edit

end Cut

end ServerLink
