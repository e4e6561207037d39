/-!
Texts as lists of characters, with offsets counted in bytes of UTF-8. An offset is valid in a
text when it falls between two characters; `splitAt?` cuts there, and cutting loses nothing.
-/

set_option autoImplicit false

namespace ServerLink.Text

def byteLength : List Char → Nat
  | [] => 0
  | c :: cs => c.utf8Size + byteLength cs

@[simp] theorem byteLength_nil : byteLength [] = 0 := rfl

@[simp] theorem byteLength_cons (c : Char) (cs : List Char) :
    byteLength (c :: cs) = c.utf8Size + byteLength cs := rfl

@[simp] theorem byteLength_append (xs ys : List Char) :
    byteLength (xs ++ ys) = byteLength xs + byteLength ys := by
  induction xs with
  | nil => simp
  | cons c cs ih => simp [ih, Nat.add_assoc]

theorem byteLength_eq_zero {cs : List Char} : byteLength cs = 0 ↔ cs = [] := by
  cases cs with
  | nil => simp
  | cons c cs =>
      have := c.utf8Size_pos
      simp only [byteLength_cons, reduceCtorEq, iff_false]
      omega

/-- The text before and after a byte offset; `none` when the offset is past the end or inside a
character. -/
def splitAt? : List Char → Nat → Option (List Char × List Char)
  | cs, 0 => some ([], cs)
  | [], _ + 1 => none
  | c :: cs, n + 1 =>
      if c.utf8Size ≤ n + 1 then
        (splitAt? cs (n + 1 - c.utf8Size)).map fun (before, after) => (c :: before, after)
      else none

@[simp] theorem splitAt?_zero (cs : List Char) : splitAt? cs 0 = some ([], cs) := by
  cases cs <;> rfl

theorem splitAt?_byteLength (before after : List Char) :
    splitAt? (before ++ after) (byteLength before) = some (before, after) := by
  induction before with
  | nil => simp
  | cons c cs ih =>
      have hc := c.utf8Size_pos
      obtain ⟨n, hn⟩ : ∃ n, c.utf8Size + byteLength cs = n + 1 := ⟨c.utf8Size + byteLength cs - 1, by omega⟩
      simp only [List.cons_append, byteLength_cons, hn, splitAt?]
      rw [if_pos (by omega), show n + 1 - c.utf8Size = byteLength cs by omega, ih]
      rfl

theorem splitAt?_eq_some {cs before after : List Char} {n : Nat}
    (h : splitAt? cs n = some (before, after)) :
    cs = before ++ after ∧ byteLength before = n := by
  induction cs generalizing n before with
  | nil =>
      cases n with
      | zero => simp_all [splitAt?]
      | succ n => simp [splitAt?] at h
  | cons c cs ih =>
      cases n with
      | zero => simp_all [splitAt?]
      | succ n =>
          simp only [splitAt?] at h
          split at h
          · obtain ⟨⟨b, a⟩, hs, he⟩ := Option.map_eq_some_iff.1 h
            obtain ⟨rfl, rfl⟩ := Prod.mk.inj he
            obtain ⟨rfl, hl⟩ := ih hs
            refine ⟨rfl, ?_⟩
            simp only [byteLength_cons, hl]
            omega
          · simp at h

/-- The offset falls between two characters of the text, or at one of its ends. -/
def IsBoundary (cs : List Char) (n : Nat) : Prop :=
  ∃ before after, cs = before ++ after ∧ byteLength before = n

theorem isBoundary_iff {cs : List Char} {n : Nat} :
    IsBoundary cs n ↔ (splitAt? cs n).isSome := by
  constructor
  · rintro ⟨before, after, rfl, rfl⟩
    simp [splitAt?_byteLength]
  · intro h
    obtain ⟨⟨before, after⟩, hs⟩ := Option.isSome_iff_exists.1 h
    exact ⟨before, after, splitAt?_eq_some hs⟩

instance (cs : List Char) (n : Nat) : Decidable (IsBoundary cs n) :=
  decidable_of_iff _ isBoundary_iff.symm

/-- The text from one byte offset up to another; empty when an offset is not valid. -/
def slice (cs : List Char) (start stop : Nat) : List Char :=
  match splitAt? cs start with
  | none => []
  | some (_, rest) => ((splitAt? rest (stop - start)).map Prod.fst).getD []

/-- The mark that a file may begin with to show its byte order. -/
def byteOrderMark : Char := '\ufeff'

/-- The text without a byte order mark at its start. -/
def withoutMark : List Char → List Char
  | c :: cs => if c = byteOrderMark then cs else c :: cs
  | [] => []

end ServerLink.Text
