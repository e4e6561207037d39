import Mathlib.Data.List.Induction
import ServerLink.SourceMap

/-!
The mappings of one piece of edited text. Text that is kept has one for each of its lines, at the
beginning of the line; text that is put in has one. Mappings go forward from piece to piece.
-/

set_option autoImplicit false

namespace ServerLink

open Text

/-! ### The order of places -/

namespace Text.Position

variable {p q : Position}

instance : LT Position := ⟨fun p q => p.line < q.line ∨ p.line = q.line ∧ p.column < q.column⟩

instance : LE Position := ⟨fun p q => p.line < q.line ∨ p.line = q.line ∧ p.column ≤ q.column⟩

theorem lt_iff : p < q ↔ p.line < q.line ∨ p.line = q.line ∧ p.column < q.column := Iff.rfl

theorem le_iff : p ≤ q ↔ p.line < q.line ∨ p.line = q.line ∧ p.column ≤ q.column := Iff.rfl

theorem step_lt (p : Position) (c : Char) : p < p.step c := by
  have wide : 0 < units16 c := by
    unfold units16
    split <;> omega
  by_cases feed : c = '\n' <;> simp [lt_iff, step, feed, wide]

theorem advance_le (p : Position) (cs : List Char) : p ≤ p.advance cs := by
  induction cs generalizing p with
  | nil => simp [le_iff]
  | cons c cs ih =>
    have first := p.step_lt c
    have rest := ih (p.step c)
    have whole : p.advance (c :: cs) = (p.step c).advance cs := rfl
    rw [whole]
    simp only [lt_iff, le_iff] at *
    omega

theorem advance_lt (p : Position) {cs : List Char} (some : cs ≠ []) : p < p.advance cs := by
  obtain ⟨c, cs, rfl⟩ := List.exists_cons_of_ne_nil some
  have first := p.step_lt c
  have rest := (p.step c).advance_le cs
  have whole : p.advance (c :: cs) = (p.step c).advance cs := rfl
  rw [whole]
  simp only [lt_iff, le_iff] at *
  omega

theorem line_advance {line : List Char} (plain : '\n' ∉ line) (p : Position) :
    (p.advance line).line = p.line := by
  induction line generalizing p with
  | nil => rfl
  | cons c cs ih =>
    have other : c ≠ '\n' := fun same => plain (by simp [same])
    have rest := ih (fun member => plain (List.mem_cons_of_mem _ member)) (p.step c)
    simpa [advance, step, other] using rest

end Text.Position

/-! ### Lines -/

theorem flatten_feedLines (cs : List Char) : (feedLines cs).flatten = cs := by
  induction cs with
  | nil => rfl
  | cons c cs ih =>
    by_cases feed : c = '\n'
    · simp [feedLines, feed, ih]
    · cases rest : feedLines cs <;> simp_all [feedLines]

theorem feedLines_eq_nil {cs : List Char} : feedLines cs = [] ↔ cs = [] := by
  constructor
  · intro none
    simpa [none] using (flatten_feedLines cs).symm
  · rintro rfl
    rfl

theorem ne_nil_of_mem_feedLines {cs line : List Char} (member : line ∈ feedLines cs) :
    line ≠ [] := by
  induction cs generalizing line with
  | nil => simp [feedLines] at member
  | cons c cs ih =>
    by_cases feed : c = '\n'
    · simp only [feedLines, feed, if_true, List.mem_cons] at member
      rcases member with rfl | later
      · simp
      · exact ih later
    · simp only [feedLines, feed, if_false] at member
      cases rest : feedLines cs with
      | nil => simp_all
      | cons first lines =>
        simp only [rest, List.mem_cons] at member
        rcases member with rfl | later
        · simp
        · exact ih (by simp [rest, later])

-- A text that ends in a line feed ends a line.
theorem feedLines_append {pre : List Char} (ends : pre.getLast? = some '\n') (post : List Char) :
    feedLines (pre ++ post) = feedLines pre ++ feedLines post := by
  induction pre with
  | nil => simp at ends
  | cons c cs ih =>
    by_cases last : cs = []
    · obtain rfl : c = '\n' := by simpa [last] using ends
      simp [last, feedLines]
    · have rest := ih (by rwa [List.getLast?_cons_of_ne_nil last] at ends)
      have filled : feedLines cs ≠ [] := fun none => last (feedLines_eq_nil.1 none)
      obtain ⟨line, lines, split⟩ := List.exists_cons_of_ne_nil filled
      by_cases feed : c = '\n' <;> simp [feedLines, feed, rest, split]

-- All lines but the last one end in a line feed.
theorem feedLines_ends {cs line : List Char} {xs ys : List (List Char)}
    (split : feedLines cs = xs ++ line :: ys) :
    xs.flatten = [] ∨ xs.flatten.getLast? = some '\n' := by
  induction cs generalizing xs with
  | nil => simp [feedLines] at split
  | cons c cs ih =>
    cases xs with
    | nil => exact Or.inl rfl
    | cons x xs =>
      by_cases feed : c = '\n'
      · simp only [feedLines, feed, if_true, List.cons_append, List.cons.injEq] at split
        obtain ⟨rfl, rest⟩ := split
        rcases ih rest with none | last
        · simp [none]
        · simp [List.getLast?_cons, last]
      · simp only [feedLines, feed, if_false] at split
        cases next : feedLines cs with
        | nil => simp [next] at split
        | cons first lines =>
          simp only [next, List.cons_append, List.cons.injEq] at split
          obtain ⟨rfl, rest⟩ := split
          have member : first ∈ feedLines cs := by simp [next]
          have filled : first ≠ [] := ne_nil_of_mem_feedLines member
          have shorter : feedLines cs = (first :: xs) ++ line :: ys := by rw [next, rest]; rfl
          have last := ih shorter
          simp only [List.flatten_cons, List.append_eq_nil_iff, filled, false_and, false_or] at last
          refine Or.inr ?_
          simp only [List.flatten_cons, List.cons_append]
          rw [List.getLast?_cons_of_ne_nil (by simp [filled]), last]

/-- A text begins a line at its own beginning and behind each line feed. -/
def StartsLine (pre : List Char) : Prop := pre = [] ∨ pre.getLast? = some '\n'

theorem exists_startsLine (pre : List Char) :
    ∃ earlier line, pre = earlier ++ line ∧ StartsLine earlier ∧ '\n' ∉ line := by
  induction pre using List.reverseRecOn with
  | nil => exact ⟨[], [], rfl, Or.inl rfl, by simp⟩
  | append_singleton pre c ih =>
    by_cases feed : c = '\n'
    · exact ⟨pre ++ [c], [], by simp, Or.inr (by simp [feed]), by simp⟩
    · obtain ⟨earlier, line, rfl, starts, plain⟩ := ih
      exact ⟨earlier, line ++ [c], by simp, starts, by simp [plain, Ne.symm feed]⟩

/-! ### The mappings of a piece -/

theorem mem_lineMappings {size offset : Nat} {p : Position} {lines : List (List Char)}
    {m : Mapping} : m ∈ lineMappings size p offset lines ↔
      ∃ xs line ys, lines = xs ++ line :: ys ∧ offset + byteLength xs.flatten < size ∧
        m = ⟨p.advance xs.flatten, offset + byteLength xs.flatten⟩ := by
  induction lines generalizing p offset with
  | nil => simp [lineMappings]
  | cons first lines ih =>
    have here : m ∈ lineMappings size p offset (first :: lines) ↔
        (offset < size ∧ m = ⟨p, offset⟩) ∨
          m ∈ lineMappings size (p.advance first) (offset + byteLength first) lines := by
      by_cases inside : offset < size <;> simp [lineMappings, inside]
    rw [here, ih]
    constructor
    · rintro (⟨inside, rfl⟩ | ⟨xs, line, ys, rfl, inside, rfl⟩)
      · exact ⟨[], first, lines, rfl, by simpa using inside, by simp⟩
      · exact ⟨first :: xs, line, ys, rfl, by simpa [Nat.add_assoc] using inside,
          by simp [Nat.add_assoc]⟩
    · rintro ⟨xs, line, ys, split, inside, rfl⟩
      cases xs with
      | nil => exact Or.inl ⟨by simpa using inside, by simp⟩
      | cons x xs =>
        simp only [List.cons_append, List.cons.injEq] at split
        obtain ⟨rfl, rest⟩ := split
        exact Or.inr ⟨xs, line, ys, rest, by simpa [Nat.add_assoc] using inside,
          by simp [Nat.add_assoc]⟩

theorem mem_mappings_kept {size offset : Nat} {p : Position} {cs : List Char} {m : Mapping} :
    m ∈ (Piece.kept offset cs).mappings size p ↔
      ∃ pre post, cs = pre ++ post ∧ post ≠ [] ∧ StartsLine pre ∧
        offset + byteLength pre < size ∧ m = ⟨p.advance pre, offset + byteLength pre⟩ := by
  rw [Piece.mappings, mem_lineMappings]
  constructor
  · rintro ⟨xs, line, ys, split, inside, rfl⟩
    have whole : cs = xs.flatten ++ (line ++ ys.flatten) := by
      have same := flatten_feedLines cs
      rw [split] at same
      simpa using same.symm
    have filled : line ≠ [] := ne_nil_of_mem_feedLines (by rw [split]; simp)
    exact ⟨xs.flatten, line ++ ys.flatten, whole, by simp [filled], feedLines_ends split, inside,
      rfl⟩
  · rintro ⟨pre, post, rfl, filled, starts, inside, rfl⟩
    obtain ⟨line, lines, split⟩ := List.exists_cons_of_ne_nil
      (fun none => filled (feedLines_eq_nil.1 none) : feedLines post ≠ [])
    have whole : feedLines (pre ++ post) = feedLines pre ++ line :: lines := by
      rcases starts with rfl | ends
      · simpa [feedLines] using split
      · rw [feedLines_append ends, split]
    exact ⟨feedLines pre, line, lines, whole, by simpa [flatten_feedLines] using inside,
      by simp [flatten_feedLines]⟩

theorem mem_mappings_added {size offset : Nat} {p : Position} {cs : List Char} {m : Mapping} :
    m ∈ (Piece.added offset cs).mappings size p ↔ cs ≠ [] ∧ offset < size ∧ m = ⟨p, offset⟩ := by
  by_cases none : cs = [] <;> by_cases inside : offset < size <;>
    simp [Piece.mappings, none, inside]

/-! ### Mappings go forward -/

theorem bounds_of_mem_mappings {size : Nat} {p : Position} {piece : Piece} {m : Mapping}
    (member : m ∈ piece.mappings size p) :
    p ≤ m.generated ∧ m.generated < p.advance piece.text := by
  cases piece with
  | kept offset cs =>
    obtain ⟨pre, post, rfl, filled, -, -, rfl⟩ := mem_mappings_kept.1 member
    have last := (p.advance pre).advance_lt filled
    exact ⟨p.advance_le pre, by simpa [Piece.text] using last⟩
  | added offset cs =>
    obtain ⟨filled, -, rfl⟩ := mem_mappings_added.1 member
    exact ⟨p.advance_le [], p.advance_lt filled⟩

theorem bounds_of_mem_mappingsOf {size : Nat} {p : Position} {ps : List Piece} {m : Mapping}
    (member : m ∈ mappingsOf size p ps) :
    p ≤ m.generated ∧ m.generated < p.advance (joinPieces ps) := by
  induction ps generalizing p with
  | nil => simp [mappingsOf] at member
  | cons piece ps ih =>
    have whole : p.advance (joinPieces (piece :: ps)) =
        (p.advance piece.text).advance (joinPieces ps) := by
      simp [joinPieces]
    have first := p.advance_le piece.text
    have rest := (p.advance piece.text).advance_le (joinPieces ps)
    simp only [whole, Position.lt_iff, Position.le_iff] at *
    rcases List.mem_append.1 member with here | later
    · have bounds := bounds_of_mem_mappings here
      simp only [Position.lt_iff, Position.le_iff] at bounds
      omega
    · have bounds := ih later
      omega

theorem lineMappings_ascending {size offset : Nat} {p : Position} {lines : List (List Char)}
    (filled : ∀ line ∈ lines, line ≠ []) :
    (lineMappings size p offset lines).Pairwise fun a b => a.generated < b.generated := by
  induction lines generalizing p offset with
  | nil => exact List.Pairwise.nil
  | cons first lines ih =>
    have rest := @ih (offset + byteLength first) (p.advance first)
      fun line member => filled line (List.mem_cons_of_mem _ member)
    by_cases inside : offset < size
    case neg => simpa [lineMappings, inside] using rest
    simp only [lineMappings, inside, if_true]
    refine List.pairwise_cons.2 ⟨fun m member => ?_, rest⟩
    obtain ⟨xs, -, -, -, -, rfl⟩ := mem_lineMappings.1 member
    have start := p.advance_lt (filled first (by simp))
    have next := (p.advance first).advance_le xs.flatten
    simp only [Position.lt_iff, Position.le_iff] at *
    omega

theorem mappingsOf_ascending (size : Nat) (p : Position) (ps : List Piece) :
    (mappingsOf size p ps).Pairwise fun a b => a.generated < b.generated := by
  induction ps generalizing p with
  | nil => exact List.Pairwise.nil
  | cons piece ps ih =>
    have here : (piece.mappings size p).Pairwise fun a b => a.generated < b.generated := by
      cases piece with
      | kept offset cs => exact lineMappings_ascending fun line => ne_nil_of_mem_feedLines
      | added offset cs =>
        simp only [Piece.mappings]
        split
        · exact List.pairwise_singleton _ _
        · exact List.Pairwise.nil
    refine List.pairwise_append.2 ⟨here, ih _, fun a first b later => ?_⟩
    have left := (bounds_of_mem_mappings first).2
    have right := (bounds_of_mem_mappingsOf later).1
    simp only [Position.lt_iff, Position.le_iff] at *
    omega

end ServerLink
