import ServerLink.Proofs.Splice

/-!
Two texts that agree but for some bodies. A place in one text has a counterpart in the other if it
stands outside all bodies; edits at counterparts that take in every body make the same text of
both.
-/

set_option autoImplicit false

namespace ServerLink

open Text

/-- A character that two texts share, or a body in each of them that is not the same. -/
inductive Stretch where
  | shared (c : Char)
  | body (first : Char) (left : List Char) (other : Char) (right : List Char)
  deriving DecidableEq, Repr

namespace Stretch

def left : Stretch → List Char
  | shared c => [c]
  | body c cs _ _ => c :: cs

def right : Stretch → List Char
  | shared c => [c]
  | body _ _ d ds => d :: ds

end Stretch

/-- The first of two aligned texts. -/
def leftText (ss : List Stretch) : List Char := ss.flatMap Stretch.left

/-- The second of two aligned texts. -/
def rightText (ss : List Stretch) : List Char := ss.flatMap Stretch.right

@[simp] theorem leftText_nil : leftText [] = [] := rfl

@[simp] theorem rightText_nil : rightText [] = [] := rfl

@[simp] theorem leftText_cons (s : Stretch) (ss : List Stretch) :
    leftText (s :: ss) = s.left ++ leftText ss := rfl

@[simp] theorem rightText_cons (s : Stretch) (ss : List Stretch) :
    rightText (s :: ss) = s.right ++ rightText ss := rfl

@[simp] theorem leftText_append (xs ys : List Stretch) :
    leftText (xs ++ ys) = leftText xs ++ leftText ys := by
  simp [leftText]

@[simp] theorem rightText_append (xs ys : List Stretch) :
    rightText (xs ++ ys) = rightText xs ++ rightText ys := by
  simp [rightText]

theorem byteLength_leftText_pos (s : Stretch) (ss : List Stretch) :
    0 < byteLength (leftText (s :: ss)) := by
  cases s with
  | shared c =>
    have := c.utf8Size_pos
    simp only [leftText_cons, Stretch.left, byteLength_append, byteLength_cons]
    omega
  | body c cs d ds =>
    have := c.utf8Size_pos
    simp only [leftText_cons, Stretch.left, byteLength_append, byteLength_cons]
    omega

theorem byteLength_rightText_pos (s : Stretch) (ss : List Stretch) :
    0 < byteLength (rightText (s :: ss)) := by
  cases s with
  | shared c =>
    have := c.utf8Size_pos
    simp only [rightText_cons, Stretch.right, byteLength_append, byteLength_cons]
    omega
  | body c cs d ds =>
    have := d.utf8Size_pos
    simp only [rightText_cons, Stretch.right, byteLength_append, byteLength_cons]
    omega

/-- The offsets stand at the same place outside the bodies of aligned texts. -/
def Counterpart (ss : List Stretch) (m n : Nat) : Prop :=
  ∃ before after, ss = before ++ after ∧ byteLength (leftText before) = m ∧
    byteLength (rightText before) = n

namespace Counterpart

variable {ss : List Stretch} {m n m' n' : Nat}

theorem zero (ss : List Stretch) : Counterpart ss 0 0 := ⟨[], ss, rfl, rfl, rfl⟩

theorem size (ss : List Stretch) :
    Counterpart ss (byteLength (leftText ss)) (byteLength (rightText ss)) :=
  ⟨ss, [], by simp, rfl, rfl⟩

-- Of two places one is reached from the other over some of the stretches.
theorem connect (h : Counterpart ss m n) (h' : Counterpart ss m' n') (le : m ≤ m') :
    ∃ before between after, ss = before ++ between ++ after ∧
      byteLength (leftText before) = m ∧ byteLength (rightText before) = n ∧
      byteLength (leftText (before ++ between)) = m' ∧
      byteLength (rightText (before ++ between)) = n' := by
  obtain ⟨a, b, rfl, rfl, rfl⟩ := h
  obtain ⟨c, d, same, rfl, rfl⟩ := h'
  rcases List.append_eq_append_iff.1 same with ⟨mid, rfl, rfl⟩ | ⟨mid, rfl, rfl⟩
  · exact ⟨a, mid, d, by simp, rfl, rfl, rfl, rfl⟩
  · cases mid with
    | nil => exact ⟨c, [], b, by simp, by simp, by simp, by simp, by simp⟩
    | cons s mid =>
      have positive := byteLength_leftText_pos s mid
      simp only [leftText_append, byteLength_append] at le
      omega

-- A place has one counterpart.
theorem eq_iff (h : Counterpart ss m n) (h' : Counterpart ss m' n') : m = m' ↔ n = n' := by
  have forward {m n m' n' : Nat} (h : Counterpart ss m n) (h' : Counterpart ss m' n')
      (le : m ≤ m') : m = m' ↔ n = n' := by
    obtain ⟨before, between, after, rfl, rfl, rfl, rfl, rfl⟩ := h.connect h' le
    cases between with
    | nil => simp
    | cons s between =>
      have left := byteLength_leftText_pos s between
      have right := byteLength_rightText_pos s between
      simp only [leftText_append, rightText_append, byteLength_append]
      omega
  rcases Nat.le_total m m' with le | le
  · exact forward h h' le
  · exact Iff.trans eq_comm (Iff.trans (forward h' h le) eq_comm)

/-- Walks over the stretches from the front of both texts to the two offsets. -/
def reached : List Stretch → Nat → Nat → Bool
  | [], m, n => m == 0 && n == 0
  | s :: ss, m, n =>
      let left := byteLength s.left
      let right := byteLength s.right
      (m == 0 && n == 0) ||
        (left ≤ m && right ≤ n && reached ss (m - left) (n - right))

theorem reached_iff : reached ss m n = true ↔ Counterpart ss m n := by
  induction ss generalizing m n with
  | nil =>
    simp only [reached, Bool.and_eq_true, beq_iff_eq]
    constructor
    · rintro ⟨rfl, rfl⟩
      exact .zero []
    · rintro ⟨before, after, parts, rfl, rfl⟩
      obtain ⟨rfl, -⟩ := List.nil_eq_append_iff.1 parts
      exact ⟨rfl, rfl⟩
  | cons s ss ih =>
    simp only [reached, Bool.or_eq_true, Bool.and_eq_true, beq_iff_eq, decide_eq_true_eq, ih]
    constructor
    · rintro (⟨rfl, rfl⟩ | ⟨⟨left, right⟩, before, after, rfl, first, second⟩)
      · exact .zero _
      · refine ⟨s :: before, after, rfl, ?_, ?_⟩
        · simp only [leftText_cons, byteLength_append]
          omega
        · simp only [rightText_cons, byteLength_append]
          omega
    · rintro ⟨before, after, parts, rfl, rfl⟩
      cases before with
      | nil => exact Or.inl ⟨rfl, rfl⟩
      | cons head before =>
        obtain ⟨rfl, rfl⟩ := List.cons.inj parts
        refine Or.inr ⟨⟨?_, ?_⟩, before, after, rfl, ?_, ?_⟩ <;>
          simp [byteLength_append]

instance (ss : List Stretch) (m n : Nat) : Decidable (Counterpart ss m n) :=
  decidable_of_iff _ reached_iff

end Counterpart

/-! ### Bodies -/

/-- A body stands between two offsets of one of the texts. -/
def BodyAt (side : Stretch → List Char) (ss : List Stretch) (start stop : Nat) : Prop :=
  ∃ before c cs d ds after, ss = before ++ .body c cs d ds :: after ∧
    byteLength (before.flatMap side) = start ∧
    byteLength ((before ++ [.body c cs d ds]).flatMap side) = stop

theorem BodyAt.left_solid {ss : List Stretch} (start stop : Nat)
    (body : BodyAt Stretch.left ss start stop) : start < stop := by
  obtain ⟨before, c, cs, d, ds, after, -, rfl, rfl⟩ := body
  have := c.utf8Size_pos
  simp only [List.flatMap_append, List.flatMap_cons, Stretch.left, byteLength_append,
    byteLength_cons]
  omega

theorem BodyAt.right_solid {ss : List Stretch} (start stop : Nat)
    (body : BodyAt Stretch.right ss start stop) : start < stop := by
  obtain ⟨before, c, cs, d, ds, after, -, rfl, rfl⟩ := body
  have := d.utf8Size_pos
  simp only [List.flatMap_append, List.flatMap_cons, Stretch.right, byteLength_append,
    byteLength_cons]
  omega

/-- The ranges of the bodies in one of the texts. -/
def bodyRanges (side : Stretch → List Char) : List Stretch → Nat → List (Nat × Nat)
  | [], _ => []
  | .shared c :: ss, start => bodyRanges side ss (start + byteLength (side (.shared c)))
  | .body c cs d ds :: ss, start =>
      let stop := start + byteLength (side (.body c cs d ds))
      (start, stop) :: bodyRanges side ss stop

theorem mem_bodyRanges_iff {side : Stretch → List Char} {ss : List Stretch} {lo : Nat}
    {range : Nat × Nat} : range ∈ bodyRanges side ss lo ↔
      ∃ start stop, BodyAt side ss start stop ∧ range = (lo + start, lo + stop) := by
  have next (s : Stretch) (ss : List Stretch) (start stop : Nat)
      (body : BodyAt side ss start stop) : BodyAt side (s :: ss)
        (byteLength (side s) + start) (byteLength (side s) + stop) := by
    obtain ⟨before, c, cs, d, ds, after, rfl, rfl, rfl⟩ := body
    exact ⟨s :: before, c, cs, d, ds, after, rfl, by simp [byteLength_append],
      by simp [byteLength_append]⟩
  have previous (s : Stretch) (ss : List Stretch) (start stop : Nat)
      (body : BodyAt side (s :: ss) start stop) :
      (∃ c cs d ds, s = .body c cs d ds ∧ start = 0 ∧ stop = byteLength (side s)) ∨
      ∃ a b, BodyAt side ss a b ∧ start = byteLength (side s) + a ∧
        stop = byteLength (side s) + b := by
    obtain ⟨before, c, cs, d, ds, after, parts, rfl, rfl⟩ := body
    cases before with
    | nil =>
      obtain ⟨rfl, -⟩ := List.cons.inj parts
      exact Or.inl ⟨c, cs, d, ds, rfl, by simp, by simp⟩
    | cons head before =>
      obtain ⟨rfl, rfl⟩ := List.cons.inj parts
      exact Or.inr ⟨_, _, ⟨before, c, cs, d, ds, after, rfl, rfl, rfl⟩,
        by simp [byteLength_append], by simp [byteLength_append]⟩
  induction ss generalizing lo with
  | nil =>
    simp only [bodyRanges, List.not_mem_nil, false_iff]
    rintro ⟨start, stop, ⟨before, c, cs, d, ds, after, parts, -⟩, -⟩
    simp at parts
  | cons s ss ih =>
    have later : range ∈ bodyRanges side ss (lo + byteLength (side s)) ↔
        ∃ start stop, BodyAt side ss start stop ∧
          range = (lo + (byteLength (side s) + start), lo + (byteLength (side s) + stop)) := by
      simp only [ih, Nat.add_assoc]
    constructor
    · intro member
      cases s with
      | shared c =>
        obtain ⟨start, stop, body, same⟩ := later.1 member
        exact ⟨_, _, next _ _ _ _ body, same⟩
      | body c cs d ds =>
        rcases List.mem_cons.1 member with rfl | inner
        · exact ⟨0, byteLength (side (.body c cs d ds)), ⟨[], c, cs, d, ds, ss, rfl, rfl, by simp⟩, rfl⟩
        · obtain ⟨start, stop, body, same⟩ := later.1 inner
          exact ⟨_, _, next _ _ _ _ body, same⟩
    · rintro ⟨start, stop, body, rfl⟩
      rcases previous _ _ _ _ body with ⟨c, cs, d, ds, rfl, rfl, rfl⟩ | ⟨a, b, inner, rfl, rfl⟩
      · exact List.mem_cons_self
      · have member := later.2 ⟨a, b, inner, rfl⟩
        cases s with
        | shared c => exact member
        | body c cs d ds => exact List.mem_cons_of_mem _ member

theorem forall_body_iff {side : Stretch → List Char} {ss : List Stretch} {P : Nat → Nat → Prop} :
    (∀ start stop, BodyAt side ss start stop → P start stop) ↔
      ∀ range ∈ bodyRanges side ss 0, P range.1 range.2 := by
  constructor
  · intro each range member
    obtain ⟨start, stop, body, rfl⟩ := mem_bodyRanges_iff.1 member
    simpa using each start stop body
  · intro each start stop body
    simpa using each _ (mem_bodyRanges_iff.2 ⟨start, stop, body, rfl⟩)

-- Between two places without a body the texts are the same.
theorem slice_eq_of_bodiless {ss : List Stretch} {m n m' n' : Nat} (h : Counterpart ss m n)
    (h' : Counterpart ss m' n') (le : m ≤ m')
    (none : ∀ start stop, BodyAt Stretch.left ss start stop → start < m ∨ m' ≤ start) :
    slice (leftText ss) m m' = slice (rightText ss) n n' := by
  obtain ⟨before, between, after, rfl, rfl, rfl, rfl, rfl⟩ := h.connect h' le
  have shared : leftText between = rightText between := by
    have each : ∀ s ∈ between, s.left = s.right := by
      intro s member
      cases s with
      | shared c => rfl
      | body c cs d ds =>
        obtain ⟨x, y, rfl⟩ := List.append_of_mem member
        have body : BodyAt Stretch.left (before ++ (x ++ .body c cs d ds :: y) ++ after)
            (byteLength (leftText (before ++ x)))
            (byteLength (leftText (before ++ x ++ [.body c cs d ds]))) :=
          ⟨before ++ x, c, cs, d, ds, y ++ after, by simp, rfl, rfl⟩
        have positive := byteLength_leftText_pos (.body c cs d ds) y
        have := none _ _ body
        simp only [leftText_append, byteLength_append] at this
        omega
    simp only [leftText, rightText, List.flatMap_def, List.map_congr_left each]
  simp only [leftText_append, rightText_append]
  rw [slice_of_append, slice_of_append, shared]

/-! ### Edits at counterparts -/

/-- Edits put the same in at counterparts. -/
structure Edit.Alike (ss : List Stretch) (a b : Edit) : Prop where
  start : Counterpart ss a.start b.start
  stop : Counterpart ss a.stop b.stop
  content : a.content = b.content

-- Edits at counterparts that take in all bodies make the same text of both.
theorem splice_eq_of_alike {ss : List Stretch} {lo lo' hi hi' : Nat} {es fs : List Edit}
    (alike : List.Forall₂ (Edit.Alike ss) es fs) (starts : Counterpart ss lo lo')
    (stops : Counterpart ss hi hi') (row : EditsFrom lo hi es)
    (covered : ∀ start stop, BodyAt Stretch.left ss start stop →
      start < lo ∨ hi ≤ start ∨ ∃ e ∈ es, e.start ≤ start ∧ start < e.stop) :
    splice (leftText ss) lo hi es = splice (rightText ss) lo' hi' fs := by
  induction alike generalizing lo lo' with
  | nil =>
    refine slice_eq_of_bodiless starts stops row ?_
    intro start stop body
    rcases covered start stop body with before | behind | ⟨e, member, -⟩
    · exact Or.inl before
    · exact Or.inr behind
    · simp at member
  | cons same rest ih =>
    rename_i e f es fs
    obtain ⟨first, solid, follow⟩ := row
    have gap : slice (leftText ss) lo e.start = slice (rightText ss) lo' f.start := by
      refine slice_eq_of_bodiless starts same.start first ?_
      intro start stop body
      have le := follow.le
      rcases covered start stop body with before | behind | ⟨a, member, left, right⟩
      · exact Or.inl before
      · exact Or.inr (by omega)
      · rcases List.mem_cons.1 member with rfl | later
        · exact Or.inr left
        · have := (follow.bounds a later).1
          exact Or.inr (by omega)
    have tail := ih same.stop follow (by
      intro start stop body
      rcases covered start stop body with before | behind | ⟨a, member, left, right⟩
      · exact Or.inl (by omega)
      · exact Or.inr (Or.inl behind)
      · rcases List.mem_cons.1 member with rfl | later
        · exact Or.inl right
        · exact Or.inr (Or.inr ⟨a, later, left, right⟩))
    simp only [splice, gap, same.content, tail]

end ServerLink
