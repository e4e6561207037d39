import Mathlib.Data.List.Pairwise
import ServerLink.Proofs.Slices
import ServerLink.SourceMap

/-!
Edits carried out. Edits are accepted exactly when each fits the text and no two overlap; edits
that follow one another are spliced in: what stands between them is kept, and each puts its
content in the place of its range. The order in which edits were found does not matter.
-/

set_option autoImplicit false

namespace ServerLink

open Text

namespace Edit

/-- Neither edit reaches into the other. -/
def Apart (a b : Edit) : Prop := a.stop ≤ b.start ∨ b.stop ≤ a.start

instance (a b : Edit) : Decidable (a.Apart b) := by
  unfold Apart
  infer_instance

theorem Apart.symm {a b : Edit} (h : a.Apart b) : b.Apart a := Or.symm h

instance : Std.Symm Apart := ⟨fun _ _ => Apart.symm⟩

theorem le_total (a b : Edit) : (le a b || le b a) = true := by
  simp only [le, Bool.or_eq_true, Bool.and_eq_true, decide_eq_true_eq, beq_iff_eq]
  omega

theorem le_trans (a b c : Edit) (ab : le a b = true) (bc : le b c = true) : le a c = true := by
  simp only [le, Bool.or_eq_true, Bool.and_eq_true, decide_eq_true_eq, beq_iff_eq] at *
  omega

theorem sorted_perm (es : List Edit) : (sorted es).Perm es := List.mergeSort_perm es le

theorem sorted_pairwise (es : List Edit) : (sorted es).Pairwise fun a b => le a b = true :=
  List.pairwise_mergeSort le_trans le_total es

-- In the order of ranges, edits that are apart follow one another.
theorem stop_le_start_of_le {a b : Edit} (order : le a b = true) (apart : a.Apart b)
    (sound : b.start ≤ b.stop) : a.stop ≤ b.start := by
  simp only [le, Bool.or_eq_true, Bool.and_eq_true, decide_eq_true_eq, beq_iff_eq] at order
  rcases apart with before | after <;> omega

/-! ### What is accepted -/

theorem firstFault_eq_none {text : List Char} {es : List Edit} {before : Option Edit}
    (fits : ∀ e ∈ es, e.Fits text) (first : ∀ b ∈ before, ∀ e ∈ es, b.stop ≤ e.start)
    (follow : es.Pairwise fun a b => a.stop ≤ b.start) : firstFault text before es = none := by
  induction es generalizing before with
  | nil => rfl
  | cons e es ih =>
    obtain ⟨next, rest⟩ := List.pairwise_cons.1 follow
    have tail : firstFault text (some e) es = none :=
      ih (fun a member => fits a (List.mem_cons_of_mem _ member))
        (by simpa using next) rest
    have fit := fits e (by simp)
    cases before with
    | none => simp only [firstFault, if_pos fit, tail]
    | some b =>
      have clear : ¬ e.start < b.stop := by
        have := first b (by simp) e (by simp)
        omega
      simp only [firstFault, if_pos fit, if_neg clear, tail]

theorem of_firstFault_eq_none {text : List Char} {es : List Edit} {before : Option Edit}
    (sound : firstFault text before es = none) :
    (∀ e ∈ es, e.Fits text) ∧ (∀ b ∈ before, ∀ e ∈ es, b.stop ≤ e.start) ∧
      es.Pairwise fun a b => a.stop ≤ b.start := by
  induction es generalizing before with
  | nil => simp
  | cons e es ih =>
    by_cases fit : e.Fits text
    · have step : (∀ b ∈ before, b.stop ≤ e.start) ∧ firstFault text (some e) es = none := by
        cases before with
        | none =>
          simp only [firstFault, if_pos fit] at sound
          exact ⟨by simp, sound⟩
        | some b =>
          by_cases overlap : e.start < b.stop
          · simp [firstFault, fit, overlap] at sound
          · simp only [firstFault, if_pos fit, if_neg overlap] at sound
            exact ⟨by simpa using overlap, sound⟩
      obtain ⟨fits, next, follow⟩ := ih step.2
      simp only [Option.mem_some_iff, forall_eq'] at next
      refine ⟨?_, ?_, List.pairwise_cons.2 ⟨next, follow⟩⟩
      · intro a member
        rcases List.mem_cons.1 member with rfl | later
        · exact fit
        · exact fits a later
      · intro b given a member
        have start := step.1 b given
        rcases List.mem_cons.1 member with rfl | later
        · exact start
        · have := next a later
          have := fit.1
          omega
    · cases before <;> simp [firstFault, fit] at sound

-- Edits are accepted exactly when each fits the text and no two of them overlap.
theorem firstFault_sorted_eq_none_iff {text : List Char} {es : List Edit} :
    firstFault text none (sorted es) = none ↔
      (∀ e ∈ es, e.Fits text) ∧ es.Pairwise Apart := by
  have members : ∀ e, e ∈ sorted es ↔ e ∈ es := fun e => (sorted_perm es).mem_iff
  constructor
  · intro sound
    obtain ⟨fits, -, follow⟩ := of_firstFault_eq_none sound
    refine ⟨fun e member => fits e ((members e).2 member), ?_⟩
    have apart : (sorted es).Pairwise Apart := follow.imp fun h => Or.inl h
    exact (sorted_perm es).pairwise apart fun h => h.symm
  · rintro ⟨fits, apart⟩
    refine firstFault_eq_none (fun e member => fits e ((members e).1 member)) (by simp) ?_
    have parted : (sorted es).Pairwise Apart :=
      (sorted_perm es).symm.pairwise apart fun h => h.symm
    refine ((sorted_pairwise es).and parted).imp_of_mem ?_
    intro a b _ later both
    exact stop_le_start_of_le both.1 both.2 (fits b ((members b).1 later)).1

end Edit

/-! ### Edits in a row -/

/-- Edits of nonempty ranges between two offsets, each behind the one before. -/
def EditsFrom (lo hi : Nat) : List Edit → Prop
  | [] => lo ≤ hi
  | e :: es => lo ≤ e.start ∧ e.start < e.stop ∧ EditsFrom e.stop hi es

namespace EditsFrom

theorem le {lo hi : Nat} {es : List Edit} (h : EditsFrom lo hi es) : lo ≤ hi := by
  induction es generalizing lo with
  | nil => exact h
  | cons e es ih =>
    obtain ⟨first, solid, rest⟩ := h
    have := ih rest
    omega

theorem mono {lo hi lo' hi' : Nat} {es : List Edit} (h : EditsFrom lo hi es) (left : lo' ≤ lo)
    (right : hi ≤ hi') : EditsFrom lo' hi' es := by
  induction es generalizing lo lo' with
  | nil =>
    have := h.le
    simp only [EditsFrom]
    omega
  | cons e es ih =>
    obtain ⟨first, solid, rest⟩ := h
    exact ⟨by omega, solid, ih rest (Nat.le_refl _)⟩

theorem append {lo mid hi : Nat} {xs ys : List Edit} (left : EditsFrom lo mid xs)
    (right : EditsFrom mid hi ys) : EditsFrom lo hi (xs ++ ys) := by
  induction xs generalizing lo with
  | nil => exact right.mono left (Nat.le_refl _)
  | cons e es ih =>
    obtain ⟨first, solid, rest⟩ := left
    exact ⟨first, solid, ih rest⟩

theorem singleton {lo hi : Nat} {e : Edit} (left : lo ≤ e.start) (solid : e.start < e.stop)
    (right : e.stop ≤ hi) : EditsFrom lo hi [e] := ⟨left, solid, right⟩

theorem bounds {lo hi : Nat} {es : List Edit} (h : EditsFrom lo hi es) :
    ∀ e ∈ es, lo ≤ e.start ∧ e.start < e.stop ∧ e.stop ≤ hi := by
  induction es generalizing lo with
  | nil => simp
  | cons e es ih =>
    obtain ⟨first, solid, rest⟩ := h
    intro a member
    rcases List.mem_cons.1 member with rfl | later
    · exact ⟨first, solid, rest.le⟩
    · obtain ⟨next, inside⟩ := ih rest a later
      exact ⟨by omega, inside⟩

theorem pairwise {lo hi : Nat} {es : List Edit} (h : EditsFrom lo hi es) :
    es.Pairwise fun a b => a.stop ≤ b.start := by
  induction es generalizing lo with
  | nil => exact List.Pairwise.nil
  | cons e es ih =>
    obtain ⟨first, solid, rest⟩ := h
    exact List.pairwise_cons.2 ⟨fun a member => (rest.bounds a member).1, ih rest⟩

theorem apart {lo hi : Nat} {es : List Edit} (h : EditsFrom lo hi es) : es.Pairwise Edit.Apart :=
  h.pairwise.imp fun follows => Or.inl follows

end EditsFrom

/-- Edits that follow one another are what sorting makes of them in whatever order they were
found. -/
theorem Edit.sorted_eq_of_perm {es row : List Edit}
    (follow : row.Pairwise fun a b => a.start < b.start ∧ a.stop ≤ b.start)
    (found : es.Perm row) : Edit.sorted es = row := by
  have ascending : row.Pairwise fun a b => Edit.le a b = true := by
    refine follow.imp ?_
    intro a b order
    simp [Edit.le, order.1]
  refine List.Perm.eq_of_pairwise ?_ (Edit.sorted_pairwise es) ascending
    ((Edit.sorted_perm es).trans found)
  intro a b left right ab ba
  have inside : a ∈ row := ((Edit.sorted_perm es).trans found).mem_iff.1 left
  have begins : a.start = b.start := by
    simp only [Edit.le, Bool.or_eq_true, Bool.and_eq_true, decide_eq_true_eq, beq_iff_eq] at ab ba
    omega
  -- two edits in the row that begin at one offset are the same edit
  refine Decidable.byContradiction fun differ => ?_
  have distinct : row.Pairwise fun a b => a.start ≠ b.start :=
    follow.imp fun order => Nat.ne_of_lt order.1
  have : Std.Symm fun a b : Edit => a.start ≠ b.start := ⟨fun _ _ => Ne.symm⟩
  exact distinct.forall inside right differ begins

theorem EditsFrom.ascending {lo hi : Nat} {es : List Edit} (h : EditsFrom lo hi es) :
    es.Pairwise fun a b => a.start < b.start ∧ a.stop ≤ b.start := by
  refine h.pairwise.imp_of_mem ?_
  intro a b left _ follows
  have := (h.bounds a left).2.1
  omega

/-! ### Splicing -/

/-- The text between two offsets with edits carried out in a row. -/
def splice (text : List Char) (lo hi : Nat) : List Edit → List Char
  | [] => slice text lo hi
  | e :: es => slice text lo e.start ++ e.content.toList ++ splice text e.stop hi es

/-- The offset cuts the text, and so do the ends of the edits. -/
def Cuts (text : List Char) (es : List Edit) : Prop :=
  ∀ e ∈ es, IsBoundary text e.start ∧ IsBoundary text e.stop

theorem slice_append_splice {text : List Char} {l lo hi : Nat} {es : List Edit}
    (cutL : IsBoundary text l) (cutLo : IsBoundary text lo) (cutHi : IsBoundary text hi)
    (le : l ≤ lo) (row : EditsFrom lo hi es) (cuts : Cuts text es) :
    slice text l lo ++ splice text lo hi es = splice text l hi es := by
  cases es with
  | nil => exact slice_append cutL cutLo cutHi le row
  | cons e es =>
    obtain ⟨first, -, -⟩ := row
    simp only [splice, ← List.append_assoc]
    rw [slice_append cutL cutLo (cuts e (by simp)).1 le first]

-- Rows that meet are spliced one after the other.
theorem splice_append {text : List Char} {lo mid hi : Nat} {xs ys : List Edit}
    (cutLo : IsBoundary text lo) (cutMid : IsBoundary text mid) (cutHi : IsBoundary text hi)
    (left : EditsFrom lo mid xs) (right : EditsFrom mid hi ys) (cutsX : Cuts text xs)
    (cutsY : Cuts text ys) :
    splice text lo hi (xs ++ ys) = splice text lo mid xs ++ splice text mid hi ys := by
  induction xs generalizing lo with
  | nil => exact (slice_append_splice cutLo cutMid cutHi left right cutsY).symm
  | cons e es ih =>
    obtain ⟨-, -, rest⟩ := left
    simp only [List.cons_append, splice]
    rw [ih (cutsX e (by simp)).2 rest fun a member => cutsX a (List.mem_cons_of_mem _ member)]
    simp only [List.append_assoc]

-- What is put in at the very end comes last.
theorem splice_append_insertion (text : List Char) (lo hi : Nat) (es : List Edit)
    (content : String) :
    splice text lo hi (es ++ [.insertion hi content]) =
      splice text lo hi es ++ content.toList := by
  induction es generalizing lo with
  | nil => simp [splice, Edit.insertion]
  | cons e es ih => simp [splice, ih, List.append_assoc]

-- Cutting a text into pieces and joining them splices the edits in.
theorem joinPieces_pieces {text : List Char} {lo : Nat} {es : List Edit}
    (cut : IsBoundary text lo) (begins : ∀ e ∈ es, lo ≤ e.start) (fits : ∀ e ∈ es, e.Fits text)
    (follow : es.Pairwise fun a b => a.stop ≤ b.start) :
    joinPieces (pieces (textFrom text lo) lo es) = splice text lo (byteLength text) es := by
  induction es generalizing lo with
  | nil => simp [pieces, joinPieces, Piece.text, splice, slice_to_end cut]
  | cons e es ih =>
    obtain ⟨next, rest⟩ := List.pairwise_cons.1 follow
    obtain ⟨sound, cutStart, cutStop⟩ := fits e (by simp)
    have first := begins e (by simp)
    have tail := ih cutStop next (fun a member => fits a (List.mem_cons_of_mem _ member)) rest
    have after : ((splitAt? (textFrom text lo) (e.stop - lo)).map Prod.snd).getD [] =
        textFrom text e.stop := textFrom_textFrom cut cutStop (by omega)
    simp only [joinPieces] at tail
    simp only [pieces, joinPieces, List.flatMap_cons, Piece.text, splice, slice_textFrom cut,
      after, tail, List.append_assoc]

/-! ### The whole -/

/-- The text that comes of edits: the source itself when there is nothing to do. -/
def Applied.code (source : List Char) : Applied → List Char
  | .unchanged => source
  | .changed o => o.code

-- Edits that are found in any order, but follow one another and fit, are spliced in.
theorem applyEdits_of_row {text : List Char} {es row : List Edit} (name : Option String)
    (follow : row.Pairwise fun a b => a.start < b.start ∧ a.stop ≤ b.start)
    (fits : ∀ e ∈ row, e.Fits text) (found : es.Perm row) :
    ∃ a, applyEdits text es name = .ok a ∧ a.code text = splice text 0 (byteLength text) row ∧
      (a = .unchanged ↔ es = []) := by
  cases es with
  | nil =>
    obtain rfl : row = [] := List.nil_perm.1 found
    exact ⟨.unchanged, rfl, by simp [Applied.code, splice], by simp⟩
  | cons e es =>
    have order := Edit.sorted_eq_of_perm follow found
    have behind : row.Pairwise fun a b => a.stop ≤ b.start := follow.imp fun h => h.2
    have sound : Edit.firstFault text none (Edit.sorted (e :: es)) = none := by
      rw [order]
      exact Edit.firstFault_eq_none fits (by simp) behind
    have joined := joinPieces_pieces (isBoundary_zero text) (fun _ _ => Nat.zero_le _) fits behind
    rw [textFrom_zero] at joined
    refine ⟨_, by simp only [applyEdits, List.isEmpty_cons, Bool.false_eq_true, if_false, sound]; rfl,
      ?_, by simp⟩
    simp only [Applied.code, order, joined]

end ServerLink
