import ServerLink.Proofs.Replaced

/-!
Edits in any order. What comes of edits depends on the order in which they are given only where
several of them put something in at one place; the failure does not depend on the order at all.
-/

set_option autoImplicit false

namespace ServerLink

open Text

namespace Edit

def range (e : Edit) : Nat × Nat := (e.start, e.stop)

/-- The edit takes nothing away and puts its content in at the offset. -/
def insertsAt (offset : Nat) (e : Edit) : Bool := e.start == offset && e.stop == offset

theorem range_eq_of_le {a b : Edit} (ab : le a b = true) (ba : le b a = true) :
    a.range = b.range := by
  simp only [le, Bool.or_eq_true, Bool.and_eq_true, decide_eq_true_eq, beq_iff_eq] at ab ba
  simp only [range, Prod.mk.injEq]
  omega

/-! ### Failures look at ranges only -/

theorem fits_of_range {text : List Char} {a b : Edit} (same : a.range = b.range) :
    a.Fits text ↔ b.Fits text := by
  simp only [range, Prod.mk.injEq] at same
  simp only [Fits, same.1, same.2]

theorem firstFault_of_ranges {text : List Char} {xs ys : List Edit} {a b : Option Edit}
    (before : a.map range = b.map range) (same : xs.map range = ys.map range) :
    firstFault text a xs = firstFault text b ys := by
  induction xs generalizing ys a b with
  | nil =>
    have none : ys = [] := by simpa [eq_comm] using same
    rw [none]
    rfl
  | cons x xs ih =>
    obtain ⟨y, ys, rfl, first, rest⟩ : ∃ y ys', ys = y :: ys' ∧ x.range = y.range ∧
        xs.map range = ys'.map range := by
      cases ys with
      | nil => simp at same
      | cons y ys => exact ⟨y, ys, rfl, by simpa using same⟩
    have next : firstFault text (some x) xs = firstFault text (some y) ys :=
      ih (by simp [first]) rest
    have fits : x.Fits text ↔ y.Fits text := fits_of_range first
    simp only [range, Prod.mk.injEq] at first
    cases a with
    | none =>
      have none : b = none := by simpa [eq_comm] using before
      simp only [none, firstFault, fits, next, first.1, first.2]
    | some a =>
      obtain ⟨b, rfl, last⟩ : ∃ b', b = some b' ∧ a.range = b'.range := by
        cases b with
        | none => simp at before
        | some b => exact ⟨b, rfl, by simpa using before⟩
      simp only [range, Prod.mk.injEq] at last
      simp only [firstFault, fits, next, first.1, first.2, last.1, last.2]

theorem ranges_of_perm {es es' : List Edit} (found : es.Perm es') :
    (sorted es).map range = (sorted es').map range := by
  let below (a b : Nat × Nat) : Prop := a.1 < b.1 ∨ a.1 = b.1 ∧ a.2 ≤ b.2
  have ascending (xs : List Edit) : ((sorted xs).map range).Pairwise below := by
    apply List.pairwise_map.2
    apply (sorted_pairwise xs).imp
    intro a b order
    simpa [le, below, range] using order
  have same : ((sorted es).map range).Perm ((sorted es').map range) :=
    ((sorted_perm es).trans (found.trans (sorted_perm es').symm)).map range
  apply same.eq_of_pairwise _ (ascending es) (ascending es')
  intro a b _ _ ab ba
  apply Prod.ext <;> omega

/-! ### Edits that are carried out -/

theorem mem_iff_of_filter_range {xs ys : List Edit}
    (same : ∀ r, xs.filter (fun e => e.range == r) = ys.filter fun e => e.range == r) (e : Edit) :
    e ∈ xs ↔ e ∈ ys := by
  have here : e ∈ xs.filter (fun a => a.range == e.range) ↔
      e ∈ ys.filter (fun a => a.range == e.range) := by rw [same]
  simpa using here

-- Two lists in the order of ranges begin alike: the first range of neither is above the first range
-- of the other, so that the first edits are both the first of one range.
theorem eq_of_filter_range {xs ys : List Edit}
    (left : xs.Pairwise fun a b => le a b = true) (right : ys.Pairwise fun a b => le a b = true)
    (same : ∀ r, xs.filter (fun e => e.range == r) = ys.filter fun e => e.range == r) :
    xs = ys := by
  induction xs generalizing ys with
  | nil =>
    have none : ys = [] := List.eq_nil_iff_forall_not_mem.2 fun e member => by
      simpa using (mem_iff_of_filter_range same e).2 member
    rw [none]
  | cons x xs ih =>
    cases ys with
    | nil => simpa using (mem_iff_of_filter_range same x).1 (by simp)
    | cons y ys =>
      obtain ⟨first, left⟩ := List.pairwise_cons.1 left
      obtain ⟨first', right⟩ := List.pairwise_cons.1 right
      have self (e : Edit) : le e e = true := by simp [le]
      have xy : le x y = true := by
        rcases List.mem_cons.1 ((mem_iff_of_filter_range same y).2 (by simp)) with rfl | later
        · exact self y
        · exact first y later
      have yx : le y x = true := by
        rcases List.mem_cons.1 ((mem_iff_of_filter_range same x).1 (by simp)) with rfl | later
        · exact self x
        · exact first' x later
      have range := range_eq_of_le xy yx
      have here := same x.range
      simp only [List.filter_cons, range, beq_self_eq_true, if_true, List.cons.injEq] at here
      rw [here.1]
      congr 1
      apply ih left right
      intro r
      have rest := same r
      by_cases begins : y.range = r
      · simpa [List.filter_cons, range, begins, here.1] using rest
      · simpa [List.filter_cons, range, begins] using rest

-- Of edits that fit and do not overlap no two take away the same text.
theorem filter_range_of_apart {text : List Char} {es : List Edit}
    (fits : ∀ e ∈ es, e.Fits text) (apart : es.Pairwise Apart) {r : Nat × Nat} (wide : r.1 ≠ r.2) :
    (es.filter fun e => e.range == r).length ≤ 1 := by
  have here : ∀ e ∈ es.filter (fun e => e.range == r), e.range = r ∧ e.Fits text := by
    intro e member
    have inside := List.mem_filter.1 member
    exact ⟨by simpa using inside.2, fits e inside.1⟩
  have row : (es.filter fun e => e.range == r).Pairwise Apart := apart.filter _
  generalize es.filter (fun e => e.range == r) = kept at here row
  match kept with
  | [] => simp
  | [_] => simp
  | a :: b :: _ =>
    obtain ⟨first, fit, -⟩ := here a (by simp)
    obtain ⟨second, -⟩ := here b (by simp)
    have between : Apart a b := (List.pairwise_cons.1 row).1 b (by simp)
    simp only [range, Prod.ext_iff] at first second
    simp only [Apart] at between
    omega

theorem sorted_of_reordered {text : List Char} {es es' : List Edit} (found : es.Perm es')
    (insertions : ∀ n, es.filter (insertsAt n) = es'.filter (insertsAt n))
    (fits : ∀ e ∈ es, e.Fits text) (apart : es.Pairwise Apart) : sorted es = sorted es' := by
  have stable (xs : List Edit) (r : Nat × Nat) :
      (sorted xs).filter (fun e => e.range == r) = xs.filter fun e => e.range == r :=
    sorted_filter_range xs r.1 r.2
  apply eq_of_filter_range (sorted_pairwise es) (sorted_pairwise es')
  intro r
  rw [stable, stable]
  by_cases wide : r.1 = r.2
  next =>
    have empty : (fun e : Edit => e.range == r) = insertsAt r.1 := by
      funext e
      obtain ⟨start, stop⟩ := r
      obtain rfl : start = stop := wide
      rfl
    rw [empty]
    exact insertions r.1
  next =>
    -- at most one edit takes the range away, and one edit has only one order
    have few := filter_range_of_apart fits apart wide
    have same := found.filter fun e => e.range == r
    generalize es.filter (fun e => e.range == r) = kept at few same
    match kept with
    | [] => exact (List.nil_perm.1 same).symm
    | [_] => exact (List.perm_singleton.1 same.symm).symm
    | _ :: _ :: _ => simp at few

end Edit

/-- The order in which edits are given does not matter, as long as those that put something in at
one place keep theirs: the text is the same, and so is its map; or the failure is the same, with the
same ranges. -/
theorem edits_in_any_order {text : List Char} {es es' : List Edit} (found : es.Perm es')
    (insertions : ∀ n, es.filter (Edit.insertsAt n) = es'.filter (Edit.insertsAt n))
    (name : Option String) : applyEdits text es name = applyEdits text es' name := by
  have faults : Edit.firstFault text none (Edit.sorted es) =
      Edit.firstFault text none (Edit.sorted es') :=
    Edit.firstFault_of_ranges rfl (Edit.ranges_of_perm found)
  have filled : es.isEmpty = es'.isEmpty := by
    have sizes := found.length_eq
    cases es <;> cases es' <;> simp_all
  cases accepted : Edit.firstFault text none (Edit.sorted es) with
  | some cause => simp only [applyEdits, filled, ← faults, accepted]
  | none =>
    obtain ⟨fits, apart⟩ := Edit.firstFault_sorted_eq_none_iff.1 accepted
    have order := Edit.sorted_of_reordered found insertions fits apart
    simp only [applyEdits, filled, order]

/-- Insertions at the ends of a range and at one place, and ranges that overlap, found in another
order. -/
theorem edits_in_any_order_adjacent :
    let es : List Edit := [.insertion 3 "!", ⟨1, 3, "é"⟩, .insertion 1 "<", .insertion 1 "-"]
    let es' : List Edit := [.insertion 1 "<", .insertion 1 "-", ⟨1, 3, "é"⟩, .insertion 3 "!"]
    let overlapping : List Edit := [⟨2, 4, "y"⟩, .insertion 1 "<", ⟨0, 3, "x"⟩]
    (es.Perm es' ∧ (∀ n, es.filter (Edit.insertsAt n) = es'.filter (Edit.insertsAt n)) ∧
      ∀ name, applyEdits "abcd".toList es name = applyEdits "abcd".toList es' name) ∧
    overlapping.Perm overlapping.reverse ∧
      (∀ n, overlapping.filter (Edit.insertsAt n) =
        overlapping.reverse.filter (Edit.insertsAt n)) ∧
      ∀ name, applyEdits "abcd".toList overlapping name =
        applyEdits "abcd".toList overlapping.reverse name := by
  intro es es' overlapping
  have found : es.Perm es' := by decide
  have insertions (n : Nat) : es.filter (Edit.insertsAt n) = es'.filter (Edit.insertsAt n) := by
    by_cases first : 1 = n
    · subst first
      decide
    · by_cases last : 3 = n <;> simp [es, es', Edit.insertsAt, Edit.insertion, first, last]
  have turned : overlapping.Perm overlapping.reverse := by decide
  have single (n : Nat) : overlapping.filter (Edit.insertsAt n) =
      overlapping.reverse.filter (Edit.insertsAt n) := by
    have narrow : ¬ (2 = n ∧ 4 = n) ∧ ¬ (0 = n ∧ 3 = n) := by omega
    by_cases first : 1 = n <;>
      simp [overlapping, Edit.insertsAt, Edit.insertion, first, narrow.1, narrow.2]
  exact ⟨⟨found, insertions, edits_in_any_order found insertions⟩, turned, single,
    edits_in_any_order turned single⟩

end ServerLink
