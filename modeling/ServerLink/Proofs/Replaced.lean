import Mathlib.Algebra.Ring.Nat
import ServerLink.Proofs.Splice

/-!
What comes of any edits at all. They are carried out exactly when each fits the text and no two of
them overlap; then each range gives way to its content and all else is kept. Otherwise the failure
tells the first edit, in the order of ranges, that does not fit or reaches into the one before it.
-/

set_option autoImplicit false

namespace ServerLink

open Text

-- Beginnings of one text that are of one length are the same.
theorem Text.append_inj_of_byteLength {a b c d : List Char} (same : a ++ b = c ++ d)
    (size : byteLength a = byteLength c) : a = c ∧ b = d := by
  have cut := splitAt?_byteLength a b
  rw [same, size, splitAt?_byteLength] at cut
  simpa [eq_comm] using cut

namespace Edit

/-- How much text an edit takes away. -/
def width (e : Edit) : Nat := e.stop - e.start

/-- How much text an edit puts in. -/
def gain (e : Edit) : Nat := byteLength e.content.toList

theorem fits_iff {text : List Char} {e : Edit} :
    e.Fits text ↔ e.start ≤ e.stop ∧ e.stop ≤ byteLength text ∧
      IsBoundary text e.start ∧ IsBoundary text e.stop :=
  ⟨fun ⟨order, first, second⟩ => ⟨order, second.le_byteLength, first, second⟩,
    fun ⟨order, _, first, second⟩ => ⟨order, first, second⟩⟩

-- Edits of one range stay in the order they were given.
theorem sorted_filter_range (es : List Edit) (start stop : Nat) :
    let here : Edit → Bool := fun e => e.start == start && e.stop == stop
    (sorted es).filter here = es.filter here := by
  intro here
  have level : (es.filter here).Pairwise fun a b => le a b = true := by
    have any : (es.filter here).Pairwise fun _ _ => True :=
      List.pairwise_of_forall fun _ _ => trivial
    refine any.imp_of_mem fun {a b} first second _ => ?_
    simp only [List.mem_filter, here, Bool.and_eq_true, beq_iff_eq] at first second
    simp [le, first.2, second.2]
  have kept : (es.filter here).Sublist (sorted es) :=
    List.sublist_mergeSort le_trans le_total level List.filter_sublist
  have inside : (es.filter here).Sublist ((sorted es).filter here) := by
    simpa [List.filter_filter] using kept.filter here
  exact (inside.eq_of_length ((sorted_perm es).filter here).length_eq.symm).symm

/-! ### The first fault -/

/-- What is wrong with an edit that comes behind others in the order of ranges. -/
inductive Fault (text : List Char) (before : Option Edit) (e : Edit) : Failure → Prop where
  | outside (misfit : ¬ e.Fits text) :
      Fault text before e (.outside e.start e.stop (byteLength text))
  | overlap (b : Edit) (fits : e.Fits text) (last : before = some b) (reaches : e.start < b.stop) :
      Fault text before e (.overlap (b.start, b.stop) (e.start, e.stop))

/-- The failure is that of the first edit with a fault: those before it fit and follow one
another. -/
def FirstFault (text : List Char) (es : List Edit) (cause : Failure) : Prop :=
  ∃ before e after, es = before ++ e :: after ∧ (∀ a ∈ before, a.Fits text) ∧
    (before.Pairwise fun a b => a.stop ≤ b.start) ∧ Fault text before.getLast? e cause

theorem firstFault_eq_some {text : List Char} {es : List Edit} {before : Option Edit}
    {cause : Failure} (found : firstFault text before es = some cause) :
    ∃ passed e after, es = passed ++ e :: after ∧ firstFault text before passed = none ∧
      Fault text (passed.getLast?.or before) e cause := by
  induction es generalizing before with
  | nil => simp [firstFault] at found
  | cons e es ih =>
    by_cases fit : e.Fits text
    case neg =>
      obtain rfl : .outside e.start e.stop (byteLength text) = cause := by
        simpa [firstFault, fit] using found
      exact ⟨[], e, es, rfl, rfl, .outside fit⟩
    -- the edit fits, so it is at fault or the fault comes later
    have later (clear : firstFault text before [e] = none)
        (rest : firstFault text (some e) es = some cause) :
        ∃ passed f after, e :: es = passed ++ f :: after ∧ firstFault text before passed = none ∧
          Fault text (passed.getLast?.or before) f cause := by
      obtain ⟨passed, f, after, split, sound, fault⟩ := ih rest
      refine ⟨e :: passed, f, after, by rw [split]; rfl, ?_, ?_⟩
      · cases before with
        | none => simpa [firstFault, fit] using sound
        | some b =>
          have apart : ¬ e.start < b.stop := fun reaches => by
            simp [firstFault, fit, reaches] at clear
          simpa only [firstFault, if_pos fit, if_neg apart] using sound
      · cases passed with
        | nil => simpa using fault
        | cons p ps =>
          rw [List.getLast?_cons_cons]
          simpa [List.getLast?_cons] using fault
    cases before with
    | none => exact later (by simp [firstFault, fit]) (by simpa [firstFault, fit] using found)
    | some b =>
      by_cases reaches : e.start < b.stop
      · obtain rfl : .overlap (b.start, b.stop) (e.start, e.stop) = cause := by
          simpa [firstFault, fit, reaches] using found
        exact ⟨[], e, es, rfl, rfl, .overlap b fit rfl reaches⟩
      · exact later (by simp [firstFault, fit, reaches])
          (by simpa only [firstFault, if_pos fit, if_neg reaches] using found)

theorem firstFault_of_eq_some {text : List Char} {es : List Edit} {cause : Failure}
    (found : firstFault text none es = some cause) : FirstFault text es cause := by
  obtain ⟨passed, e, after, split, sound, fault⟩ := firstFault_eq_some found
  obtain ⟨fits, -, follow⟩ := of_firstFault_eq_none sound
  exact ⟨passed, e, after, split, fits, follow, by simpa using fault⟩

end Edit

/-! ### The edited text -/

/-- The text from an offset on becomes another by edits in their order: what stands before an edit
is kept, and the edit's content stands in the place of its range. -/
inductive Replaced : Nat → List Char → List Edit → List Char → Prop where
  | rest (offset : Nat) (text : List Char) : Replaced offset text [] text
  | edit {offset : Nat} {keep gone text made : List Char} {e : Edit} {es : List Edit}
      (start : e.start = offset + byteLength keep) (stop : e.stop = e.start + byteLength gone)
      (more : Replaced e.stop text es made) :
      Replaced offset (keep ++ gone ++ text) (e :: es) (keep ++ e.content.toList ++ made)

theorem replaced_splice {text : List Char} {lo : Nat} {es : List Edit} (cut : IsBoundary text lo)
    (begins : ∀ e ∈ es, lo ≤ e.start) (fits : ∀ e ∈ es, e.Fits text)
    (follow : es.Pairwise fun a b => a.stop ≤ b.start) :
    Replaced lo (textFrom text lo) es (splice text lo (byteLength text) es) := by
  induction es generalizing lo with
  | nil => simpa [splice, slice_to_end cut] using Replaced.rest lo (textFrom text lo)
  | cons e es ih =>
    obtain ⟨next, behind⟩ := List.pairwise_cons.1 follow
    obtain ⟨order, cutStart, cutStop⟩ := fits e (by simp)
    have more := ih cutStop next (fun a member => fits a (List.mem_cons_of_mem _ member)) behind
    obtain ⟨before, keep, after, rfl, rfl, start⟩ := cut.split cutStart (begins e (by simp))
    obtain ⟨pre, post, same, stop⟩ := cutStop
    obtain ⟨gone, rfl, rfl⟩ := append_eq_of_byteLength_le same (by omega)
    have kept : slice (before ++ keep ++ (gone ++ post)) (byteLength before) e.start = keep := by
      rw [← start, slice_of_append]
    have left : textFrom (before ++ keep ++ (gone ++ post)) (byteLength before) =
        keep ++ gone ++ post := by
      simp
    have right : textFrom (before ++ keep ++ (gone ++ post)) e.stop = post := by
      rw [← stop, ← List.append_assoc, textFrom_byteLength]
    rw [right] at more
    rw [splice, kept, left]
    refine .edit ?_ ?_ more <;> simp only [byteLength_append] at start stop <;> omega

-- What is taken away and what is put in make up the difference of the lengths.
theorem Replaced.byteLength_made {offset : Nat} {text made : List Char} {es : List Edit}
    (h : Replaced offset text es made) :
    byteLength made + (es.map Edit.width).sum = byteLength text + (es.map Edit.gain).sum := by
  induction h with
  | rest offset text => simp
  | edit start stop more ih =>
    simp only [List.map_cons, List.sum_cons, Edit.width, Edit.gain, byteLength_append] at ih ⊢
    omega

-- Text that is kept may stand before.
theorem Replaced.keep {offset : Nat} {text made : List Char} {es : List Edit} (kept : List Char)
    (h : Replaced (offset + byteLength kept) text es made) :
    Replaced offset (kept ++ text) es (kept ++ made) := by
  cases h with
  | rest => exact .rest offset (kept ++ text)
  | @edit _ keep gone text made e es start stop more =>
    have begins : e.start = offset + byteLength (kept ++ keep) := by
      simp only [byteLength_append]
      omega
    simpa only [List.append_assoc] using
      @Replaced.edit offset (kept ++ keep) gone text made e es begins stop more

-- Texts that are edited one behind the other.
theorem Replaced.append {offset : Nat} {left right before after : List Char} {xs ys : List Edit}
    (first : Replaced offset left xs before)
    (second : Replaced (offset + byteLength left) right ys after) :
    Replaced offset (left ++ right) (xs ++ ys) (before ++ after) := by
  induction first with
  | rest offset text => exact second.keep text
  | @edit offset keep gone text made e es start stop more ih =>
    have next : Replaced e.stop (text ++ right) (es ++ ys) (made ++ after) := by
      apply ih
      have reached : offset + byteLength (keep ++ gone ++ text) = e.stop + byteLength text := by
        simp only [byteLength_append]
        omega
      rwa [reached] at second
    simpa only [List.append_assoc, List.cons_append] using Replaced.edit start stop next

theorem Replaced.of_cons {lo : Nat} {text made : List Char} {e : Edit} {es : List Edit}
    (h : Replaced lo text (e :: es) made) :
    ∃ keep gone rest more, text = keep ++ gone ++ rest ∧ made = keep ++ e.content.toList ++ more ∧
      e.start = lo + byteLength keep ∧ e.stop = e.start + byteLength gone ∧
      Replaced e.stop rest es more := by
  cases h with
  | @edit _ keep gone rest more _ _ start stop next =>
    exact ⟨keep, gone, rest, more, rfl, rfl, start, stop, next⟩

-- Edits begin behind the offset they are counted from.
theorem Replaced.le_start {lo : Nat} {text made : List Char} {es : List Edit}
    (h : Replaced lo text es made) : ∀ e ∈ es, lo ≤ e.start := by
  induction h with
  | rest => simp
  | edit start stop more ih =>
    intro e member
    rcases List.mem_cons.1 member with rfl | later
    · omega
    · have := ih e later
      omega

-- There is only one text that edits make.
theorem Replaced.unique {offset : Nat} {text made other : List Char} {es : List Edit}
    (h : Replaced offset text es made) (k : Replaced offset text es other) : made = other := by
  induction h generalizing other with
  | rest => cases k with | rest => rfl
  | @edit offset keep gone text made e es start stop more ih =>
    generalize same : keep ++ gone ++ text = whole at k
    cases k with
    | @edit _ keep' gone' text' _ _ _ start' stop' more' =>
      simp only [List.append_assoc] at same
      obtain ⟨rfl, rest⟩ := append_inj_of_byteLength same (by omega)
      obtain ⟨rfl, rfl⟩ := append_inj_of_byteLength rest (by omega)
      rw [ih more']

-- Edits that make a text fit and follow one another.
theorem Replaced.fits {offset : Nat} {text made : List Char} {es : List Edit}
    (h : Replaced offset text es made) (before : List Char) (size : byteLength before = offset) :
    (∀ e ∈ es, e.Fits (before ++ text) ∧ offset ≤ e.start) ∧
      es.Pairwise fun a b => a.stop ≤ b.start := by
  induction h generalizing before with
  | rest => simp
  | @edit offset keep gone text made e es start stop more ih =>
    have reached : byteLength (before ++ keep ++ gone) = e.stop := by
      simp only [byteLength_append]
      omega
    obtain ⟨fits, follow⟩ := ih _ reached
    have fit : e.Fits (before ++ (keep ++ gone ++ text)) :=
      ⟨by omega, ⟨before ++ keep, gone ++ text, by simp, by simp only [byteLength_append]; omega⟩,
        ⟨before ++ keep ++ gone, text, by simp, reached⟩⟩
    refine ⟨fun a member => ?_, List.pairwise_cons.2 ⟨fun a member => (fits a member).2, follow⟩⟩
    rcases List.mem_cons.1 member with rfl | later
    · exact ⟨fit, by omega⟩
    · obtain ⟨fit, behind⟩ := fits a later
      exact ⟨by simpa only [List.append_assoc] using fit, by omega⟩

theorem applyEdits_eq_ok {text : List Char} {es : List Edit} {name : Option String} {a : Applied}
    (some : es ≠ []) (carried : applyEdits text es name = .ok a) :
    ∃ out, a = .changed out ∧ Replaced 0 text (Edit.sorted es) out.code := by
  have filled : es.isEmpty = false := by simpa using some
  simp only [applyEdits, filled, Bool.false_eq_true, if_false] at carried
  split at carried
  · simp at carried
  · rename_i sound
    obtain ⟨fits, -, follow⟩ := Edit.of_firstFault_eq_none sound
    have made := replaced_splice (isBoundary_zero text) (fun _ _ => Nat.zero_le _) fits follow
    have joined := joinPieces_pieces (isBoundary_zero text) (fun _ _ => Nat.zero_le _) fits follow
    rw [textFrom_zero] at made joined
    obtain rfl := Except.ok.inj carried
    exact ⟨_, rfl, joined ▸ made⟩

-- Edits of nonempty ranges in their order make of a text what can be made of it.
theorem applyEdits_of_replaced {text made : List Char} {es : List Edit}
    (h : Replaced 0 text es made) (solid : ∀ e ∈ es, e.start < e.stop) (name : Option String) :
    ∃ a, applyEdits text es name = .ok a ∧ a.code text = made := by
  obtain ⟨fits, follow⟩ := h.fits [] rfl
  have ascending : es.Pairwise fun a b => a.start < b.start ∧ a.stop ≤ b.start := by
    refine follow.imp_of_mem fun here _ order => ?_
    have := solid _ here
    omega
  obtain ⟨a, carried, code, -⟩ :=
    applyEdits_of_row name ascending (fun e member => (fits e member).1) (List.Perm.refl es)
  have spliced := replaced_splice (isBoundary_zero text) (fun _ _ => Nat.zero_le _)
    (fun e member => (fits e member).1) follow
  rw [textFrom_zero] at spliced
  exact ⟨a, carried, code.trans (spliced.unique h)⟩

/-- Edits are carried out exactly when each range lies in the text, cuts no character, and no two of
them overlap. The edits are then taken in the order of their ranges, those of one range in the order
they were given; each range gives way to its content, and what stands between them is kept. If they
are not carried out, the failure is that of the first edit at fault. -/
theorem edits_replaced {text : List Char} {es : List Edit} (some : es ≠ []) (name : Option String) :
    ((∃ a, applyEdits text es name = .ok a) ↔
      (∀ e ∈ es, e.start ≤ e.stop ∧ e.stop ≤ byteLength text ∧
        IsBoundary text e.start ∧ IsBoundary text e.stop) ∧
      es.Pairwise fun a b => a.stop ≤ b.start ∨ b.stop ≤ a.start) ∧
    ((Edit.sorted es).Perm es ∧ ((Edit.sorted es).Pairwise fun a b => Edit.le a b = true) ∧
      ∀ start stop, (Edit.sorted es).filter (fun e => e.start == start && e.stop == stop) =
        es.filter fun e => e.start == start && e.stop == stop) ∧
    (∀ a, applyEdits text es name = .ok a → ∃ out, a = .changed out ∧
      Replaced 0 text (Edit.sorted es) out.code ∧
      byteLength out.code + (es.map Edit.width).sum =
        byteLength text + (es.map Edit.gain).sum) ∧
    ∀ cause, applyEdits text es name = .error cause →
      Edit.FirstFault text (Edit.sorted es) cause := by
  have filled : es.isEmpty = false := by simpa using some
  have order := Edit.sorted_perm es
  refine ⟨?_, ⟨order, Edit.sorted_pairwise es, Edit.sorted_filter_range es⟩, fun a carried => ?_,
    fun cause failed => ?_⟩
  · have accepted : Edit.firstFault text none (Edit.sorted es) = none ↔
        (∀ e ∈ es, e.Fits text) ∧ es.Pairwise Edit.Apart := Edit.firstFault_sorted_eq_none_iff
    simp only [Edit.fits_iff] at accepted
    refine Iff.trans ?_ accepted
    simp only [applyEdits, filled, Bool.false_eq_true, if_false]
    cases Edit.firstFault text none (Edit.sorted es) <;> simp
  · obtain ⟨out, changed, made⟩ := applyEdits_eq_ok some carried
    have size := made.byteLength_made
    rw [(order.map Edit.width).sum_nat, (order.map Edit.gain).sum_nat] at size
    exact ⟨out, changed, made, size⟩
  · simp only [applyEdits, filled, Bool.false_eq_true, if_false] at failed
    split at failed
    · rename_i failure found
      obtain rfl : failure = cause := by simpa using failed
      exact Edit.firstFault_of_eq_some found
    · simp at failed

/-- Insertions at the ends of a range and at one place are carried out, and a range that the one
before it reaches into is told with it. -/
theorem edits_replaced_adjacent :
    let es : List Edit := [.insertion 3 "!", ⟨1, 3, "é"⟩, .insertion 1 "<", .insertion 1 "-"]
    let overlapping : List Edit := [⟨2, 4, "y"⟩, ⟨0, 3, "x"⟩]
    (es ≠ [] ∧ ∃ out, applyEdits "abcd".toList es none = .ok (.changed out) ∧
      out.code = "a<-é!d".toList ∧ Replaced 0 "abcd".toList (Edit.sorted es) out.code) ∧
    (overlapping ≠ [] ∧
      applyEdits "abcd".toList overlapping none = .error (.overlap (0, 3) (2, 4)) ∧
      Edit.FirstFault "abcd".toList (Edit.sorted overlapping) (.overlap (0, 3) (2, 4))) := by
  intro es overlapping
  have order : Edit.sorted es =
      [.insertion 1 "<", .insertion 1 "-", ⟨1, 3, "é"⟩, .insertion 3 "!"] := by
    simp [es, Edit.sorted, List.mergeSort, List.MergeSort.Internal.splitInTwo, Edit.le,
      Edit.insertion]
  have order' : Edit.sorted overlapping = [⟨0, 3, "x"⟩, ⟨2, 4, "y"⟩] := by
    simp [overlapping, Edit.sorted, List.mergeSort, List.MergeSort.Internal.splitInTwo, Edit.le]
  obtain ⟨-, -, made, -⟩ := @edits_replaced "abcd".toList es (by decide) none
  obtain ⟨-, -, -, fault⟩ :=
    @edits_replaced "abcd".toList overlapping (by decide) none
  refine ⟨⟨by decide, ?_⟩, by decide, ?_⟩
  · have carried : ∃ out, applyEdits "abcd".toList es none = .ok (.changed out) ∧
        out.code = "a<-é!d".toList := by
      simp only [applyEdits, order]
      exact ⟨_, rfl, by decide +kernel⟩
    obtain ⟨out, carried, code⟩ := carried
    obtain ⟨other, same, replaced, -⟩ := made _ carried
    obtain rfl := Applied.changed.inj same
    exact ⟨out, carried, code, replaced⟩
  · have failed : applyEdits "abcd".toList overlapping none = .error (.overlap (0, 3) (2, 4)) := by
      simp only [applyEdits, order']
      rfl
    exact ⟨failed, fault _ failed⟩

end ServerLink
