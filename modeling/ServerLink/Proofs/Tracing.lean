import ServerLink.Proofs.Cuts

/-!
What source maps say. Every character that is kept can be traced back: the last mapping at or before
it stands on its line, and from there on the edited text is the text of the source. Text that is put
in is traced to the place of its range, and nothing else is mapped.
-/

set_option autoImplicit false

namespace ServerLink

open Text

/-! ### All mappings -/

/-- The mapping that a place in the edited text is traced by. -/
def LastAt (ms : List Mapping) (p : Position) (m : Mapping) : Prop :=
  m ∈ ms ∧ m.generated ≤ p ∧ ∀ a ∈ ms, a.generated ≤ p → a.generated ≤ m.generated

theorem LastAt.append_right {xs ys : List Mapping} {p : Position} {m : Mapping}
    (last : LastAt xs p m) (later : ∀ y ∈ ys, p < y.generated) : LastAt (xs ++ ys) p m := by
  refine ⟨List.mem_append_left _ last.1, last.2.1, fun a member reached => ?_⟩
  rcases List.mem_append.1 member with here | there
  · exact last.2.2 a here reached
  · have order := later a there
    simp only [Position.lt_iff, Position.le_iff] at *
    omega

theorem LastAt.append_left {xs ys : List Mapping} {p : Position} {m : Mapping}
    (last : LastAt ys p m) (earlier : ∀ x ∈ xs, x.generated ≤ m.generated) :
    LastAt (xs ++ ys) p m := by
  refine ⟨List.mem_append_right _ last.1, last.2.1, fun a member reached => ?_⟩
  rcases List.mem_append.1 member with there | here
  · exact earlier a there
  · exact last.2.2 a here reached

-- Mappings of kept text begin lines, so that none of them stands between the beginning of a line and
-- a character of it.
theorem lastAt_kept {offset size : Nat} {left right : List Char} (filled : right ≠ [])
    (inside : offset + byteLength left < size) (p : Position) :
    ∃ earlier line, left = earlier ++ line ∧ '\n' ∉ line ∧
      LastAt ((Piece.kept offset (left ++ right)).mappings size p) (p.advance left)
        ⟨p.advance earlier, offset + byteLength earlier⟩ := by
  obtain ⟨earlier, line, rfl, starts, plain⟩ := exists_startsLine left
  refine ⟨earlier, line, rfl, plain, mem_mappings_kept.2 ⟨earlier, line ++ right, by simp,
    by simp [filled], starts, ?_, rfl⟩, by simpa using (p.advance earlier).advance_le line, ?_⟩
  · rw [byteLength_append] at inside
    omega
  · intro m member reached
    obtain ⟨pre, post, split, -, begins, -, rfl⟩ := mem_mappings_kept.1 member
    rw [List.append_assoc] at split
    rcases List.append_eq_append_iff.1 split with ⟨more, rfl, rest⟩ | ⟨more, rfl, -⟩
    case inr => simpa using (p.advance pre).advance_le more
    have short : ∃ past, line = more ++ past := by
      rcases List.append_eq_append_iff.1 rest with ⟨past, rfl, -⟩ | ⟨past, split, -⟩
      · by_cases none : past = []
        · exact ⟨[], by simp [none]⟩
        · have beyond := (p.advance (earlier ++ line)).advance_lt none
          simp only [Position.advance_append, Position.lt_iff, Position.le_iff] at *
          omega
      · exact ⟨past, split⟩
    obtain ⟨past, rfl⟩ := short
    have none : more = [] := by
      by_contra filled
      have last : (earlier ++ more).getLast? = more.getLast? := by
        obtain ⟨d, ds, same⟩ := List.exists_cons_of_ne_nil filled
        rw [List.getLast?_append]
        simp [same, List.getLast?_cons]
      have feed : more.getLast? = some '\n' := by
        rw [← last]
        exact begins.resolve_left (by simp [filled])
      exact plain (List.mem_append_left _ (List.mem_of_getLast? feed))
    simpa [none] using (p.advance earlier).advance_le []

/-! ### What mappings say -/

section Pieces

variable {lo size : Nat} {text made : List Char} {row : List Edit}

theorem pieces_cons {keep gone rest : List Char} {e : Edit} (es : List Edit)
    (start : e.start = lo + byteLength keep) (stop : e.stop = e.start + byteLength gone) :
    pieces (keep ++ gone ++ rest) lo (e :: es) =
      .kept lo keep :: .added e.start e.content.toList :: pieces rest e.stop es := by
  have width : e.start - lo = byteLength keep := by omega
  have reach : e.stop - lo = byteLength (keep ++ gone) := by
    rw [byteLength_append]
    omega
  have kept : slice (keep ++ gone ++ rest) 0 (byteLength keep) = keep := by
    rw [List.append_assoc]
    simp [slice, splitAt?_byteLength]
  simp only [pieces, width, reach, kept, splitAt?_byteLength, Option.map_some, Option.getD_some]

theorem mappingsOf_cons {keep gone rest : List Char} {e : Edit} (es : List Edit)
    (start : e.start = lo + byteLength keep) (stop : e.stop = e.start + byteLength gone)
    (p : Position) :
    mappingsOf size p (pieces (keep ++ gone ++ rest) lo (e :: es)) =
      (Piece.kept lo keep).mappings size p ++
        ((Piece.added e.start e.content.toList).mappings size (p.advance keep) ++
          mappingsOf size ((p.advance keep).advance e.content.toList) (pieces rest e.stop es)) := by
  rw [pieces_cons es start stop]
  rfl

theorem mappingsOf_nil (p : Position) :
    mappingsOf size p (pieces text lo []) = (Piece.kept lo text).mappings size p := by
  simp [pieces, mappingsOf]

theorem mem_mappingsOf (h : Replaced lo text row made) (inside : lo + byteLength text = size)
    (p : Position) (m : Mapping) :
    m ∈ mappingsOf size p (pieces text lo row) ↔
      ∃ c : Cut lo text row, m = ⟨c.place p, c.offset⟩ ∧
        (c.Keeps ∧ c.Begins ∨ (∃ e, c.Puts e) ∧ c.offset < size) := by
  induction h generalizing p with
  | rest lo text =>
    rw [mappingsOf_nil, mem_mappings_kept]
    constructor
    · rintro ⟨pre, post, split, filled, starts, -, rfl⟩
      exact ⟨.unedited lo pre post split.symm, rfl, Or.inl ⟨⟨filled, by simp [Cut.unedited]⟩,
        Or.inl starts⟩⟩
    · rintro ⟨c, rfl, why⟩
      obtain ⟨pre, post, rfl, rfl⟩ := c.cases_unedited
      have parts : post ≠ [] ∧ StartsLine pre := by
        simpa [Cut.Keeps, Cut.Begins, Cut.Puts, Cut.unedited] using why
      have positive : byteLength post ≠ 0 := by simpa [byteLength_eq_zero] using parts.1
      rw [byteLength_append] at inside
      exact ⟨pre, post, rfl, parts.1, parts.2, by omega, rfl⟩
  | @edit lo keep gone rest made e es start stop more ih =>
    have reached : e.stop + byteLength rest = size := by
      simp only [byteLength_append] at inside
      omega
    rw [mappingsOf_cons es start stop, List.mem_append, List.mem_append, mem_mappings_kept,
      mem_mappings_added, ih reached]
    constructor
    · rintro (⟨pre, post, split, filled, starts, -, rfl⟩ | ⟨filled, here, rfl⟩ | ⟨c, rfl, why⟩)
      · refine ⟨.within start stop more pre post split.symm, rfl, Or.inl ⟨?_, ?_⟩⟩
        · exact (Cut.keeps_within ..).2 filled
        · exact (Cut.begins_within ..).2 starts
      · refine ⟨.within start stop more keep [] (by simp), by rw [start]; rfl, Or.inr ⟨⟨e, ?_⟩, ?_⟩⟩
        · exact (Cut.puts_within ..).2 ⟨rfl, rfl, filled⟩
        · rwa [start] at here
      · exact ⟨.behind start stop c, by rw [Cut.place_behind, Cut.offset_behind], by
          simpa only [Cut.keeps_behind, Cut.begins_behind, Cut.puts_behind, Cut.offset_behind]
            using why⟩
    · rintro ⟨c, rfl, why⟩
      rcases c.cases_edit start stop more with ⟨pre, post, split, rfl⟩ | ⟨c, rfl⟩
      · rw [Cut.keeps_within, Cut.begins_within] at why
        simp only [Cut.puts_within] at why
        rcases why with ⟨filled, starts⟩ | ⟨⟨-, -, rfl, filled⟩, here⟩
        · have positive : byteLength post ≠ 0 := by simpa [byteLength_eq_zero] using filled
          have size := congrArg byteLength split
          simp only [byteLength_append] at size inside
          exact Or.inl ⟨pre, post, split.symm, filled, starts, by omega, rfl⟩
        · obtain rfl : pre = keep := by simpa using split
          exact Or.inr (Or.inl ⟨filled, start ▸ here, by rw [start]; rfl⟩)
      · rw [Cut.place_behind, Cut.offset_behind]
        simp only [Cut.keeps_behind, Cut.begins_behind, Cut.puts_behind, Cut.offset_behind] at why
        exact Or.inr (Or.inr ⟨c, rfl, why⟩)

-- What a kept character is traced by begins its line, or the stretch of its line that is kept.
theorem lastAt_mappingsOf (h : Replaced lo text row made) (inside : lo + byteLength text = size)
    (p : Position) (c : Cut lo text row) (keeps : c.Keeps) :
    ∃ earlier source line, c.before = earlier ++ line ∧ c.left = source ++ line ∧ '\n' ∉ line ∧
      LastAt (mappingsOf size p (pieces text lo row)) (c.place p)
        ⟨p.advance earlier, lo + byteLength source⟩ := by
  induction h generalizing p with
  | rest lo text =>
    obtain ⟨left, right, rfl, rfl⟩ := c.cases_unedited
    have filled : right ≠ [] := keeps.1
    have positive : byteLength right ≠ 0 := by simpa [byteLength_eq_zero] using filled
    rw [byteLength_append] at inside
    rw [mappingsOf_nil]
    obtain ⟨earlier, line, split, plain, last⟩ :=
      lastAt_kept filled (show lo + byteLength left < size by omega) p
    exact ⟨earlier, earlier, line, split, split, plain, last⟩
  | @edit lo keep gone rest made e es start stop more ih =>
    have reached : e.stop + byteLength rest = size := by
      simp only [byteLength_append] at inside
      omega
    rw [mappingsOf_cons es start stop]
    rcases c.cases_edit start stop more with ⟨left, right, split, rfl⟩ | ⟨c, rfl⟩
    · have filled : right ≠ [] := (Cut.keeps_within ..).1 keeps
      have positive : byteLength right ≠ 0 := by simpa [byteLength_eq_zero] using filled
      have width := congrArg byteLength split
      simp only [byteLength_append] at width inside
      obtain ⟨earlier, line, parts, plain, last⟩ :=
        lastAt_kept filled (show lo + byteLength left < size by omega) p
      rw [split] at last
      refine ⟨earlier, earlier, line, parts, parts, plain, last.append_right fun m member => ?_⟩
      have later : p.advance keep ≤ m.generated := by
        have tail : m ∈ mappingsOf size (p.advance keep)
            (.added e.start e.content.toList :: pieces rest e.stop es) := member
        exact (bounds_of_mem_mappingsOf tail).1
      have before := (p.advance left).advance_lt filled
      rw [← split, Position.advance_append] at later
      change p.advance left < m.generated
      simp only [Position.lt_iff, Position.le_iff] at *
      omega
    · obtain ⟨earlier, source, line, made_eq, left_eq, plain, last⟩ :=
        ih reached ((p.advance keep).advance e.content.toList) c ((Cut.keeps_behind ..).1 keeps)
      refine ⟨keep ++ e.content.toList ++ earlier, keep ++ gone ++ source, line,
        by simp [Cut.behind, made_eq], by simp [Cut.behind, left_eq], plain, ?_⟩
      have offset : lo + byteLength (keep ++ gone ++ source) = e.stop + byteLength source := by
        simp only [byteLength_append]
        omega
      rw [Cut.place_behind, offset]
      simp only [Position.advance_append, ← List.append_assoc]
      apply last.append_left
      intro m member
      have next := ((p.advance keep).advance e.content.toList).advance_le earlier
      have first := (p.advance keep).advance_le e.content.toList
      rcases List.mem_append.1 member with kept | added
      · have bound := (bounds_of_mem_mappings kept).2
        simp only [Piece.text, Position.lt_iff, Position.le_iff] at *
        omega
      · have bound := (bounds_of_mem_mappings added).2
        simp only [Piece.text, Position.lt_iff, Position.le_iff] at *
        omega

theorem Cut.head?_after (c : Cut lo text row) : c.Keeps → c.after.head? = c.right.head? := by
  obtain ⟨left, right, front, back, before, after, -, -, -, made_after⟩ := c
  intro keeps
  cases back with
  | nil =>
    cases made_after
    rfl
  | cons e es =>
    obtain ⟨keep, gone, rest, made, rfl, rfl, start, -, -⟩ := made_after.of_cons
    have order : lo + byteLength left < e.start := keeps.2 e (by simp)
    have some : keep ≠ [] := by
      rintro rfl
      simp only [byteLength_nil] at start
      omega
    obtain ⟨d, ds, rfl⟩ := List.exists_cons_of_ne_nil some
    rfl

theorem Cut.prefix_after (c : Cut lo text row) {e : Edit} :
    c.Puts e → e.content.toList <+: c.after := by
  obtain ⟨left, right, front, back, before, after, -, -, -, made_after⟩ := c
  rintro ⟨first, here, -⟩
  cases back with
  | nil => simp at first
  | cons f es =>
    obtain rfl : f = e := by simpa using first
    obtain ⟨keep, gone, rest, made, rfl, rfl, start, -, -⟩ := made_after.of_cons
    obtain rfl : keep = [] := by
      rw [← byteLength_eq_zero]
      simp only [offset] at here
      omega
    exact ⟨made, rfl⟩

theorem exists_cut_keeps (h : Replaced lo text row made) {left right : List Char}
    (split : left ++ right = text) (filled : right ≠ [])
    (untouched : ∀ e ∈ row, ¬ (e.start ≤ lo + byteLength left ∧ lo + byteLength left < e.stop)) :
    ∃ c : Cut lo text row, c.left = left ∧ c.Keeps := by
  induction h generalizing left with
  | rest lo text => exact ⟨.unedited lo left right split, rfl, filled, by simp [Cut.unedited]⟩
  | @edit lo keep gone rest made e es start stop more ih =>
    have apart := untouched e (by simp)
    by_cases before : lo + byteLength left < e.start
    · have shorter : byteLength left ≤ byteLength keep := by omega
      rw [List.append_assoc] at split
      obtain ⟨kept, rfl, -⟩ := append_eq_of_byteLength_le split shorter
      have some : kept ≠ [] := by
        rintro rfl
        simp at start
        omega
      exact ⟨.within start stop more left kept rfl, rfl, (Cut.keeps_within ..).2 some⟩
    · have longer : byteLength (keep ++ gone) ≤ byteLength left := by
        rw [byteLength_append]
        omega
      obtain ⟨left, rfl, rest_eq⟩ := append_eq_of_byteLength_le split.symm longer
      have offset : lo + byteLength (keep ++ gone ++ left) = e.stop + byteLength left := by
        simp only [byteLength_append]
        omega
      rw [offset] at untouched
      obtain ⟨c, rfl, keeps⟩ := ih rest_eq.symm fun f member =>
        untouched f (List.mem_cons_of_mem _ member)
      exact ⟨.behind start stop c, rfl, (Cut.keeps_behind ..).2 keeps⟩

theorem exists_cut_puts {front back : List Edit} {e : Edit}
    (h : Replaced lo text (front ++ e :: back) made) (filled : e.content.toList ≠ []) :
    ∃ c : Cut lo text (front ++ e :: back), c.front = front ∧ c.Puts e := by
  induction front generalizing lo text made with
  | nil =>
    obtain ⟨keep, gone, rest, made, rfl, rfl, start, stop, more⟩ := h.of_cons
    exact ⟨.within start stop more keep [] (by simp), rfl, (Cut.puts_within ..).2
      ⟨rfl, rfl, filled⟩⟩
  | cons f front ih =>
    obtain ⟨keep, gone, rest, made, rfl, rfl, start, stop, more⟩ := h.of_cons
    obtain ⟨c, first, puts⟩ := ih more
    exact ⟨.behind start stop c, by simp [Cut.behind, first], (Cut.puts_behind ..).2 puts⟩

end Pieces

/-- Mappings trace the text that edits in their order make back to the text they are made to. -/
structure Traces (text : List Char) (row : List Edit) (made : List Char) (ms : List Mapping) :
    Prop where
  ascending : ms.Pairwise fun a b => a.generated < b.generated
  /-- Wherever text and edits are cut, what comes of the two parts stands one behind the other. -/
  parts : ∀ c : Cut 0 text row, made = c.before ++ c.after
  /-- No edit touches the character at the offset. -/
  kept : ∀ o, IsBoundary text o → o < byteLength text →
    (∀ e ∈ row, ¬ (e.start ≤ o ∧ o < e.stop)) →
      ∃ c : Cut 0 text row, c.offset = o ∧ c.Keeps ∧ c.after.head? = (textFrom text o).head?
  /-- From the last mapping on the edited text is the text of the source. -/
  last : ∀ c : Cut 0 text row, c.Keeps → ∃ m earlier, LastAt ms (c.place .start) m ∧
    m.generated = Position.start.advance earlier ∧
    m.generated.line = (c.place .start).line ∧ m.original ≤ c.offset ∧
    c.before = earlier ++ slice text m.original c.offset
  put : ∀ front e back, row = front ++ e :: back → e.content ≠ "" → e.start < byteLength text →
    ∃ c : Cut 0 text row, c.front = front ∧ c.Puts e ∧ e.content.toList <+: c.after ∧
      ⟨c.place .start, e.start⟩ ∈ ms
  mapped : ∀ m, m ∈ ms ↔ ∃ c : Cut 0 text row, m = ⟨c.place .start, c.offset⟩ ∧
    (c.Keeps ∧ c.Begins ∨ (∃ e, c.Puts e) ∧ c.offset < byteLength text)

theorem traces_of_replaced {text made : List Char} {row : List Edit}
    (h : Replaced 0 text row made) :
    Traces text row made (mappingsOf (byteLength text) .start (pieces text 0 row)) := by
  have whole : 0 + byteLength text = byteLength text := Nat.zero_add _
  have mapped := mem_mappingsOf h whole .start
  refine ⟨mappingsOf_ascending _ _ _, fun c => h.unique c.made, fun o cut inside untouched => ?_,
    fun c keeps => ?_, ?_, mapped⟩
  · obtain ⟨left, right, split, rfl⟩ := cut
    have filled : right ≠ [] := by
      rintro rfl
      simp [split] at inside
    obtain ⟨c, rfl, keeps⟩ := exists_cut_keeps h split.symm filled
      (by simpa only [Nat.zero_add] using untouched)
    refine ⟨c, Nat.zero_add _, keeps, ?_⟩
    have rest := textFrom_byteLength c.left c.right
    rw [c.text_eq] at rest
    rw [rest, c.head?_after keeps]
  · obtain ⟨earlier, source, line, made_eq, left_eq, plain, last⟩ :=
      lastAt_mappingsOf h whole .start c keeps
    have copied : slice text (0 + byteLength source) c.offset = line := by
      have cut := slice_of_append source line c.right
      rw [← left_eq, c.text_eq] at cut
      simpa [Cut.offset] using cut
    refine ⟨_, earlier, last, rfl, ?_, ?_, by rw [made_eq, copied]⟩
    · simp [Cut.place, made_eq, Position.line_advance plain]
    · simp [Cut.offset, left_eq]
  · rintro front e back rfl filled inside
    have some : e.content.toList ≠ [] := by simpa using filled
    obtain ⟨c, first, puts⟩ := exists_cut_puts h some
    have at_ : e.start = c.offset := puts.2.1
    exact ⟨c, first, puts, c.prefix_after puts,
      (mapped _).2 ⟨c, by rw [at_], Or.inr ⟨⟨e, puts⟩, at_ ▸ inside⟩⟩⟩

/-- The map of an edited text traces it back to its source. Mappings go forward, each character that
is kept can be found again from the last mapping at or before it, which stands on its line, each text
that is put in before the end of the source is mapped to the beginning of its range, and nothing is
mapped but these texts and the beginnings of lines and stretches that are kept. -/
theorem edits_traced {text : List Char} {es : List Edit} {name : String} {out : Output}
    (carried : applyEdits text es (some name) = .ok (.changed out)) :
    ∃ map, out.map = some map ∧ Traces text (Edit.sorted es) out.code map.mappings := by
  cases filled : es.isEmpty with
  | true => simp [applyEdits, filled] at carried
  | false =>
    cases accepted : Edit.firstFault text none (Edit.sorted es) with
    | some cause => simp [applyEdits, filled, accepted] at carried
    | none =>
      simp only [applyEdits, filled, accepted, Bool.false_eq_true, if_false, Option.map_some,
        Except.ok.injEq, Applied.changed.injEq] at carried
      obtain ⟨fits, -, follow⟩ := Edit.of_firstFault_eq_none accepted
      have made := replaced_splice (isBoundary_zero text) (fun _ _ => Nat.zero_le _) fits follow
      have joined := joinPieces_pieces (isBoundary_zero text) (fun _ _ => Nat.zero_le _) fits follow
      rw [textFrom_zero] at made joined
      rw [← joined] at made
      obtain rfl := carried
      exact ⟨_, rfl, traces_of_replaced made⟩

/-- A removal, a text of two lines, an insertion behind a character of two units, and one at the very
end, which is not traced. -/
theorem edits_traced_lines :
    let text := "a\r\nb😀c\nd".toList
    let es : List Edit := [⟨3, 4, "x\ny"⟩, .insertion 11 ";", .removal 0 1, .insertion 8 "!"]
    ∃ out map, applyEdits text es (some "a.js") = .ok (.changed out) ∧
      out.code = "\r\nx\ny😀!c\nd;".toList ∧ out.map = some map ∧
      map.mappings = [⟨⟨0, 0⟩, 1⟩, ⟨⟨1, 0⟩, 3⟩, ⟨⟨2, 1⟩, 4⟩, ⟨⟨2, 3⟩, 8⟩, ⟨⟨2, 4⟩, 8⟩,
        ⟨⟨3, 0⟩, 10⟩] ∧
      Traces text (Edit.sorted es) out.code map.mappings := by
  intro text es
  have order : Edit.sorted es =
      [.removal 0 1, ⟨3, 4, "x\ny"⟩, .insertion 8 "!", .insertion 11 ";"] :=
    Edit.sorted_eq_of_perm (by decide) (by decide)
  have carried : ∃ out, applyEdits text es (some "a.js") = .ok (.changed out) ∧
      out.code = "\r\nx\ny😀!c\nd;".toList ∧ out.map.map SourceMap.mappings =
        some [⟨⟨0, 0⟩, 1⟩, ⟨⟨1, 0⟩, 3⟩, ⟨⟨2, 1⟩, 4⟩, ⟨⟨2, 3⟩, 8⟩, ⟨⟨2, 4⟩, 8⟩, ⟨⟨3, 0⟩, 10⟩] := by
    simp only [applyEdits, order]
    exact ⟨_, rfl, by decide +kernel, by decide +kernel⟩
  obtain ⟨out, carried, code, mappings⟩ := carried
  obtain ⟨map, mapped, traces⟩ := edits_traced carried
  rw [mapped] at mappings
  exact ⟨out, map, carried, code, mapped, Option.some.inj mappings, traces⟩

end ServerLink
