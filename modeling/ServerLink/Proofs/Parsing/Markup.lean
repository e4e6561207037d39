import ServerLink.Proofs.Parsing.Goals
import ServerLink.Script.Grammar.Markup

/-!
Markup stands where it is read, children and all.
-/

set_option autoImplicit false

namespace ServerLink.Script

open Text

-- A name may go on with what it may begin with.
theorem isNameContinue_of_isNameStart {c : Char} (starts : isNameStart c = true) :
    isNameContinue c = true := by
  unfold isNameStart at starts
  unfold isNameContinue
  split at starts
  · simp [*]
  · simp [*]

-- A tree whose last token is the current one, and which that token closes.
theorem Reads.markup {text : List Char} {c d : Cursor} {ns : List Node} (h : Reads text c ns d)
    (closes : (d.token == .punct ">") = true) :
    Markup text c (.mk .markup ⟨c.here.offset, d.next.offset⟩ ns) d where
  valid := h.valid
  closes := closes
  tree t left := by
    have whole := (h.eaten closes).node (k := .markup)
    rw [Cursor.at_lastStop] at whole
    have token := eq_of_beq closes
    have solid := h.valid.stands.lt (by rw [token])
    have further := h.moveTo (h.valid.stands.left.trans left) (Nat.lt_of_lt_of_le solid left.le)
      (by simp [token])
    have low := whole.takes.placed.1
    refine ⟨{ further with placed := ⟨low, whole.placed, ?_, trivial⟩ }, rfl⟩
    rw [Cursor.at_lastStop]
    exact left.le

namespace Parse

variable {text : List Char} {s : Setting} {c d : Cursor} {self : Goal → Parse Node}
  (sound : Sound text self)

theorem markupText_leftOf {cs : List Char} {o : Nat} {t : Tail} (h : markupText cs o = some t) :
    Tail.LeftOf cs o t := by
  induction cs generalizing o with
  | nil => simp [markupText] at h
  | cons c cs ih =>
    unfold markupText at h
    split at h
    · obtain rfl := Option.some.inj h
      exact .refl _ _
    · split at h
      · simp at h
      · exact .cons (ih h)

theorem markupName_takes (v : c.Valid text) :
    Ensures markupName s c fun _ => Takes text c [] := by
  simp only [markupName, ensures_run, ensures_look]
  split
  · rename_i name named
    simp only [ensures_run, ensures_look]
    have read := v.stands.read (by simp [named])
    rw [named] at read
    obtain ⟨first, cs, chars, starts⟩ := Tail.takeToken_name read
    simp only [List.span_eq_takeWhile_dropWhile]
    refine v.reads.moveTo ⟨_, List.takeWhile_append_dropWhile.symm, rfl⟩ ?_ (by simp [named])
    -- The name has its first character at least.
    have size := first.utf8Size_pos
    rw [chars, List.takeWhile_cons_of_pos (by simp [isNameContinue_of_isNameStart starts]),
      byteLength_cons]
    show c.here.offset < c.here.offset + (first.utf8Size + _)
    omega
  · exact ensures_fail.2 trivial

theorem elementName_tree (v : c.Valid text) :
    Ensures elementName s c fun r d => Tree text c r.2 d := by
  simp only [elementName, ensures_run, ensures_look]
  refine (markupName_takes v).mono fun name d read => ?_
  refine ensures_ifEat (fun colon => ?_) ?_
  · have h := read.toReads.eaten colon
    simp only [ensures_run]
    exact (markupName_takes h.valid).mono fun name e more => (h.append more.toReads).node
  simp only [ensures_run, ensures_look]
  refine ensures_ite (fun _ => ?_) fun _ => ensures_ite (fun _ => ?_) fun _ => ?_
  · simp only [ensures_run]
    refine ensures_rounds (I := fun (r : String × Node) d => Tree text c r.2 d) read.use ?_
    rintro ⟨name, n⟩ e tree
    simp only [ensures_run]
    refine ensures_ifEat (fun dot => ?_) (ensures_pure.2 tree)
    have h := tree.takes.toReads.eaten dot
    simp only [ensures_run]
    exact (markupName_takes h.valid).mono fun name e more => (h.append more.toReads).node
  · simp only [ensures_run]
    exact read.node
  · simp only [ensures_run]
    exact read.use

include sound

theorem attributeValue_tree (v : c.Valid text) (valid : c.token ≠ .invalid) :
    Ensures (attributeValue self) s c (Tree text c) := by
  simp only [attributeValue, ensures_run, ensures_look]
  split
  · rename_i rest quoted
    simp only [ensures_run, ensures_look]
    obtain ⟨q, cs, o, gap, left⟩ : ∃ q cs o, Tail.LeftOf c.next.chars c.next.offset ⟨q :: cs, o⟩ ∧
        Tail.LeftOf (q :: cs) o rest ∧ o < rest.offset := by
      split at quoted
      · rename_i q cs o newline skipped
        split at quoted
        · rename_i quote
          have size : q.utf8Size = 1 := by
            rcases Bool.or_eq_true_iff.1 quote with one | two
            · simp [of_decide_eq_true one]; rfl
            · simp [of_decide_eq_true two]; rfl
          have left := Tail.takeVerbatim_eq_some size quoted
          have low := left.le
          exact ⟨q, cs, o, (Tail.skipGap_eq_some skipped).1, .cons_ascii size left, by omega⟩
        · simp at quoted
      · simp at quoted
    have low : c.next.offset ≤ o := gap.le
    have stands := v.stands
    have before := stands.left.le
    have whole := v.reads.moveTo (stands.left.trans (gap.trans left.1)) (by omega) valid
    exact whole.leaf stands.next.cut before (by rw [Cursor.at_lastStop]; omega)
  · simp only [ensures_run, ensures_look]
    intro _
    have h := v.reads.next valid
    refine ensures_ifEat (fun opened => ?_) ?_
    · have k := h.valid.reads.eaten opened
      simp only [ensures_run]
      refine (sound .expression _ _ k.valid).mono fun e d read closed => ?_
      have tree := ((k.toReads.tree read).toReads.eaten closed).node (k := .markup)
      exact ⟨h.take tree.takes, rfl⟩
    · simp only [ensures_run, ensures_look]
      refine ensures_ite (fun _ => ?_) fun _ => ensures_fail.2 trivial
      simp only [ensures_run]
      refine (sound .markup _ _ h.valid).mono fun e d read _ => ?_
      have tree := read.tree _ (.refl _ _)
      exact ⟨h.take tree.takes, tree.plain⟩

theorem elementProperty_tree (v : c.Valid text) :
    Ensures (elementProperty self) s c (Tree text c) := by
  simp -zeta only [elementProperty, ensures_run, ensures_look]
  refine ensures_ifEat (fun opened => ?_) ?_
  · simp only [ensures_run]
    intro dots
    have h := (v.reads.eaten opened).toReads.eaten dots
    refine (sound .assignment _ _ h.valid).mono fun e d read closed => ?_
    exact ((h.toReads.tree read).toReads.eaten closed).node
  · simp -zeta only [ensures_run]
    refine (markupName_takes v).mono fun name d read => ?_
    extract_lets rest
    have after (e : Cursor) (h : Takes text c [] e) : Ensures (rest ()) s e (Tree text c) := by
      simp only [rest, ensures_run, ensures_look]
      refine ensures_ite (fun equals => ?_) fun _ => ensures_node.2 h.node
      simp only [ensures_run]
      refine (attributeValue_tree sound h.valid (by simp [eq_of_beq equals])).mono fun value f read => ?_
      exact (h.toReads.tree read).node
    refine ensures_ifEat (fun colon => ?_) (after d read)
    have h := read.toReads.eaten colon
    simp only [ensures_run]
    exact (markupName_takes h.valid).mono fun _ e more => after e (h.append more.toReads)

theorem substitution_reads (v : c.Valid text) :
    Ensures (substitution self) s c fun ns d =>
      Reads text c ns.reverse d ∧ d.token = .punct "\x7d" := by
  simp only [substitution, ensures_run, ensures_look]
  refine ensures_ite (fun closed => ensures_pure.2 ⟨v.reads, eq_of_beq closed⟩) fun _ => ?_
  simp only [ensures_run]
  refine (eat_reads v _).mono fun _ d dots => ?_
  have h := dots.1
  refine (sound .expression _ _ h.valid).mono fun e f read => ?_
  simp only [ensures_look]
  intro closed
  exact ⟨(h.tree read).toReads, by simpa using closed⟩

theorem children_reads (v : c.Valid text) (valid : c.token ≠ .invalid) :
    Ensures (children self c.next) s c (Reads text c) := by
  simp only [children, ensures_run]
  -- What was read so far, wherever in the rest of the text one goes on.
  refine (ensures_loop (a := ([], c.next))
    (I := fun (r : List Node × Tail) _ =>
      ∀ t, Tail.LeftOf r.2.chars r.2.offset t → Reads text c r.1.reverse (.at t))
    (Q := fun r d => Reads text c r.1.reverse d)
    (fun t left => v.reads.moveOn (v.stands.left.trans left) valid) ?_).mono fun r d read => read
  rintro ⟨parts, t⟩ d read
  simp only
  split
  · exact ensures_fail.2 trivial
  · rename_i u ahead
    have h := read u (markupText_leftOf ahead)
    simp only [ensures_run, ensures_look]
    refine ensures_ifEat (fun opened => ?_) ?_
    · have h := (h.eaten opened).toReads
      simp only [ensures_run]
      refine (substitution_reads sound h.valid).mono ?_
      rintro ns e ⟨inner, closed⟩
      simp only [ensures_look]
      refine ⟨fun _ t left => ?_, by simp⟩
      have h := h.append inner
      rw [← List.reverse_append] at h
      exact h.moveOn (h.valid.stands.left.trans left) (by simp [closed])
    · simp only [ensures_run, ensures_look]
      refine ensures_ite (fun _ => ?_) fun _ => ?_
      · simp only [ensures_run]
        exact fun first second => ⟨by simp, fun _ => (h.next first).next second⟩
      · simp only [ensures_run]
        refine (sound .markup _ _ h.valid).mono fun e f inner => ?_
        simp only [ensures_look]
        exact ⟨fun _ t left => h.cons (inner.tree t left), by simp⟩

theorem element_markup (v : c.Valid text) : Ensures (element self) s c (Markup text c) := by
  simp only [element, markupNode, ensures_run, ensures_look]
  intro opened
  have h := v.reads.eaten opened
  refine ensures_ite (fun fragment => ?_) fun _ => ?_
  · simp only [ensures_run, ensures_look]
    refine (children_reads sound h.valid (by simp [eq_of_beq fragment])).mono
      fun parts d read closed => ?_
    exact (h.append read).toReads.markup (by simpa using closed)
  simp only [ensures_run]
  refine (elementName_tree h.valid).mono ?_
  rintro ⟨name, n⟩ d read
  have h := h.toReads.tree read
  refine (typeArguments?_reads sound h.valid).mono ?_
  rintro args e ⟨typed, -⟩
  have h := h.append typed
  refine (ensures_loop (a := []) (I := fun (as : List Node) f => Reads text e as.reverse f)
    (Q := fun as f => Reads text e as.reverse f ∧ f.token.isAnyOf [">", "/"] = true)
    h.valid.reads ?_).mono ?_
  · intro as f read
    simp only [ensures_run, ensures_look]
    refine ensures_ite (fun marked => ensures_pure.2 ⟨by simp, fun _ => ⟨read, marked⟩⟩) fun _ => ?_
    simp only [ensures_run]
    exact (elementProperty_tree sound read.valid).mono fun a g tree => ⟨fun _ => read.cons tree, by simp⟩
  rintro as f ⟨read, marked⟩
  have h := h.append read
  refine ensures_ifEat (fun slash => ?_) ?_
  · simp only [ensures_run, ensures_look]
    intro closed
    simpa using (h.toReads.eaten slash).toReads.markup (by simpa using closed)
  · simp only [ensures_run, ensures_look]
    have valid : f.token ≠ .invalid := by
      intro invalid
      simp [invalid, Token.isAnyOf] at marked
    refine (children_reads sound h.valid valid).mono fun parts g inner => ?_
    have h := h.append inner
    refine (elementName_tree h.valid).mono fun closing i name _ closed => ?_
    simpa using (h.skip name.takes.drop).toReads.markup (by simpa using closed)

end Parse

end ServerLink.Script
