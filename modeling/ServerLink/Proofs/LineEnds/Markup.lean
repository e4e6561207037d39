import ServerLink.Proofs.LineEnds.Types
import ServerLink.Proofs.Parsing.Markup

/-!
Markup, in a text and in the text with carriage returns. Lines may end in the text between tags and
in the values of attributes.
-/

set_option autoImplicit false

namespace ServerLink.Script.Parse

open Text

variable {text : List Char}

theorem markupText_crlf {cs : List Char} {o : Nat} (h : Tail.Of text ⟨cs, o⟩) :
    markupText (crlf cs) (crlfOffset text o) = (markupText cs o).map (widen text) := by
  induction cs generalizing o with
  | nil => rfl
  | cons c cs ih =>
    by_cases feed : c = '\n'
    · subst feed
      have next : crlfOffset text o + 1 + 1 = crlfOffset text (o + 1) := h.nextLine.symm
      have rest : Tail.Of text ⟨cs, o + 1⟩ := h.cons
      have step : markupText (crlf ('\n' :: cs)) (crlfOffset text o) =
          markupText (crlf cs) (crlfOffset text o + 1 + 1) := rfl
      rw [step, next, ih rest]
      rfl
    · rw [crlf_cons feed, markupText, markupText]
      split
      · simp [widen, Tail.widen, crlf_cons feed]
      · split
        · rfl
        · rw [← h.next feed, ih h.cons]

-- What is behind a run of characters that end no line.
theorem widen_behind_span {p : Char → Bool} (ends : p '\n' = false) {t : Tail}
    (left : t.Of text) :
    (⟨crlf (t.chars.span p).2, crlfOffset text t.offset + byteLength (t.chars.span p).1⟩ : Tail) =
        widen text ⟨(t.chars.span p).2, t.offset + byteLength (t.chars.span p).1⟩ ∧
      Tail.Of text ⟨(t.chars.span p).2, t.offset + byteLength (t.chars.span p).1⟩ := by
  rw [List.span_eq_takeWhile_dropWhile]
  have whole : t.chars.takeWhile p ++ t.chars.dropWhile p = t.chars :=
    List.takeWhile_append_dropWhile
  have line : '\n' ∉ t.chars.takeWhile p := by
    intro among
    have inside := List.all_eq_true.1 (List.all_takeWhile (p := p) (l := t.chars)) _ among
    simp [inside] at ends
  have offset := @Tail.Of.offset text (t.chars.dropWhile p) t.offset (t.chars.takeWhile p)
    (by rw [whole]; exact left)
  rw [crlf_eq_self line] at offset
  exact ⟨congrArg (Tail.mk _) offset.symm, left.trans ⟨_, whole.symm, rfl⟩⟩

@[simp] theorem alike_markupName : Alike text markupName markupName := by
  refine alike_bind alike_token fun t _ s c => ?_
  rw [widen_fixed]
  split
  next =>
    refine (meets_bind alike_cursor).2 fun here => ?_
    have left := here.here
    have apart := span_crlf (p := fun c => isNameContinue c || c == '-') (by decide)
      here.value.here.chars
    obtain ⟨same, rest⟩ := widen_behind_span (p := fun c => isNameContinue c || c == '-')
      (by decide) left
    rw [show (widen text here.value).here = widen text here.value.here from rfl]
    simp only [show (widen text here.value.here).chars = crlf here.value.here.chars from rfl, apart]
    exact (meets_bind (alike_moveTo same rest)).2 fun _ => by simp
  next => simp

@[simp] theorem alike_elementName : Alike text elementName elementName := by
  refine alike_bind alike_here fun start _ => alike_bind alike_markupName fun name _ =>
    alike_bind (alike_eat _) fun _ _ s c =>
    (meets_ite rfl).2 ⟨fun _ => by simp, fun _ => ?_⟩
  refine (meets_bind_fixed (alike_isPunct _)).2 fun _ =>
    (meets_ite rfl).2 ⟨fun _ => (meets_bind (alike_node rfl rfl)).2 fun n => ?_, fun _ => ?_⟩
  · refine alike_loop rfl (by simp) (fun state _ s c => ?_) _ _
    simp
  · simp

@[simp] theorem alike_markupNode (start : Nat) {parts parts' : List Node}
    (same : parts' = widen text parts) :
    Alike text (markupNode start parts) (markupNode (widen text start) parts') := by
  subst same
  intro s c
  simp [markupNode]

-- What is between quotes, from the opening one on.
theorem takeVerbatim_quoted {q : Char} {cs : List Char} {o : Nat}
    (quote : (decide (q = '"') || decide (q = '\'')) = true) (here : Tail.Of text ⟨q :: cs, o⟩) :
    crlf (q :: cs) = q :: crlf cs ∧
      Tail.takeVerbatim q (crlf cs) (crlfOffset text o + 1) =
        widen text (Tail.takeVerbatim q cs (o + 1)) ∧
      ∀ t ∈ Tail.takeVerbatim q cs (o + 1), t.Of text := by
  have sign : (q ≠ '\n' ∧ q ≠ '\r') ∧ q.utf8Size = 1 := by
    rcases Bool.or_eq_true_iff.1 quote with double | single
    · rw [of_decide_eq_true double]
      decide
    · rw [of_decide_eq_true single]
      decide
  have offset := here.next sign.1.1
  have rest := here.cons
  rw [sign.2] at offset rest
  have read := Tail.takeVerbatim_crlf sign.1 sign.2 rest
  rw [offset] at read
  exact ⟨crlf_cons sign.1.1 cs, read,
    fun t value => rest.trans (Tail.takeVerbatim_eq_some sign.2 value)⟩

variable {self self' : Goal → Parse Node} (alike : ∀ g, Alike text (self g) (self' g))

include alike

@[simp] theorem alike_attributeValue : Alike text (attributeValue self) (attributeValue self') := by
  refine alike_bind alike_cursor fun c valid => ?_
  extract_lets start value start' value'
  have next := valid.stands.next
  obtain ⟨same, left⟩ : value' = widen text value ∧ ∀ t ∈ value, t.Of text := by
    have gap := @Tail.skipGap_crlf text .code c.next.chars c.next.offset false next
    simp only [value, value', show (widen text c).next.chars = crlf c.next.chars from rfl,
      show (widen text c).next.offset = crlfOffset text c.next.offset from rfl, gap]
    cases skipped : Tail.skipGap .code c.next.chars c.next.offset false with
    | none => simp
    | some r =>
      obtain ⟨⟨cs, o⟩, newline⟩ := r
      have here : Tail.Of text ⟨cs, o⟩ := next.trans (Tail.skipGap_eq_some skipped).1
      cases cs with
      | nil => simp [Tail.widen]
      | cons q cs =>
        by_cases quote : (decide (q = '"') || decide (q = '\'')) = true
        · obtain ⟨same, read, left⟩ := takeVerbatim_quoted quote here
          simp only [Option.map_some, Tail.widen, same, if_pos quote, read]
          exact ⟨trivial, left⟩
        · by_cases feed : q = '\n'
          · subst feed
            simp [Tail.widen]
          · simp [Tail.widen, crlf_cons feed, quote]
  rw [same]
  clear_value value
  cases value with
  | some t =>
    refine alike_bind (alike_moveTo rfl (left t rfl)) fun _ _ s c => ?_
    exact alike_node rfl rfl s c
  | none =>
    intro s c
    simp [alike]

@[simp] theorem alike_elementProperty :
    Alike text (elementProperty self) (elementProperty self') := by
  intro s c
  simp [elementProperty, alike]

@[simp] theorem alike_substitution : Alike text (substitution self) (substitution self') := by
  intro s c
  simp [substitution, alike]

theorem alike_children {t t' : Tail} (same : t' = widen text t) (left : t.Of text) :
    Alike text (children self t) (children self' t') := by
  subst same
  refine alike_bind (alike_loop rfl (by simpa using left) fun state placed s c => ?_)
    fun parts _ s c => by simp
  obtain ⟨parts, t⟩ := state
  have left : t.Of text := placed.2
  have run := markupText_crlf left
  simp only [widen_pair, show (widen text t).chars = crlf t.chars from rfl,
    show (widen text t).offset = crlfOffset text t.offset from rfl, run]
  cases ends : markupText t.chars t.offset with
  | none => simp
  | some t =>
    have rest : t.Of text := left.trans (markupText_leftOf ends)
    simp [alike_moveTo rfl rest, alike, rest]

@[simp] theorem alike_element : Alike text (element self) (element self') := by
  have inside {c : Cursor} {s : Setting} (here : Reached text cursor s c) :
      Alike text (children self here.value.next) (children self' (widen text here.value.next)) :=
    alike_children alike rfl here.next
  refine alike_bind alike_here fun start _ => alike_bind (alike_expect _) fun _ _ s c =>
    (meets_bind_fixed (alike_isPunct _)).2 fun _ => (meets_ite rfl).2 ⟨fun _ => ?_, fun _ => ?_⟩
  · simp [inside]
  · refine (meets_bind alike_elementName).2 fun name => (meets_bind (alike_typeArguments? alike)).2
      fun args => (meets_bind (alike_loop rfl (by simp) fun _ _ _ _ => ?_)).2 fun attributes => ?_
    · simp [alike]
    · simp [inside]

end ServerLink.Script.Parse
