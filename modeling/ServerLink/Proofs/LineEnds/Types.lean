import ServerLink.Proofs.LineEnds.Functions

/-!
Types, in a text and in the text with carriage returns.
-/

set_option autoImplicit false

namespace ServerLink.Script.Parse

open Text

variable {text : List Char}

@[simp] theorem alike_entityName : Alike text entityName entityName := by
  refine alike_bind alike_here fun start _ => alike_bind alike_anyName fun w _ =>
    alike_bind (alike_failIf rfl) fun _ _ => alike_bind (alike_node rfl rfl) fun n _ =>
    alike_loop rfl (by simp) fun n _ => alike_bind (alike_eat _) fun _ _ s c =>
    (meets_ite rfl).2 ⟨fun _ => (meets_bind_fixed alike_token).2 fun t => ?_, fun _ => ?_⟩
  · split <;> simp
  · simp

@[simp] theorem alike_memberEnd : Alike text memberEnd memberEnd := by
  intro s c
  simp [memberEnd]

@[simp] theorem alike_indexSignatureAhead :
    Alike text indexSignatureAhead indexSignatureAhead := by
  refine alike_bind (alike_lookahead fun s c => ?_) fun ahead _ s c => ?_
  · simp
  · simp

@[simp] theorem alike_mappedAhead : Alike text mappedAhead mappedAhead := by
  refine alike_bind (alike_lookahead fun s c => ?_) fun ahead _ s c => ?_
  · simp
  · simp

variable {self self' : Goal → Parse Node} (alike : ∀ g, Alike text (self g) (self' g))

include alike

@[simp] theorem alike_innerType : Alike text (innerType self) (innerType self') :=
  alike_within (fun _ => rfl) (alike .type)

@[simp] theorem alike_sameLineTypeArguments? :
    Alike text (sameLineTypeArguments? self) (sameLineTypeArguments? self') := by
  intro s c
  simp [sameLineTypeArguments?, alike]

@[simp] theorem alike_typeReference : Alike text (typeReference self) (typeReference self') := by
  intro s c
  simp [typeReference, alike]

@[simp] theorem alike_importType (start : Nat) :
    Alike text (importType self start) (importType self' (widen text start)) := by
  refine alike_bind (alike_expectWord _) fun _ _ => alike_bind (alike_expect _) fun _ _ =>
    alike_bind alike_token fun t _ s c => ?_
  extract_lets rest more rest' more'
  have last {options options' : List Node} (same : options' = widen text options) :
      Alike text (rest options) (rest' options') := by
    subst same
    refine alike_bind (alike_expect _) fun _ _ =>
      alike_bind (alike_loop rfl (by simp) fun _ _ s c => ?_) fun _ _ s c => ?_
    · simp
    · simp [alike]
  have next (u : Unit) : Alike text (more u) (more' u) := by
    intro s c
    simp [more, more', last, alike]
  rw [widen_fixed]
  split <;> simp [next]

@[simp] theorem alike_typeQuery (start : Nat) :
    Alike text (typeQuery self start) (typeQuery self' (widen text start)) := by
  intro s c
  simp [typeQuery, alike]

omit alike in
-- Template text from a tail of the text on.
theorem alike_piece {t t' : Tail} (same : t' = widen text t) (left : t.Of text) :
    Alike text (fun _ c => (Tail.takePiece t.chars t.offset []).map (·, c))
      (fun _ c => (Tail.takePiece t'.chars t'.offset []).map (·, c)) := by
  subst same
  intro s c plain v
  have inside : '\r' ∉ t.chars := by
    obtain ⟨before, whole, -⟩ := left
    exact fun member => plain (whole ▸ List.mem_append_right _ member)
  have read := @Tail.takePiece_crlf text t.chars t.offset left [] inside (by simp)
  simp only [List.reverse_nil, crlf_nil] at read
  rw [show (widen text t).chars = crlf t.chars from rfl,
    show (widen text t).offset = crlfOffset text t.offset from rfl, read]
  cases piece : Tail.takePiece t.chars t.offset [] with
  | none => exact ⟨rfl, by simp⟩
  | some p =>
    exact ⟨rfl, by simpa using ⟨left.trans (Tail.takePiece_eq_some piece), v⟩⟩

omit alike in
theorem alike_templateParts {hole hole' : Parse Node} (alike : Alike text hole hole')
    (soundOnly : Bool) :
    Alike text (templateParts hole soundOnly) (templateParts hole' soundOnly) := by
  refine alike_bind alike_cursor fun c valid => ?_
  extract_lets piece
  have pieces {t : Tail} (left : t.Of text) : Alike text (piece t) (piece (widen text t)) :=
    alike_piece rfl left
  refine alike_bind (pieces valid.stands.next) fun p left =>
    alike_bind (alike_loop rfl ?_ fun state placed s c => ?_) fun state _ s c => ?_
  · simpa using left
  · obtain ⟨parts, p⟩ := state
    have moved : Alike text (moveTo (.at p.rest)) (moveTo (.at (widen text p).rest)) :=
      alike_moveTo rfl placed.2
    refine (meets_bind (alike_faultIf rfl)).2 fun _ => (meets_bind moved).2 fun _ =>
      (meets_ite rfl).2 ⟨fun _ => meets_pure rfl (by simpa using placed), fun _ => ?_⟩
    refine (meets_bind alike).2 fun h => (meets_bind (alike_isPunct _)).2 fun _ =>
      (meets_bind (alike_failIf rfl)).2 fun _ => (meets_bind alike_cursor).2 fun here => ?_
    have next := pieces here.next
    refine (meets_bind next).2 fun q => meets_pure rfl ?_
    simpa using (q.placed next).1
  · simp

@[simp] theorem alike_tupleElement : Alike text (tupleElement self) (tupleElement self') := by
  refine alike_bind alike_here fun start _ => ?_
  extract_lets label rest rest'
  have labels : Alike text label label := by
    intro s c
    simp [label]
  have rests (u : Unit) : Alike text (rest u) (rest' u) := by
    intro s c
    simp [rest, rest', alike]
  intro s c
  simp [labels, rests]

@[simp] theorem alike_tupleTail (start : Nat) :
    Alike text (tupleTail self start) (tupleTail self' (widen text start)) := by
  refine alike_bind (alike_loop rfl (by simp) fun state _ s c => ?_) fun state _ s c => ?_
  · simp [alike]
  · simp

@[simp] theorem alike_typeOfParameters :
    Alike text (typeOfParameters self) (typeOfParameters self') := by
  have ps := alike_parameters alike false
  intro s c
  simp [typeOfParameters, Setting.forParams, ps]

@[simp] theorem alike_signature {start start' : Nat} {before before' : List Node}
    (starts : start' = widen text start) (same : before' = widen text before) :
    Alike text (signature self start before) (signature self' start' before') := by
  subst starts same
  intro s c
  simp [signature, alike]

@[simp] theorem alike_indexSignature (start : Nat) :
    Alike text (indexSignature self start) (indexSignature self' (widen text start)) := by
  intro s c
  simp [indexSignature, alike]

@[simp] theorem alike_accessorSignature (start : Nat) (isGetter : Bool) :
    Alike text (accessorSignature self start isGetter)
      (accessorSignature self' (widen text start) isGetter) := by
  intro s c
  simp [accessorSignature, alike]

@[simp] theorem alike_typeMember : Alike text (typeMember self) (typeMember self') := by
  intro s c
  simp [typeMember, alike]

@[simp] theorem alike_mappedType (start : Nat) :
    Alike text (mappedType self start) (mappedType self' (widen text start)) := by
  unfold mappedType
  extract_lets inside inside'
  have insides (u : Unit) : Alike text (inside u) (inside' u) := by
    refine alike_bind (alike_eatWord _) fun _ _ => alike_bind (alike_expect _) fun _ _ =>
      alike_bind alike_here fun s _ => alike_bind alike_anyName fun name _ =>
      alike_bind (alike_node rfl rfl) fun p _ => alike_bind (alike_expectWord _) fun _ _ =>
      alike_bind (alike_innerType alike) fun source _ => alike_bind (alike_eatWord _) fun _ _ => ?_
    extract_lets rest rest'
    have rests {renamed renamed' : List Node} (same : renamed' = widen text renamed) :
        Alike text (rest renamed) (rest' renamed') := by
      subst same
      intro s c
      simp [rest, rest', alike]
    intro s c
    simp [rests, alike]
  intro s c
  simp [insides]

@[simp] theorem alike_typeLiteral {start start' : Nat} (starts : start' = widen text start) :
    Alike text (typeLiteral self start) (typeLiteral self' start') := by
  subst starts
  refine alike_bind (alike_expect _) fun _ _ =>
    alike_bind (alike_loop rfl (by simp) fun members _ s c => ?_) fun members _ s c => ?_
  · simp [alike]
  · simp

@[simp] theorem alike_inferredBound : Alike text (inferredBound self) (inferredBound self') := by
  refine alike_bind (alike_trial fun s c => ?_) fun found _ s c => ?_
  · simp [alike]
  · simp

@[simp] theorem alike_simpleType : Alike text (simpleType self) (simpleType self') := by
  have parts := alike_templateParts (alike_innerType alike) true
  refine alike_bind alike_here fun start _ => alike_bind alike_token fun t _ s c => ?_
  rw [widen_fixed]
  split
  all_goals simp [alike, parts]

@[simp] theorem alike_arrayType : Alike text (arrayType self) (arrayType self') := by
  refine alike_bind alike_here fun start _ => alike_bind (alike_simpleType alike) fun t _ =>
    alike_loop rfl (by simp) fun t _ s c => ?_
  simp [alike]

@[simp] theorem alike_operatorType : Alike text (operatorType self) (operatorType self') := by
  refine alike_bind alike_here fun start _ => ?_
  -- the words are counted, and a count is no offset
  obtain ⟨count, fixed⟩ : ∃ count : Widens Nat, Fixed Nat := ⟨.same Nat, inferInstance⟩
  refine alike_bind (alike_loop (widen_fixed text _).symm (by simp) fun state _ => ?_)
    fun state placed s c => ?_
  · refine alike_bind alike_token fun t _ s c => ?_
    obtain ⟨n, inferred⟩ := state
    simp only [widen_fixed]
    split
    next =>
      refine (meets_ite rfl).2 ⟨fun _ => (meets_bind alike_following).2 fun next => ?_,
        fun _ => (meets_ite rfl).2 ⟨fun _ => (meets_bind alike_following).2 fun next => ?_,
          fun _ => by simp⟩⟩
      · rw [token_widen]
        split <;> simp
      · rw [token_widen]
        split <;> simp
    next => simp
  · rw [widen_fixed]
    clear placed fixed count
    simp [alike]

omit alike in
theorem alike_joinedTypes (sign : String) {operand operand' : Parse Node}
    (alike : Alike text operand operand') :
    Alike text (joinedTypes sign operand) (joinedTypes sign operand') := by
  refine alike_bind alike_here fun start _ => alike_bind (alike_eat _) fun led _ =>
    alike_bind alike fun first _ => alike_bind (alike_loop rfl (by simp) fun ts _ s c => ?_)
      fun ts _ s c => ?_
  · simp [alike]
  · simp

@[simp] theorem alike_functionType (start : Nat) :
    Alike text (functionType self start) (functionType self' (widen text start)) := by
  intro s c
  simp [functionType, alike]

@[simp] theorem alike_unconditionalType :
    Alike text (unconditionalType self) (unconditionalType self') := by
  have union := alike_joinedTypes "|" (alike_joinedTypes "&" (alike_operatorType alike))
  have function (start : Nat) := alike_trial (alike_functionType alike start)
  intro s c
  simp [unconditionalType, alike, union, function]

@[simp] theorem alike_typeExpression : Alike text (typeExpression self) (typeExpression self') := by
  intro s c
  simp [typeExpression, alike]

@[simp] theorem alike_returnType : Alike text (returnType self) (returnType self') := by
  unfold returnType
  extract_lets subject
  have subjects : Alike text subject subject := by
    intro s c
    simp [subject]
  intro s c
  refine (meets_bind alike_here).2 fun start => (meets_bind alike_following).2 fun next =>
    (meets_bind_fixed (alike_isWord _)).2 fun asserts =>
    (meets_ite (by simp)).2 ⟨fun _ => ?_, fun _ => (meets_bind_fixed alike_token).2 fun t => ?_⟩
  · simp [subjects, alike]
  · split <;> simp [subjects, alike]

end ServerLink.Script.Parse
