import ServerLink.Proofs.LineEnds.Classes
import ServerLink.Proofs.LineEnds.Markup
import ServerLink.Proofs.Parsing.Arrows

/-!
Expressions, in a text and in the text with carriage returns.
-/

set_option autoImplicit false

namespace ServerLink.Script.Parse

open Text

variable {text : List Char}

@[simp] theorem alike_enclosed {α : Type} [Widens α] {p p' : Parse α} (h : Alike text p p') :
    Alike text (enclosed p) (enclosed p') := alike_within (fun _ => rfl) h

@[simp] theorem alike_operatorAhead : Alike text operatorAhead operatorAhead := by
  refine alike_bind alike_cursor fun c valid => ?_
  have next : c.next.Of text := valid.stands.next
  intro s d
  rw [token_widen]
  split
  next angle =>
    have line : ∀ op ∈ [">>>=", ">>>", ">>=", ">>", ">="],
        ('\n' ∉ op.toList ∧ '\r' ∉ op.toList) ∧ ∀ c ∈ op.toList.drop 1, c.utf8Size = 1 := by
      simp [Char.utf8Size]
    have same : [">>>=", ">>>", ">>=", ">>", ">="].find?
          (fun op => op.toList.isPrefixOf ('>' :: (widen text c).next.chars)) =
        [">>>=", ">>>", ">>=", ">>", ">="].find?
          fun op => op.toList.isPrefixOf ('>' :: c.next.chars) := by
      rw [← List.head?_filter, ← List.head?_filter]
      refine congrArg List.head? (List.filter_congr fun op among => ?_)
      rw [next_widen, chars_widen, ← crlf_cons (by decide)]
      exact Tail.isPrefixOf_crlf (line op among).1 _
    rw [same]
    split
    next op found =>
      have among := List.mem_of_find?_eq_some found
      obtain ⟨split, -, length⟩ := angled_sound op among
      obtain ⟨⟨plain, -⟩, small⟩ := line op among
      have here := List.find?_some found
      rw [split] at here
      obtain ⟨rest, whole⟩ : op.toList.drop 1 <+: c.next.chars := by simpa using here
      have line : '\n' ∉ op.toList.drop 1 := fun among => plain (List.mem_of_mem_drop among)
      have behind := behind_widen next whole.symm line small
      rw [length] at behind
      exact meets_pure (by simpa using behind.1) (by simpa using behind.2)
    next => simp [next]
  next => simp [next]
  next => simp [next]
  next => simp [next]
  next => simp

/-! ### Literals -/

-- The token is the sign that the pattern begins with.
theorem meets_regex {s : Setting} {c : Cursor} {p : String} (here : c.token = .punct p)
    (rest : List Char) (begins : p.toList = '/' :: rest) : Meets text regex regex s c := by
  refine (meets_bind alike_here).2 fun r => ?_
  obtain ⟨value, now⟩ := r.eq rfl
  rw [value, now]
  refine (meets_bind alike_cursor).2 fun r => ?_
  obtain ⟨value, now⟩ := r.eq rfl
  rw [value, now]
  have stands := r.valid.stands
  have spelled := (stands.spelled p.toList (by simp [here, Tail.spelling?])).1
  rw [begins] at spelled
  obtain ⟨same, left⟩ := @behind_widen text _ stands.here ['/'] (rest ++ c.next.chars) spelled
    (by decide) (by simp [Char.utf8Size])
  have taken := Tail.takeRegex_crlf left
  simp only [List.length_cons, List.length_nil, Nat.zero_add] at same left taken
  simp only [here_widen, same]
  rw [show Tail.takeRegex (widen text _) = _ from taken]
  cases read : Tail.takeRegex ⟨c.here.chars.drop 1, c.here.offset + 1⟩ with
  | none => simp
  | some t =>
    have rest := left.trans (Tail.takeRegex_eq_some read)
    exact (meets_bind (alike_moveTo rfl rest)).2 fun _ => by simp

variable {self self' : Goal → Parse Node} (alike : ∀ g, Alike text (self g) (self' g))

include alike

@[simp] theorem alike_template (soundOnly : Bool) :
    Alike text (template self soundOnly) (template self' soundOnly) := by
  have parts := alike_templateParts (alike_enclosed (alike .expression)) soundOnly
  intro s c
  simp [template, parts]

@[simp] theorem alike_arrayLiteral : Alike text (arrayLiteral self) (arrayLiteral self') := by
  refine alike_bind alike_here fun start _ => alike_bind (alike_expect _) fun _ _ =>
    alike_bind (alike_enclosed (alike_loop rfl (by simp) fun parts _ s c => ?_))
      fun parts _ s c => ?_
  · simp [alike]
  · simp

@[simp] theorem alike_objectMethod (start : Nat) (key : Node) (kind : Kind) (form : FunctionForm)
    {accepts : Node → Bool} (same : ∀ n, accepts (widen text n) = accepts n) :
    Alike text (objectMethod self start key kind form accepts)
      (objectMethod self' (widen text start) (widen text key) kind form accepts) := by
  refine alike_bind alike_here fun opened _ =>
    alike_bind (alike_functionTail alike _ _ rfl rfl) fun f _ => alike_bind (alike_failIf (by simp))
      fun _ _ => ?_
  extract_lets rest rest'
  have rests (u : Unit) : Alike text (rest u) (rest' u) := by
    intro s c
    simp [rest, rest']
  intro s c
  rw [part?_widen]
  cases f.part? .params <;> simp [rests, same]

@[simp] theorem alike_objectMember : Alike text (objectMember self) (objectMember self') := by
  refine alike_bind alike_here fun start _ => alike_bind alike_following fun next _ =>
    alike_bind alike_token fun current _ => ?_
  rw [widen_fixed]
  extract_lets w w'
  have same : w' = w := rfl
  clear_value w w'
  subst same
  intro s c
  rcases current with ⟨name, escaped⟩ | _ | _ | _ | _ | _ <;> simp [alike]

@[simp] theorem alike_objectLiteral : Alike text (objectLiteral self) (objectLiteral self') := by
  refine alike_bind alike_here fun start _ => alike_bind (alike_expect _) fun _ _ =>
    alike_bind (alike_enclosed (alike_loop rfl (by simp) fun parts _ s c => ?_))
      fun parts _ s c => ?_
  · simp [alike]
  · simp

/-! ### Arrow functions and parentheses -/

@[simp] theorem alike_arrowTail {start start' : Nat} (async : Bool) {before before' : List Node}
    {ps ps' : Node} {result result' : List Node} (starts : start' = widen text start)
    (first : before' = widen text before) (params : ps' = widen text ps)
    (last : result' = widen text result) : Alike text (arrowTail self start async before ps result)
      (arrowTail self' start' async before' ps' result') := by
  subst starts first params last
  refine alike_bind alike_newline fun _ _ => alike_bind (alike_failIf rfl) fun _ _ =>
    alike_bind (alike_expect _) fun _ _ => ?_
  extract_lets rest rest'
  have rests {body body' : Node} (same : body' = widen text body) :
      Alike text (rest body) (rest' body') := by
    subst same
    intro s c
    simp [rest, rest']
  intro s c
  simp [rests, alike, Setting.forBody]

@[simp] theorem alike_branches (start : Nat) (test : Node) :
    Alike text (branches self start test)
      (branches self' (widen text start) (widen text test)) := by
  intro s c
  simp [branches, alike]

@[simp] theorem alike_assignmentTail (start : Nat) (target : Node) :
    Alike text (assignmentTail self start target)
      (assignmentTail self' (widen text start) (widen text target)) := by
  refine alike_bind alike_operatorAhead fun o left => ?_
  match o with
  | none =>
    intro s c
    simp
  | some (op, after) =>
    have moved := alike_moveTo rfl ((placed_some text _).1 left).2
    intro s c
    simp [moved, alike]
    intro
    cases target.toPattern? .assign <;> simp [alike]

@[simp] theorem alike_skipDecorators : Alike text (skipDecorators self) (skipDecorators self') := by
  refine alike_bind (alike_isPunct _) fun _ _ s c => (meets_ite rfl).2 ⟨fun _ =>
    (meets_bind (alike_lookahead fun s c => ?_)).2 fun before => ?_, fun _ => by simp⟩
  · simp [alike]
  · simp [alike]

@[simp] theorem alike_parenItem : Alike text (parenItem self) (parenItem self') := by
  refine alike_bind (alike_skipDecorators alike) fun _ _ => alike_bind alike_here fun start _ =>
    alike_bind (alike_eat _) fun spread _ => alike_bind alike_typed fun typed _ s c => ?_
  refine (meets_ite rfl).2 ⟨fun _ => by simp [alike], fun _ =>
    (meets_bind_fixed alike_token).2 fun t => ?_⟩
  extract_lets named last more last' more'
  have lasts {r r' : Node × Bool} (same : r' = widen text r) :
      Alike text (last r) (last' r') := by
    subst same
    obtain ⟨e, optional⟩ := r
    refine alike_bind (alike_isPunct _) fun colon _ s c =>
      (meets_ite rfl).2 ⟨fun _ => ?_, fun _ => ?_⟩
    · rw [toPattern?_widen]
      cases e.toPattern? .declare <;> simp [alike]
    · simp
  have mores {e e' : Node} (same : e' = widen text e) : Alike text (more e) (more' e') := by
    subst same
    refine alike_bind (alike_isPunct _) fun mark _ s c => (meets_ite (by simp)).2 ⟨fun _ =>
      (meets_bind alike_following).2 fun next => ?_, fun _ => by simp [lasts]⟩
    simp only [token_widen, kind_widen]
    refine (meets_ite rfl).2 ⟨fun _ => (meets_bind (alike_failIf rfl)).2 fun _ => ?_,
      fun _ => by simp [alike, lasts]⟩
    split <;> simp [lasts]
  simp [alike, mores]

@[simp] theorem alike_parenItems : Alike text (parenItems self) (parenItems self') := by
  refine alike_bind (alike_expect _) fun _ _ =>
    alike_bind (alike_enclosed (alike_loop rfl (by simp) fun items _ s c => ?_))
      fun items _ s c => ?_
  · simp [alike]
  · simp

omit alike in
@[simp] theorem alike_itemsAsParams (start stop : Nat) (items : List Node) (comma : Bool) :
    Alike text (itemsAsParams start stop items comma)
      (itemsAsParams (widen text start) (widen text stop) (widen text items) comma) := by
  intro s c
  simp only [itemsAsParams, toPatterns?_widen]
  cases toPatterns? .declare items <;> simp

@[simp] theorem alike_arrowAfterItems? (start opened : Nat) (async : Bool) (items : List Node)
    (comma : Bool) : Alike text (arrowAfterItems? self start opened async items comma)
      (arrowAfterItems? self' (widen text start) (widen text opened) async (widen text items)
        comma) := by
  refine alike_bind alike_lastStop fun stop _ => alike_bind alike_typed fun typed _ =>
    alike_bind (alike_isPunct _) fun colon _ => ?_
  extract_lets last last'
  have lasts (u : Unit) : Alike text (last u) (last' u) := by
    intro s c
    simp [last, last', alike]
  intro s c
  refine (meets_ite rfl).2 ⟨fun _ => (meets_bind (alike_trial fun s c => ?_)).2 fun found => ?_,
    fun _ => by simp [lasts]⟩
  · simp [alike]
  · simp [lasts]

@[simp] theorem alike_parenthesized : Alike text (parenthesized self) (parenthesized self') := by
  refine alike_bind alike_here fun start _ => alike_bind alike_setting fun setting _ => ?_
  extract_lets mayArrow mayArrow'
  refine alike_bind (alike_parenItems alike) fun r _ => alike_bind alike_lastStop fun stop _ => ?_
  obtain ⟨items, comma⟩ := r
  extract_lets last last'
  have lasts {o o' : Option Node} (same : o' = widen text o) : Alike text (last o) (last' o') := by
    subst same
    intro s c
    cases o with
    | some f => simp [last, last']
    | none =>
      simp only [last, last', widen_none]
      clear last last'
      refine (meets_bind (alike_failIf (by simp))).2 fun _ => ?_
      rcases items with _ | ⟨e, _ | ⟨f, rest⟩⟩
      · simp
      · simp
      · have stops := optionMap_widen text (stop_widen text) (f :: rest).getLast?
        rw [← getLast?_widen, widen_cons] at stops
        simp [stops]
  intro s c
  simp [mayArrow, mayArrow', lasts, alike]

@[simp] theorem alike_genericArrow (start : Nat) (async : Bool) :
    Alike text (genericArrow self start async) (genericArrow self' (widen text start) async) := by
  have ps := alike_parameters alike false
  intro s c
  simp [genericArrow, alike, ps, Setting.forParams]


-- The word takes up five bytes.
theorem meets_asyncStart {s : Setting} {c : Cursor} (here : c.token = .name "async" false) :
    Meets text (asyncStart self) (asyncStart self') s c := by
  refine (meets_bind alike_here).2 fun r => ?_
  obtain ⟨value, now⟩ := r.eq rfl
  rw [value, now]
  have stands := r.valid.stands
  have spelled := (stands.spelled "async".toList (by rw [here]; rfl)).1
  obtain ⟨five, -⟩ := behind_widen stands.here spelled (by decide)
    (by simp [Char.utf8Size])
  have five : widen text c.here.offset + 5 = widen text (c.here.offset + 5) :=
    congrArg Tail.offset five
  generalize c.here.offset = start at five
  refine (meets_bind alike_following).2 fun next => (meets_bind alike_setting).2 fun setting => ?_
  extract_lets mayArrow outer name arrowNext callee mayArrow' outer' name' arrowNext' callee'
  have mays : mayArrow' = mayArrow := widen_beq_some text setting.value.arrowAt start
  have nexts : arrowNext' = arrowNext := by
    simp only [arrowNext, arrowNext', next_widen, next.at_next, token_widen]
  have callees : callee' = widen text callee := by
    simp [callee, callee', five]
  clear_value mayArrow mayArrow' arrowNext arrowNext' callee callee'
  subst mays nexts callees
  have names : Alike text name name' := by
    intro s c
    simp [name, name', outer, outer', alike]
  clear_value name name'
  rw [newline_widen, token_widen]
  refine (meets_ite rfl).2 ⟨fun _ => meets_of_alike names, fun _ => ?_⟩
  split
  next => simp [alike]
  next => simp [alike, names]
  next =>
    refine (meets_ite rfl).2 ⟨fun _ => (meets_bind alike_advance).2 fun _ =>
      (meets_bind alike_here).2 fun opened => (meets_bind (alike_parenItems alike)).2 fun r => ?_,
      fun _ => by simp [names]⟩
    simp [alike]
  next =>
    refine (meets_bind_fixed alike_typed).2 fun typed => (meets_ite rfl).2 ⟨fun _ =>
      (meets_bind_option (alike_trial fun s c => ?_)).2 fun found => ?_, fun _ => by simp [names]⟩
    · simp [alike]
    · simp [names]
  next => simp [names]

@[simp] theorem alike_superStart : Alike text (superStart self) (superStart self') := by
  intro s c
  simp [superStart, alike]

@[simp] theorem alike_importStart : Alike text (importStart self) (importStart self') := by
  intro s c
  simp [importStart, alike]

@[simp] theorem alike_primary : Alike text (primary self) (primary self') := by
  intro s c
  refine (meets_bind alike_here).2 fun r => ?_
  obtain ⟨value, now⟩ := r.eq rfl
  rw [value, now]
  generalize c.here.offset = start
  refine (meets_bind_fixed alike_token).2 fun r => ?_
  obtain ⟨value, now⟩ := r.eq rfl
  rw [value, now]
  split
  next => simp
  next => simp
  next p here =>
    refine (meets_ite rfl).2 ⟨fun _ => by simp [alike], fun _ => ?_⟩
    refine (meets_ite rfl).2 ⟨fun _ => by simp [alike], fun _ => ?_⟩
    refine (meets_ite rfl).2 ⟨fun _ => by simp [alike], fun _ => ?_⟩
    refine (meets_ite rfl).2 ⟨fun _ => by simp [alike], fun _ => ?_⟩
    refine (meets_ite rfl).2 ⟨fun slash => ?_, fun _ => by simp [alike]⟩
    rcases Bool.or_eq_true_iff.1 slash with one | two
    · exact meets_regex (here.trans (congrArg _ (eq_of_beq one))) [] rfl
    · exact meets_regex (here.trans (congrArg _ (eq_of_beq two))) ['='] rfl
  next name escaped here =>
    cases escaped with
    | true => simp [alike]
    | false =>
      by_cases async : name = "async"
      · subst async
        simp [meets_asyncStart alike here]
      · simp [alike, async]
  all_goals simp

omit alike in
@[simp] theorem alike_typeArgumentsEnd : Alike text typeArgumentsEnd typeArgumentsEnd := by
  intro s c
  simp [typeArgumentsEnd]

@[simp] theorem alike_typedLink (start : Nat) (object : Node) (noCall : Bool) :
    Alike text (typedLink self start object noCall)
      (typedLink self' (widen text start) (widen text object) noCall) := by
  intro s c
  simp [typedLink, alike]

@[simp] theorem alike_optionalLink (start : Nat) (object : Node) :
    Alike text (optionalLink self start object)
      (optionalLink self' (widen text start) (widen text object)) := by
  have inside := alike_enclosed (alike .expression)
  intro s c
  simp [optionalLink, alike, inside]

@[simp] theorem alike_links (start : Nat) (object : Node) (noCall : Bool) :
    Alike text (links self start object noCall)
      (links self' (widen text start) (widen text object) noCall) := by
  have inside := alike_enclosed (alike .expression)
  refine alike_loop rfl (by simp) fun object _ s c => ?_
  have typed := alike_trial (alike_typedLink alike start object noCall)
  simp [alike, inside, typed]

@[simp] theorem alike_newExpression : Alike text (newExpression self) (newExpression self') := by
  refine alike_bind alike_here fun start _ => alike_bind (alike_expectWord _) fun _ _ =>
    alike_bind (alike_eat _) fun dot _ s c => (meets_ite rfl).2 ⟨fun _ => by simp, fun _ => ?_⟩
  refine (meets_bind ?_).2 fun callee => (meets_bind_fixed alike_typed).2 fun typed =>
    (meets_bind_fixed alike_angleAhead).2 fun ahead => ?_
  · exact alike_within (fun _ => rfl) (alike .constructed)
  extract_lets last last'
  have lasts {ts ts' : Option Node} (same : ts' = widen text ts) :
      Alike text (last ts) (last' ts') := by
    subst same
    intro s c
    simp [last, last', alike]
  refine (meets_ite rfl).2 ⟨fun _ => (meets_bind (alike_trial fun s c => ?_)).2 fun ts => ?_,
    fun _ => by simp [lasts]⟩
  · simp [alike]
  · simp [lasts]

@[simp] theorem alike_constructed : Alike text (constructed self) (constructed self') := by
  intro s c
  simp [constructed, alike]

@[simp] theorem alike_leftHand : Alike text (leftHand self) (leftHand self') := by
  intro s c
  simp [leftHand, alike]

/-! ### Operators -/

@[simp] theorem alike_postfixOperation :
    Alike text (postfixOperation self) (postfixOperation self') := by
  intro s c
  simp [postfixOperation, alike]

@[simp] theorem alike_typeAssertion : Alike text (typeAssertion self) (typeAssertion self') := by
  intro s c
  simp [typeAssertion, alike]

@[simp] theorem alike_awaitExpression :
    Alike text (awaitExpression self) (awaitExpression self') := by
  intro s c
  simp [awaitExpression, alike]

@[simp] theorem alike_unary : Alike text (unary self) (unary self') := by
  refine alike_bind alike_here fun start _ => alike_bind alike_token fun t _ s c => ?_
  rw [widen_fixed]
  split <;> simp [alike]

@[simp] theorem alike_firstOperand (rank : Nat) :
    Alike text (firstOperand self rank) (firstOperand self' rank) := by
  refine alike_bind alike_token fun t _ s c => ?_
  rw [widen_fixed]
  split <;> simp [alike]

@[simp] theorem alike_operation (rank : Nat) :
    Alike text (operation self rank) (operation self' rank) := by
  refine alike_bind alike_here fun start _ => alike_bind (alike_firstOperand alike rank)
    fun first _ s c => ?_
  rw [kind_widen]
  split
  next => simp
  next =>
    refine alike_loop rfl (by simp) (fun left _ s c => ?_) _ _
    refine (meets_bind_fixed alike_typed).2 fun _ => (meets_bind_fixed alike_newline).2 fun _ =>
      (meets_bind_fixed (alike_isWord _)).2 fun _ =>
      (meets_ite rfl).2 ⟨fun _ => by simp [alike], fun _ => ?_⟩
    refine (meets_bind_fixed alike_typed).2 fun _ => (meets_bind_fixed alike_newline).2 fun _ =>
      (meets_bind_fixed (alike_isWord _)).2 fun _ =>
      (meets_ite rfl).2 ⟨fun _ => by simp [alike], fun _ => ?_⟩
    refine (meets_bind_option alike_operatorAhead).2 fun ahead => ⟨fun _ => by simp, ?_⟩
    rintro ⟨op, after⟩ here
    have behind := (ahead.placed alike_operatorAhead).1
    rw [here, placed_some] at behind
    have moved := alike_moveTo rfl behind.2
    simp only [widen_pair, widen_fixed]
    cases operatorRank? op <;> simp [moved, alike]

@[simp] theorem alike_yieldExpression :
    Alike text (yieldExpression self) (yieldExpression self') := by
  intro s c
  simp [yieldExpression, alike]

@[simp] theorem alike_assignmentBase :
    Alike text (assignmentBase self) (assignmentBase self') := by
  refine alike_bind alike_setting fun setting _ => alike_bind (alike_isWord _) fun _ _ s c =>
    (meets_ite rfl).2 ⟨fun _ => by simp [alike], fun _ => (meets_bind alike_here).2 fun start =>
      (meets_bind_fixed alike_token).2 fun t => ?_⟩
  extract_lets arrowAt arrowAt'
  have same : arrowAt' = widen text arrowAt := by
    simp only [arrowAt, arrowAt']
    split <;> simp [widen_ite]
  clear_value arrowAt arrowAt'
  subst same
  refine (meets_bind ?_).2 fun test => ?_
  · exact alike_within (fun _ => rfl) (alike (.operation 0))
  rw [kind_widen]
  split
  next => simp
  next =>
    refine (meets_bind_fixed (alike_isPunct _)).2 fun mark => (meets_ite rfl).2
      ⟨fun _ => by simp [alike], fun _ => ?_⟩
    split <;> simp [alike]

@[simp] theorem alike_assignment : Alike text (assignment self) (assignment self') := by
  have base := alike_assignmentBase alike
  have inner : Alike text (within (fun s => { s with colonAhead := false }) (assignmentBase self))
      (within (fun s => { s with colonAhead := false }) (assignmentBase self')) :=
    alike_within (fun _ => rfl) base
  refine alike_bind alike_here fun start _ => alike_bind alike_typed fun _ _ =>
    alike_bind alike_angleAhead fun _ _ s c =>
    (meets_ite rfl).2 ⟨fun _ => ?_, fun _ => by simp [base]⟩
  refine (meets_bind alike_setting).2 fun setting => ?_
  extract_lets last more last' more'
  have lasts {o o' : Option Node} (same : o' = widen text o) : Alike text (last o) (last' o') := by
    subst same
    intro s c
    cases o <;> simp [last, last', base]
  have mores {o o' : Option Node} (same : o' = widen text o) : Alike text (more o) (more' o') := by
    subst same
    cases o with
    | some e =>
      intro s c
      simp [more, more']
    | none =>
      refine alike_bind alike_following fun next _ s c => ?_
      extract_lets named named'
      refine (meets_ite rfl).2 ⟨fun _ => (meets_bind (alike_trial fun s c => ?_)).2 fun found => ?_,
        fun _ => by simp [lasts]⟩
      · simp [alike, inner]
      · simp [lasts]
  simp [alike_trial base, mores]

@[simp] theorem alike_expression : Alike text (expression self) (expression self') := by
  refine alike_bind alike_here fun start _ => alike_bind (alike .assignment) fun first _ =>
    alike_bind (alike_isPunct _) fun comma _ s c => (meets_ite rfl).2 ⟨fun _ =>
      (meets_bind (alike_loop rfl (by simp) fun es _ s c => ?_)).2 fun es => ?_, fun _ => by simp⟩
  · simp [alike]
  · simp

end ServerLink.Script.Parse
