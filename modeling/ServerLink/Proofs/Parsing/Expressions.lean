import ServerLink.Proofs.Parsing.Arrows
import ServerLink.Proofs.Parsing.Markup

/-!
Members, calls and operations stand where they are read.
-/

set_option autoImplicit false

namespace ServerLink.Script.Parse

open Text

variable {text : List Char} {s : Setting} {c d : Cursor} {self : Goal → Parse Node}
  (sound : Sound text self)

/-! ### Members and calls -/

-- A link stands where what it links stands, as part of a chain or not.
theorem linked_tree {n : Node} (h : Tree text c n d) (chained : Bool) :
    Tree text c (linked chained n) d := by
  cases chained with
  | true => exact h.around
  | false => exact h

theorem typeArgumentsEnd_stays : Ensures typeArgumentsEnd s c fun _ d => d = c := by
  simp only [typeArgumentsEnd, ensures_run, ensures_look]
  refine ensures_ite (fun _ => ensures_pure.2 rfl) fun _ => ?_
  simp only [ensures_run, ensures_look]
  refine ensures_ite (fun _ => ensures_pure.2 rfl) fun _ => ?_
  simp only [ensures_run]
  refine operatorAhead_stays.mono ?_
  rintro o _ ⟨rfl, -⟩
  rfl

include sound

theorem superStart_tree (v : c.Valid text) : Ensures (superStart self) s c (Tree text c) := by
  simp only [superStart, ensures_run, ensures_look]
  intro word
  have h := v.reads.eaten word
  refine ensures_ite (fun _ => ?_) fun _ => ?_
  · simp only [ensures_run]
    refine (callArguments_given sound h.valid).mono fun args d given => ?_
    exact (h.node.takes.append given.takes.toReads).node
  · simp only [ensures_run, ensures_look]
    exact fun _ => h.node

theorem importStart_tree (v : c.Valid text) : Ensures (importStart self) s c (Tree text c) := by
  have called (d : Cursor) (h : Reads text c [] d) : Ensures (callArguments self) s d fun args e =>
      Ensures (node .importCall c.here.offset [args]) s e (Tree text c) :=
    (callArguments_given sound h.valid).mono fun args e given =>
      ensures_node.2 (h.take given.takes).node
  simp only [importStart, ensures_run, ensures_look]
  intro word
  have h := v.reads.eaten word
  refine ensures_ifEat (fun dot => ?_) ?_
  · have h := h.toReads.eaten dot
    simp only [ensures_run]
    refine (anyName_takes h.valid).mono fun w e read => ?_
    have h := h.append read.toReads
    refine ensures_ite (fun _ => ensures_node.2 h.node) fun _ => ?_
    simp only [ensures_bind, ensures_failIf]
    exact fun _ => called e h.toReads
  · simp only [ensures_bind]
    exact called _ h.toReads

theorem primary_tree (v : c.Valid text) : Ensures (primary self) s c (Tree text c) := by
  have arrow (d : Cursor) (name : String) (h : Takes text c [] d) :
      Ensures (arrowTail self c.here.offset false [] (.mk .params ⟨c.here.offset, d.lastStop⟩
        [.mk (.bind name false) ⟨c.here.offset, d.lastStop⟩ []]) []) s d (Tree text c) := by
    have params := (h.node (k := .bind name false)).around (k := .params)
    refine (arrowTail_completes sound h.valid _ _ _ _ _).mono fun n e rest => ?_
    exact params.takes.toReads.complete (by simpa using rest)
  simp only [primary, ensures_run, ensures_look]
  split
  · rename_i here
    simp only [ensures_run]
    exact fun _ => (v.reads.matched here).node
  · rename_i here
    simp only [ensures_run]
    exact fun _ => (v.reads.matched here).node
  · rename_i p here
    refine ensures_ite (fun _ => parenthesized_tree sound v) fun _ => ?_
    refine ensures_ite (fun _ => arrayLiteral_tree sound v) fun _ => ?_
    refine ensures_ite (fun _ => objectLiteral_tree sound v) fun _ => ?_
    refine ensures_ite (fun tick => ?_) fun _ => ?_
    · exact template_tree sound v (eq_of_beq tick ▸ here) true
    refine ensures_ite (fun slash => ?_) fun _ => ?_
    · rcases Bool.or_eq_true_iff.1 slash with plain | equals
      · exact regex_tree [] v here (by rw [eq_of_beq plain]; rfl)
      · exact regex_tree ['='] v here (by rw [eq_of_beq equals]; rfl)
    refine ensures_ite (fun _ => ?_) fun _ => ensures_fail.2 trivial
    simp only [ensures_run]
    refine (decorators_reads sound v).mono ?_
    rintro ds d ⟨before, -⟩ word
    have h := before.eaten word
    refine (classTail_completes sound h.valid _ _ _ _).mono fun n e rest => ?_
    exact h.toReads.complete rest
  · rename_i name escaped here
    refine ensures_ite (fun _ => ?_) fun plain => ?_
    · simp only [ensures_run, ensures_look]
      refine (plainName_takes v).mono fun name d read => ?_
      refine ensures_ite (fun _ => arrow d name read) fun _ => ensures_pure.2 read.use
    have h := v.reads.matched here
    refine ensures_ite (fun _ => ?_) fun _ => ensures_ite (fun _ => ?_) fun _ =>
      ensures_ite (fun _ => ?_) fun _ => ?_
    · simp only [ensures_run]
      exact fun _ => h.node
    · simp only [ensures_run]
      intro _
      refine (functionAfterWord_completes sound h.valid _ _ _ _).mono fun n d rest _ => ?_
      exact h.toReads.complete rest
    · simp only [ensures_run]
      intro _
      exact (classTail_completes sound h.valid _ _ _ _).mono fun n d rest => h.toReads.complete rest
    refine ensures_ite (fun _ => superStart_tree sound v) fun _ => ?_
    refine ensures_ite (fun _ => importStart_tree sound v) fun _ => ?_
    refine ensures_ite (fun async => ?_) fun _ => ?_
    · refine asyncStart_tree sound v ?_
      rw [here, eq_of_beq async, eq_false_of_ne_true plain]
    simp only [ensures_run, ensures_look]
    refine (plainName_takes v).mono fun name d read => ?_
    refine ensures_ite (fun _ => ?_) fun _ => ensures_pure.2 read.use
    simp only [ensures_run]
    exact fun _ => arrow d name read
  · exact ensures_fail.2 trivial
  · exact ensures_fail.2 trivial
  · exact ensures_fail.2 trivial

theorem typedLink_tree {object : Node} (h : Tree text c object d) (noCall : Bool) :
    Ensures (typedLink self c.here.offset object noCall) s d (Tree text c) := by
  simp only [typedLink, ensures_run, ensures_look]
  refine (typeArguments_takes sound h.takes.valid).mono ?_
  rintro ts e ⟨typed, kind⟩
  have k := h.takes.append typed.toReads
  refine ensures_ite (fun _ => ?_) fun _ => ?_
  · simp only [ensures_run]
    intro _
    refine (callArguments_given sound k.valid).mono fun args f given => ?_
    refine ensures_ite (fun _ => ?_) fun _ => ?_
    · simp only [ensures_run]
      exact linked_tree (k.append given.takes.toReads).node true
    · exact ensures_node.2 (.call (some ts) h.plain (by simpa using kind) k given)
  simp only [ensures_run, ensures_look]
  refine ensures_ite (fun tick => ?_) fun _ => ?_
  · simp only [ensures_run]
    intro _
    refine (template_tree sound k.valid (eq_of_beq tick) false).mono fun t f read => ?_
    exact (k.append read.takes.toReads).node
  · simp only [ensures_run]
    refine typeArgumentsEnd_stays.mono ?_
    rintro b _ rfl _
    exact k.node

theorem optionalLink_tree {object : Node} (h : Takes text c [object] d) :
    Ensures (optionalLink self c.here.offset object) s d (Tree text c) := by
  simp only [optionalLink, angleAhead, enclosed, ensures_run, ensures_look]
  refine ensures_ite (fun _ => ?_) fun _ => ?_
  · simp only [ensures_run]
    refine (callArguments_given sound h.valid).mono fun args e given => ?_
    exact linked_tree (h.append given.takes.toReads).node true
  simp only [ensures_run]
  refine ensures_ifEat (fun opened => ?_) ?_
  · have h := h.toReads.eaten opened
    simp only [ensures_run]
    refine (sound .expression _ _ h.valid).mono fun e f read closed => ?_
    exact linked_tree ((h.toReads.tree read).toReads.eaten closed).node true
  simp only [ensures_run, ensures_look]
  refine ensures_ite (fun _ => ?_) fun _ => ?_
  · simp only [ensures_run]
    refine (typeArguments_takes sound h.valid).mono ?_
    rintro ts e ⟨typed, -⟩
    have h := h.append typed.toReads
    refine (callArguments_given sound h.valid).mono fun args f given => ?_
    exact linked_tree (h.append given.takes.toReads).node true
  · simp only [ensures_run]
    exact (dotted_tree h).mono fun n e tree => linked_tree tree true

theorem links_tree {object : Node} (h : Tree text c object d) (noCall : Bool) :
    Ensures (links self c.here.offset object noCall) s d (Tree text c) := by
  refine ensures_rounds (I := Tree text c) h fun object d h => ?_
  have k := h.takes.toReads
  simp only [angleAhead, enclosed, ensures_run]
  refine ensures_ifEat (fun dot => ?_) ?_
  · simp only [ensures_run]
    exact (dotted_tree (k.eaten dot)).mono fun n e tree => linked_tree tree _
  simp only [ensures_run, ensures_look]
  refine ensures_ite (fun mark => ?_) fun _ => ?_
  · simp only [ensures_run]
    exact fun _ _ => optionalLink_tree sound (k.eaten mark)
  simp only [ensures_run]
  refine ensures_ifEat (fun opened => ?_) ?_
  · have k := k.eaten opened
    simp only [ensures_run]
    refine (sound .expression _ _ k.valid).mono fun e f read closed => ?_
    exact linked_tree ((k.toReads.tree read).toReads.eaten closed).node _
  simp only [ensures_run, ensures_look]
  refine ensures_ite (fun _ => ?_) fun _ => ?_
  · simp only [ensures_run]
    refine (callArguments_given sound k.valid).mono fun args e given => ?_
    refine ensures_ite (fun _ => ?_) fun _ => ?_
    · simp only [ensures_run]
      exact linked_tree (h.takes.append given.takes.toReads).node true
    · simp only [ensures_run]
      exact .call none h.plain (by simp) h.takes given
  simp only [ensures_run, ensures_look]
  refine ensures_ite (fun tick => ?_) fun _ => ?_
  · simp only [ensures_run]
    intro _
    refine (template_tree sound k.valid (eq_of_beq tick) false).mono fun t e read => ?_
    exact (h.takes.append read.takes.toReads).node
  simp only [ensures_run, ensures_look]
  refine ensures_ite (fun mark => ?_) fun _ => ?_
  · simp only [ensures_run]
    exact fun _ => (k.eaten (Bool.and_eq_true_iff.1 (Bool.and_eq_true_iff.1 mark).1).2).node
  simp only [ensures_run, ensures_look]
  refine ensures_ite (fun _ => ?_) fun _ => ensures_pure.2 h
  simp only [ensures_run]
  exact ensures_trial ((typedLink_tree sound h noCall).mono fun n e tree => ensures_pure.2 tree)
    (ensures_pure.2 h)

theorem newExpression_tree (v : c.Valid text) :
    Ensures (newExpression self) s c (Tree text c) := by
  simp -zeta only [newExpression, angleAhead, ensures_run, ensures_look]
  intro word
  have h := v.reads.eaten word
  refine ensures_ifEat (fun dot => ?_) ?_
  · simp only [ensures_run, ensures_look]
    exact fun target _ => ((h.toReads.eaten dot).toReads.eaten target).node
  simp -zeta only [ensures_run, ensures_look]
  refine (sound .constructed _ _ h.valid).mono fun callee d read => ?_
  have h := h.toReads.tree read
  extract_lets afterTypes
  have finish (ts : Option Node) (e : Cursor) (typed : Reads text d ts.toList e) :
      Ensures (afterTypes ts) s e (Tree text c) := by
    simp only [afterTypes, ensures_run, ensures_look]
    have h := h.append typed
    refine ensures_ite (fun _ => ?_) fun _ => ?_
    · simp only [ensures_run]
      refine (callArguments_given sound h.valid).mono fun args f given => ?_
      simpa using (h.append given.takes.toReads).node (k := .construct)
    · simp only [ensures_run]
      simpa using h.node (k := .construct)
  refine ensures_ite (fun _ => ?_) fun _ => ?_
  · simp only [ensures_run]
    refine ensures_trial ?_ (finish none d h.valid.reads)
    simp only [ensures_run]
    refine (typeArguments_takes sound h.valid).mono fun ts e typed => ?_
    simp only [ensures_look]
    exact fun _ => finish (some ts) e typed.1.toReads
  · simp only [ensures_run]
    exact finish none d h.valid.reads

theorem constructed_tree (v : c.Valid text) : Ensures (constructed self) s c (Tree text c) := by
  simp only [constructed, ensures_run, ensures_look]
  refine ensures_either (Tree text c) (fun _ => newExpression_tree sound v)
    (fun _ => primary_tree sound v) fun e d read => ?_
  simp only [ensures_run]
  exact fun _ => links_tree sound read true

theorem leftHand_tree (v : c.Valid text) : Ensures (leftHand self) s c (Tree text c) := by
  simp only [leftHand, ensures_run, ensures_look]
  refine ensures_ite (fun _ => ?_) fun _ => ?_
  · simp only [ensures_run]
    exact (sound .markup _ _ v).mono fun m d read _ => read.tree _ (.refl _ _)
  simp only [ensures_run, ensures_look]
  refine ensures_either (Tree text c) (fun _ => newExpression_tree sound v)
    (fun _ => primary_tree sound v) fun e d read => ?_
  exact ensures_ite (fun _ => ensures_pure.2 read) fun _ => links_tree sound read false

/-! ### Operators -/

theorem postfixOperation_tree (v : c.Valid text) :
    Ensures (postfixOperation self) s c (Tree text c) := by
  simp only [postfixOperation, ensures_run, ensures_look]
  refine (sound .leftHand _ _ v).mono fun e d (read : Tree text c e d) => ?_
  refine ensures_ite (fun mark => ?_) fun _ => ensures_pure.2 read
  simp only [ensures_run]
  exact fun _ _ => (read.takes.toReads.anyOf (Bool.and_eq_true_iff.1 mark).2).node

theorem typeAssertion_tree (v : c.Valid text) :
    Ensures (typeAssertion self) s c (Tree text c) := by
  simp -zeta only [typeAssertion, ensures_run, ensures_look]
  refine (openAngle_takes v).mono fun _ d h => ?_
  extract_lets afterType
  have finish (t : List Node) (e : Cursor) (read : Reads text d t e) :
      Ensures (afterType t) s e (Tree text c) := by
    simp only [afterType, ensures_run]
    intro closed
    have h := (h.append read).toReads.eaten closed
    exact (sound .unary _ _ h.valid).mono fun e f read => (h.toReads.tree read).node
  refine ensures_ite (fun _ => ?_) fun _ => ?_
  · simp only [ensures_run]
    exact fun valid => finish [] _ (h.valid.reads.next valid)
  · simp only [ensures_run]
    exact (sound .type _ _ h.valid).mono fun t e read => finish [t] e read.takes.toReads

theorem awaitExpression_tree (v : c.Valid text) :
    Ensures (awaitExpression self) s c (Tree text c) := by
  simp only [awaitExpression, ensures_run, ensures_look]
  intro _ valid
  have h := v.reads.next valid
  exact (sound .unary _ _ h.valid).mono fun e d read => (h.tree read).node

theorem unary_tree (v : c.Valid text) : Ensures (unary self) s c (Tree text c) := by
  have operand (valid : c.token ≠ .invalid) (kind : Kind) (simple : Holds kind.isSimple) :
      Ensures (self .unary) s (.at c.next) fun e d =>
        Tree text c (.mk kind ⟨c.here.offset, d.lastStop⟩ [e]) d := by
    have h := v.reads.next valid
    exact (sound .unary _ _ h.valid).mono fun e d read => (h.tree read).node
  simp only [unary, ensures_run, ensures_look]
  split
  · refine ensures_ite (fun _ => ?_) fun _ => ?_
    · simp only [ensures_run]
      exact fun valid => operand valid _ ⟨rfl⟩
    refine ensures_ite (fun _ => ?_) fun _ => ?_
    · simp only [ensures_run]
      exact fun valid => (operand valid _ ⟨rfl⟩).mono fun e d tree _ => tree
    simp only [ensures_run, ensures_look]
    exact ensures_ite (fun _ => typeAssertion_tree sound v) fun _ => postfixOperation_tree sound v
  · refine ensures_ite (fun _ => ?_) fun _ => ?_
    · simp only [ensures_run, ensures_look]
      exact fun valid => (operand valid _ ⟨rfl⟩).mono fun e d tree _ => tree
    exact ensures_ite (fun _ => awaitExpression_tree sound v) fun _ => postfixOperation_tree sound v
  · exact postfixOperation_tree sound v

theorem firstOperand_tree (v : c.Valid text) (rank : Nat) :
    Ensures (firstOperand self rank) s c (Tree text c) := by
  simp only [firstOperand, ensures_run, ensures_look]
  split
  · rename_i here
    simp only [ensures_run, ensures_look]
    intro _
    refine operatorAhead_stays.mono ?_
    rintro o _ ⟨rfl, -⟩ _
    exact (v.reads.matched here).node
  · exact sound .unary _ _ v

theorem operation_tree (v : c.Valid text) (rank : Nat) :
    Ensures (operation self rank) s c (Tree text c) := by
  simp only [operation, ensures_run, ensures_look]
  refine (firstOperand_tree sound v rank).mono fun first d read => ?_
  split
  · exact ensures_pure.2 read
  refine ensures_rounds (I := Tree text c) read fun left d h => ?_
  have k := h.takes
  simp only [ensures_run, ensures_look]
  refine ensures_ite (fun _ => ?_) fun _ => ?_
  · simp only [ensures_run]
    intro valid
    have k := k.append (k.valid.reads.next valid)
    refine ensures_ifEatWord (fun const => ?_) ?_
    · simp only [ensures_run]
      exact (k.toReads.eaten const).node
    · simp only [ensures_run]
      exact (sound .type _ _ k.valid).mono fun t e read => (k.toReads.tree read).node
  simp only [ensures_run, ensures_look]
  refine ensures_ite (fun _ => ?_) fun _ => ?_
  · simp only [ensures_run]
    intro valid
    have k := k.append (k.valid.reads.next valid)
    exact (sound .type _ _ k.valid).mono fun t e read => (k.toReads.tree read).node
  simp only [ensures_run]
  refine operatorAhead_stays.mono ?_
  rintro o _ ⟨rfl, ahead⟩
  split
  · exact ensures_pure.2 h
  · rename_i op after
    obtain ⟨valid, left⟩ := ahead _ rfl
    split
    · exact ensures_pure.2 h
    · refine ensures_ite (fun _ => ensures_pure.2 h) fun _ => ?_
      simp only [ensures_run, ensures_look]
      intro _
      have k := k.toReads.moveOn (k.valid.stands.left.trans left) valid
      exact (sound (.operation _) _ _ k.valid).mono fun right e read _ => (k.tree read).node

theorem yieldExpression_tree (v : c.Valid text) (word : (c.token == .name "yield" false) = true) :
    Ensures (yieldExpression self) s c (Tree text c) := by
  simp only [yieldExpression, ensures_run, ensures_look]
  intro _ _
  have h := v.reads.eaten word
  refine ensures_ite (fun _ => ensures_node.2 h.node) fun _ => ?_
  simp only [ensures_run]
  refine (eat_reads h.valid _).mono fun _ d star => ?_
  have h := h.skip star.1
  exact (sound .assignment _ _ h.valid).mono fun e f read => (h.toReads.tree read).node

theorem assignmentBase_tree (v : c.Valid text) :
    Ensures (assignmentBase self) s c (Tree text c) := by
  simp only [assignmentBase, ensures_run, ensures_look]
  refine ensures_ite (fun word => ?_) fun _ => ?_
  · exact yieldExpression_tree sound v (Bool.and_eq_true_iff.1 word).2
  simp only [ensures_run, ensures_look]
  refine (sound (.operation 0) _ _ v).mono fun test d (read : Tree text c test d) => ?_
  split
  · exact ensures_pure.2 read
  · simp only [ensures_run, ensures_look]
    refine ensures_ite (fun _ => branches_tree sound test read) fun _ => ?_
    split
    iterate 3 exact ensures_pure.2 read
    exact assignmentTail_tree sound read

theorem assignment_tree (v : c.Valid text) : Ensures (assignment self) s c (Tree text c) := by
  have base (s : Setting) : Ensures (assignmentBase self) s c (Tree text c) :=
    assignmentBase_tree sound v
  simp -zeta only [assignment, angleAhead, ensures_run, ensures_look]
  refine ensures_ite (fun _ => ?_) fun _ => base s
  simp -zeta only [ensures_run, ensures_look]
  extract_lets afterGeneric afterMarkup
  have plainly : Ensures (afterMarkup none) s c (Tree text c) := by
    simp only [afterMarkup, ensures_run, ensures_look]
    refine ensures_ite (fun _ => ?_) fun _ => ?_
    · simp only [ensures_run]
      refine ensures_trial ?_ (base s)
      simp only [ensures_run]
      refine (typeParameters_tree sound v _).mono fun ts d typed => ?_
      refine (assignmentBase_tree sound typed.takes.valid).mono fun e f read arrow => ?_
      have kind : e.kind = .arrow := by simpa using arrow
      have tree := read.preceded (by rw [kind]) typed.takes.toReads
      rw [kind] at tree
      exact ensures_pure.2 tree
    · simp only [ensures_run]
      exact base s
  refine ensures_ite (fun _ => ?_) fun _ => ?_
  · simp only [ensures_run]
    exact ensures_trial ((base _).mono fun e d read => ensures_pure.2 read) plainly
  · simp only [ensures_run]
    exact plainly

theorem expression_tree (v : c.Valid text) : Ensures (expression self) s c (Tree text c) := by
  simp only [expression, ensures_run, ensures_look]
  refine (sound .assignment _ _ v).mono fun first d (read : Tree text c first d) => ?_
  refine ensures_ite (fun _ => ?_) fun _ => ensures_pure.2 read
  simp only [ensures_run]
  refine (ensures_rounds (I := fun es e => ∃ more, es = more ++ [first] ∧
    Reads text d more.reverse e) ⟨[], rfl, read.takes.valid.reads⟩ ?_).mono ?_
  · rintro _ e ⟨more, rfl, h⟩
    simp only [ensures_run]
    refine ensures_ifEat (fun comma => ?_) (ensures_pure.2 ⟨more, rfl, h⟩)
    have h := h.eaten comma
    simp only [ensures_run]
    exact (sound .assignment _ _ h.valid).mono fun n f tree => ⟨n :: more, rfl, h.toReads.cons tree⟩
  · rintro _ e ⟨more, rfl, h⟩
    simpa using (read.takes.append h).node (k := .sequence)

end ServerLink.Script.Parse
