import ServerLink.Proofs.Parsing.Classes
import ServerLink.Proofs.Parsing.Patterns
import ServerLink.Script.Grammar.Expression

/-!
Literals, parentheses and arrow functions stand where they are read.
-/

set_option autoImplicit false

namespace ServerLink.Script

open Text

-- A pattern stands where the expression was read that spells it.
theorem Tree.pattern {text : List Char} {c d : Cursor} {n q : Node} {role : PatternRole}
    (h : Tree text c n d) (spelled : n.toPattern? role = some q) :
    Tree text c q d ∧ (role = .declare → q.kind.isSimple = true) := by
  have inside := toPattern?_spelled n spelled h.placed
  obtain ⟨front, -, stop, -⟩ := h.takes.placed
  exact ⟨⟨{ h.takes with placed := ⟨Nat.le_trans front inside.front, inside.placed,
    Nat.le_trans inside.stop stop, trivial⟩ }, inside.plain⟩, inside.simple⟩

namespace Parse

variable {text : List Char} {s : Setting} {c d : Cursor} {self : Goal → Parse Node}
  (sound : Sound text self)

/-! ### Operators -/

-- The operators that begin with an angle bracket but are no tokens.
theorem angled_sound : ∀ op ∈ [">>>=", ">>>", ">>=", ">>", ">="],
    op.toList = '>' :: op.toList.drop 1 ∧ byteLength (op.toList.drop 1) = op.length - 1 ∧
      (op.toList.drop 1).length = op.length - 1 := by
  decide

theorem operatorAhead_stays : Ensures operatorAhead s c fun o d =>
    d = c ∧ ∀ r ∈ o, c.token ≠ .invalid ∧ Tail.LeftOf c.next.chars c.next.offset r.2 := by
  simp only [operatorAhead, ensures_run, ensures_look]
  split
  · rename_i token
    split
    · rename_i op found
      obtain ⟨split, bytes, length⟩ := angled_sound op (List.mem_of_find?_eq_some found)
      have here := List.find?_some found
      rw [split] at here
      refine ensures_pure.2 ⟨rfl, ?_⟩
      rintro _ ⟨⟩
      refine ⟨by simp [token], op.toList.drop 1, ?_, by rw [bytes]⟩
      obtain ⟨rest, whole⟩ : op.toList.drop 1 <+: c.next.chars := by simpa using here
      rw [← whole, List.drop_append_of_le_length (by omega), ← length, List.drop_length]
      rfl
    · refine ensures_pure.2 ⟨rfl, ?_⟩
      rintro _ ⟨⟩
      exact ⟨by simp [token], .refl _ _⟩
  · rename_i token
    refine ensures_pure.2 ⟨rfl, ?_⟩
    rintro _ ⟨⟩
    exact ⟨by simp [token], .refl _ _⟩
  · rename_i token
    simp only [ensures_run, ensures_look]
    refine ensures_ite (fun _ => ?_) fun _ => ensures_pure.2 ⟨rfl, by simp⟩
    refine ensures_pure.2 ⟨rfl, ?_⟩
    rintro _ ⟨⟩
    exact ⟨by simp [token], .refl _ _⟩
  · rename_i token
    refine ensures_pure.2 ⟨rfl, ?_⟩
    rintro _ ⟨⟩
    exact ⟨by simp [token], .refl _ _⟩
  · exact ensures_pure.2 ⟨rfl, by simp⟩

/-! ### Literals -/

theorem regex_tree (cs : List Char) (v : c.Valid text) {p : String} (slash : c.token = .punct p)
    (begins : p.toList = '/' :: cs) : Ensures regex s c (Tree text c) := by
  simp only [regex, ensures_run, ensures_look]
  split
  · rename_i rest taken
    simp only [ensures_run, ensures_look]
    obtain ⟨here, -⟩ := v.stands.spelled p.toList (by simp [slash, Tail.spelling?])
    have left := Tail.takeRegex_eq_some taken
    rw [here, begins] at left
    have low : c.here.offset + 1 ≤ rest.offset := left.le
    refine (v.reads.moveTo ?_ (by omega) (by simp [slash])).node
    rw [here, begins]
    exact .cons_ascii rfl left
  · exact ensures_fail.2 trivial

include sound

theorem template_tree (v : c.Valid text) (here : c.token = .punct "\x60") (soundOnly : Bool) :
    Ensures (template self soundOnly) s c (Tree text c) := by
  simp only [template, enclosed, ensures_run, ensures_look]
  refine (templateParts_takes v (by simp [here, Token.isSolid]) ?_ _).mono fun _ d h => h.node
  exact fun s d v => ensures_within.2 (sound .expression _ _ v)

theorem arrayLiteral_tree (v : c.Valid text) : Ensures (arrayLiteral self) s c (Tree text c) := by
  simp only [arrayLiteral, enclosed, ensures_run, ensures_look]
  intro opened
  have h := v.reads.eaten opened
  refine (ensures_gather (c := c) [] h.toReads ?_).mono fun parts d read closed =>
    (read.eaten closed).node
  intro parts d read
  simp only [ensures_run, ensures_look]
  refine ensures_ite (fun _ => ensures_pure.2 read) fun _ => ?_
  simp only [ensures_run]
  refine ensures_ifEat (fun comma => ?_) ?_
  · simp only [ensures_run]
    exact read.cons (read.valid.reads.eaten comma).node
  simp only [ensures_run]
  refine ensures_ifEat (fun dots => ?_) ?_
  · have h := read.valid.reads.eaten dots
    simp only [ensures_run]
    refine (sound .assignment _ _ h.valid).mono fun e f tree => ?_
    have spread := (h.toReads.tree tree).spread tree.plain
    refine ensures_ifEat (fun comma => ?_) (ensures_pure.2 (read.cons spread))
    simp only [ensures_run, ensures_look]
    refine ensures_ite (fun _ => ?_) fun _ => ensures_pure.2 ((read.cons spread).eaten comma).toReads
    simp only [ensures_run]
    simpa using read.append (spread.hole comma)
  · simp only [ensures_run]
    refine (sound .assignment _ _ read.valid).mono fun e f tree => ?_
    refine ensures_ifEat (fun comma => ?_) (ensures_pure.2 (read.cons tree))
    exact ensures_pure.2 ((read.cons tree).eaten comma).toReads

theorem objectMethod_completes (v : c.Valid text) (start : Nat) (key : Node) (kind : Kind)
    (form : FunctionForm) (accepts : Node → Bool) :
    Ensures (objectMethod self start key kind form accepts) s c
      (Completes text kind start [key] c) := by
  simp only [objectMethod, ensures_run, ensures_look]
  refine (functionTail_completes sound v _ _ _ _).mono fun f d rest _ => ?_
  have function := v.reads.complete rest
  split
  · simp only [ensures_run]
    exact fun _ => ⟨[f], function.takes, rfl⟩
  · simp only [ensures_run]
    exact ⟨[f], function.takes, rfl⟩

theorem objectMember_tree (v : c.Valid text) : Ensures (objectMember self) s c (Tree text c) := by
  have method (s : Setting) (d : Cursor) (h : Reads text c [] d) (kind : Kind)
      (simple : Holds kind.isSimple) (form : FunctionForm) (accepts : Node → Bool) :
      Ensures (propertyName self) s d fun key d =>
        Ensures (objectMethod self c.here.offset key kind form accepts) s d (Tree text c) := by
    refine (propertyName_tree sound h.valid).mono fun key e read => ?_
    have h := h.tree read
    refine (objectMethod_completes sound h.valid _ _ _ _ _).mono fun n f rest => ?_
    exact h.toReads.complete rest
  simp -zeta only [objectMember, angleAhead, ensures_run, ensures_look]
  extract_lets w
  simp only [ensures_run]
  refine ensures_ifEat (fun dots => ?_) ?_
  · have h := v.reads.eaten dots
    simp only [ensures_run]
    exact (sound .assignment _ _ h.valid).mono fun e d read => (h.toReads.tree read).spread read.plain
  refine ensures_ite (fun _ => ?_) fun _ => ?_
  · simp only [ensures_run]
    intro valid
    have h := v.reads.next valid
    exact (eat_reads h.valid _).mono fun _ d star => method s d (h.skip star.1) _ ⟨rfl⟩ _ _
  simp only [ensures_run]
  refine ensures_ifEat (fun star => ?_) ?_
  · simp only [ensures_run]
    exact method s _ (v.reads.eaten star).toReads _ ⟨rfl⟩ _ _
  refine ensures_ite (fun _ => ?_) fun _ => ?_
  · simp only [ensures_run]
    intro valid
    have h := v.reads.next valid
    cases w == "get" with
    | true => exact method s _ h _ ⟨rfl⟩ _ _
    | false => exact method s _ h _ ⟨rfl⟩ _ _
  simp only [ensures_run]
  refine (propertyName_tree sound v).mono fun key d read => ?_
  have h := read.takes
  refine ensures_ifEat (fun colon => ?_) ?_
  · have h := h.toReads.eaten colon
    simp only [ensures_run]
    exact (sound .assignment _ _ h.valid).mono fun e f read => (h.toReads.tree read).node
  simp only [ensures_run, ensures_look]
  refine ensures_ite (fun _ => ?_) fun _ => ?_
  · refine (objectMethod_completes sound h.valid _ _ _ _ _).mono fun n f rest => ?_
    exact h.toReads.complete rest
  split
  · rename_i name _ _
    have use : Tree text c (.mk (.use name false) key.span []) d := read.asUse
    simp only [ensures_run]
    intro _ _
    refine ensures_ifEat (fun equals => ?_) (ensures_node.2 use.takes.node)
    have h := use.takes.toReads.eaten equals
    simp only [ensures_run]
    exact (sound .assignment _ _ h.valid).mono fun e f read => (h.toReads.tree read).node
  · exact ensures_fail.2 trivial

theorem objectLiteral_tree (v : c.Valid text) : Ensures (objectLiteral self) s c (Tree text c) := by
  simp only [objectLiteral, enclosed, ensures_run, ensures_look]
  intro opened
  have h := v.reads.eaten opened
  refine (ensures_gather (c := c) [] h.toReads ?_).mono fun parts d read closed =>
    (read.eaten closed).node
  intro parts d read
  simp only [ensures_run, ensures_look]
  refine ensures_ite (fun _ => ensures_pure.2 read) fun _ => ?_
  simp only [ensures_run]
  refine (objectMember_tree sound read.valid).mono fun p e tree => ?_
  refine ensures_ifEat (fun comma => ?_) (ensures_pure.2 (read.cons tree))
  simp only [ensures_run, ensures_look]
  refine ensures_ite (fun _ => ?_) fun _ => ensures_pure.2 ((read.cons tree).eaten comma).toReads
  simp only [ensures_run]
  simpa using read.append (tree.hole comma)

/-! ### Arrow functions -/

theorem arrowTail_completes (v : c.Valid text) (start : Nat) (async : Bool) (before : List Node)
    (ps : Node) (result : List Node) : Ensures (arrowTail self start async before ps result) s c
      (Completes text .arrow start (before ++ ps :: result) c) := by
  simp -zeta only [arrowTail, ensures_run, ensures_look]
  intro _ arrow
  have h := v.reads.eaten arrow
  extract_lets whole
  have finish (s : Setting) (body : Node) (d : Cursor) (read : Tree text (.at c.next) body d) :
      Ensures (whole body) s d (Completes text .arrow start (before ++ ps :: result) c) :=
    ensures_node.2 ⟨_, h.toReads.tree read, by simp⟩
  refine ensures_ite (fun _ => ?_) fun _ => ?_
  · simp only [ensures_run]
    exact (sound .body _ _ h.valid).mono fun b d read _ => finish s b d read
  · simp only [ensures_run]
    exact (sound .assignment _ _ h.valid).mono fun b d read => finish s b d read

theorem branches_tree (test : Node) (h : Tree text c test d) :
    Ensures (branches self c.here.offset test) s d (Tree text c) := by
  simp only [branches, ensures_run]
  intro mark
  have h := h.takes.toReads.eaten mark
  refine (sound .assignment _ _ h.valid).mono fun yes e read colon => ?_
  have h := (h.toReads.tree read).toReads.eaten colon
  exact (sound .assignment _ _ h.valid).mono fun no f read => (h.toReads.tree read).node

theorem assignmentTail_tree {target : Node} (h : Tree text c target d) :
    Ensures (assignmentTail self c.here.offset target) s d (Tree text c) := by
  simp -zeta only [assignmentTail, ensures_run]
  refine operatorAhead_stays.mono ?_
  rintro o _ ⟨rfl, ahead⟩
  split
  · rename_i d _ op after
    obtain ⟨valid, left⟩ := ahead _ rfl
    refine ensures_ite (fun _ => ?_) fun _ => ensures_ite (fun _ => ?_) fun _ => ensures_pure.2 h
    · extract_lets rest
      have finish (p : Node) (read : Tree text c p d) : Ensures (rest p) s d (Tree text c) := by
        simp only [rest, ensures_run]
        intro valid
        have k := read.takes.toReads.next valid
        exact (sound .assignment _ _ k.valid).mono fun value e read => (k.tree read).node
      split
      · rename_i p spelled
        simp only [ensures_run]
        exact finish p (h.pattern spelled).1
      · simp only [ensures_run]
        exact fun _ => finish target h
    · simp only [ensures_run, ensures_look]
      intro _
      have k := h.takes.toReads.moveOn (h.takes.valid.stands.left.trans left) valid
      exact (sound .assignment _ _ k.valid).mono fun value e read => (k.tree read).node
  · exact ensures_pure.2 h

theorem skipDecorators_reads (v : c.Valid text) :
    Ensures (skipDecorators self) s c fun _ => Reads text c [] := by
  simp only [skipDecorators, ensures_run, ensures_look]
  refine ensures_ite (fun _ => ?_) fun _ => ensures_pure.2 v.reads
  simp only [ensures_run]
  refine ensures_ite (fun _ => ?_) fun _ => ensures_pure.2 v.reads
  simp only [ensures_run]
  exact (decorators_reads sound v).mono fun ds d read => read.1.drop

theorem parenItem_tree (v : c.Valid text) : Ensures (parenItem self) s c (Tree text c) := by
  simp -zeta only [parenItem, ensures_run, ensures_look]
  refine (skipDecorators_reads sound v).mono fun _ c₁ decorators => ?_
  refine (eat_reads decorators.valid _).mono fun spread d dots => ?_
  have h := dots.1
  -- Where nothing was spread, the item is what was read.
  have spreads (s : Setting) (e : Node) (f : Cursor) (read : Tree text c₁ e f) :
      Ensures (if spread = true then node .spread c₁.here.offset [e] else pure e) s f
        (Tree text c) := by
    refine ensures_ite (fun _ => ?_) fun _ => ensures_pure.2 (read.after decorators)
    exact ensures_node.2 ((read.takes.spread read.plain).after decorators)
  refine ensures_ite (fun _ => ?_) fun _ => ?_
  · simp only [ensures_run]
    exact (sound .assignment _ _ h.valid).mono fun e f read => spreads s e f (read.after h)
  simp -zeta only [ensures_run, ensures_look]
  extract_lets named asPattern afterItem
  have pattern (s : Setting) (x : Node × Bool) (f : Cursor) (read : Tree text c₁ x.1 f) :
      Ensures (asPattern x) s f (Tree text c) := by
    simp only [asPattern, ensures_run, ensures_look]
    refine ensures_ite (fun _ => ?_) fun _ => spreads s x.1 f read
    split
    · exact ensures_fail.2 trivial
    · rename_i p spelled
      obtain ⟨tree, simple⟩ := read.pattern spelled
      have simple := simple rfl
      simp only [ensures_run]
      refine ( typeAnnotation?_reads sound tree.takes.valid).mono fun ann g typed => ?_
      refine ensures_ite (fun _ => ?_) fun _ => ?_
      · exact ensures_node.2 ((tree.takes.append typed).node.after decorators)
      · refine (withDefault_pattern sound (tree.annotated simple typed) simple).mono ?_
        exact fun q i made => made.1.after decorators
  have finish (s : Setting) (e : Node) (f : Cursor) (read : Tree text c₁ e f) :
      Ensures (afterItem e) s f (Tree text c) := by
    simp only [afterItem, ensures_run, ensures_look]
    refine ensures_ite (fun mark => ?_) fun _ => ?_
    · simp only [ensures_run, ensures_look]
      refine ensures_ite (fun _ => ?_) fun _ => ensures_ite (fun _ => ?_) fun _ => ?_
      · simp only [ensures_run]
        intro _
        split
        · simp only [ensures_run]
          exact fun valid => pattern s _ _ (read.skip (read.takes.valid.reads.next valid))
        · simp only [ensures_run]
      · simp only [ensures_run]
        exact pattern s _ f read
      · exact (branches_tree sound _ read).mono fun n g tree => tree.after decorators
    · simp only [ensures_run]
      exact pattern s _ f read
  refine ensures_ite (fun _ => ?_) fun _ => ?_
  · simp only [ensures_run, ensures_look]
    refine (sound (.operation 0) _ _ h.valid).mono fun e f read => ?_
    refine ensures_ite (fun _ => ?_) fun _ => ?_
    · simp only [ensures_run]
      exact finish s e f (read.after h)
    · simp only [ensures_run]
      exact (assignmentTail_tree sound read).mono fun n g tree => finish s n g (tree.after h)
  · simp only [ensures_run]
    exact (sound .assignment _ _ h.valid).mono fun e f read => finish s e f (read.after h)

theorem parenItems_reads (v : c.Valid text) : Ensures (parenItems self) s c fun r d =>
    (c.token == .punct "(") = true ∧ (∀ n ∈ r.1, n.kind.isPlain = true) ∧
      ∃ e, Reads text (.at c.next) r.1 e ∧ (e.token == .punct ")") = true ∧ d = .at e.next := by
  simp only [parenItems, enclosed, ensures_run]
  intro opened
  have h := (v.reads.eaten opened).valid
  refine (ensures_rounds (a := ([], false)) (I := fun (r : List Node × Bool) d =>
    (∀ n ∈ r.1, n.kind.isPlain = true) ∧ Reads text (.at c.next) r.1.reverse d)
    ⟨by simp, h.reads⟩ ?_).mono ?_
  · rintro ⟨items, comma⟩ d ⟨plain, read⟩
    simp only [ensures_run, ensures_look]
    refine ensures_ite (fun _ => ensures_pure.2 ⟨plain, read⟩) fun _ => ?_
    simp only [ensures_run]
    refine (parenItem_tree sound read.valid).mono fun n e tree => ?_
    have plain' : ∀ m ∈ n :: items, m.kind.isPlain = true := by
      intro m member
      rcases List.mem_cons.1 member with rfl | later
      · exact tree.plain
      · exact plain m later
    refine ensures_ifEat (fun comma => ?_) (ensures_pure.2 ⟨plain', read.cons tree⟩)
    exact ensures_pure.2 ⟨plain', ((read.cons tree).eaten comma).toReads⟩
  · rintro ⟨items, comma⟩ d ⟨plain, read⟩ closed
    exact ⟨opened, by simpa using plain, d, read, closed, rfl⟩

omit sound in
theorem itemsAsParams_tree {items : List Node} {e : Cursor} (taken : Takes text c items d)
    (comma : Bool) : Ensures (itemsAsParams c.here.offset d.lastStop items comma) s e fun ps f =>
      f = e ∧ Tree text c ps d := by
  simp only [itemsAsParams]
  split
  · exact ensures_fail.2 trivial
  · rename_i ps spelled
    simp only [ensures_run]
    refine fun _ => ⟨trivial, ?_⟩
    have inside := toPatterns?_placed items spelled taken.placed
    exact Takes.node { taken with placed := inside }

-- An arrow function behind parentheses, or nothing, and the cursor stays.
theorem arrowAfterItems?_tree {e : Cursor} {items : List Node} (before : Reads text c [] d)
    (taken : Takes text d items e) (async comma : Bool) :
    Ensures (arrowAfterItems? self c.here.offset d.here.offset async items comma) s e fun o f =>
      (∀ n ∈ o, Tree text c n f) ∧ (o = none → f = e) := by
  have arrow (s : Setting) (ps : Node) (params : Tree text d ps e) (result : List Node) (f : Cursor)
      (returned : Reads text e result f) :
      Ensures (arrowTail self c.here.offset async [] ps result) s f (Tree text c) := by
    have h := (before.tree params).append returned
    refine (arrowTail_completes sound h.valid _ _ _ _ _).mono fun n g rest => ?_
    exact h.toReads.complete (by simpa using rest)
  simp -zeta only [arrowAfterItems?, ensures_run, ensures_look]
  extract_lets plainly
  have finish : Ensures (plainly ()) s e fun o f =>
      (∀ n ∈ o, Tree text c n f) ∧ (o = none → f = e) := by
    simp only [plainly, ensures_run, ensures_look]
    refine ensures_ite (fun _ => ?_) fun _ => ensures_pure.2 ⟨by simp, fun _ => rfl⟩
    simp only [ensures_run]
    refine (itemsAsParams_tree taken comma).mono ?_
    rintro ps _ ⟨rfl, params⟩
    exact (arrow _ ps params [] _ taken.valid.reads).mono fun n f tree => ⟨by simpa using tree, by simp⟩
  refine ensures_ite (fun _ => ?_) fun _ => finish
  simp only [ensures_run]
  refine ensures_trial ?_ finish
  simp only [ensures_run]
  refine (returnAnnotation?_reads sound taken.valid).mono fun result f returned => ?_
  simp only [ensures_look]
  intro _
  refine (itemsAsParams_tree taken comma).mono ?_
  rintro ps _ ⟨rfl, params⟩
  exact (arrow _ ps params result _ returned).mono fun n g tree _ =>
    ensures_pure.2 ⟨by simpa using tree, by simp⟩

theorem parenthesized_tree (v : c.Valid text) :
    Ensures (parenthesized self) s c (Tree text c) := by
  simp -zeta only [parenthesized, ensures_run, ensures_look]
  extract_lets mayArrow
  refine ensures_bind.2 ((parenItems_reads sound v).mono ?_)
  rintro ⟨items, comma⟩ _ ⟨opened, plain, d, read, closed, rfl⟩
  have inner := v.reads.eaten opened
  have taken : Takes text c items (.at d.next) := by
    simpa using (inner.append read).toReads.eaten closed
  simp -zeta only [ensures_run, ensures_look]
  extract_lets afterArrow
  have around (n : Node) (tree : Tree text (.at c.next) n d) :
      Tree text c (.mk .paren ⟨c.here.offset, (Cursor.at d.next).lastStop⟩ [n]) (.at d.next) := by
    simpa using ((inner.append tree.takes.toReads).toReads.eaten closed).node (k := .paren)
  have finish : Ensures (afterArrow none) s (.at d.next) (Tree text c) := by
    simp only [afterArrow, ensures_run]
    intro _
    split
    · exact ensures_fail.2 trivial
    · exact ensures_pure.2 (around _ ⟨read.takes, plain _ (by simp)⟩)
    · rename_i n tail _ _
      obtain ⟨last, atEnd⟩ : ∃ last, (n :: tail).getLast? = some last :=
        ⟨_, List.getLast?_eq_some_getLast (by simp)⟩
      simp only [atEnd, Option.map_some, Option.getD_some]
      exact ensures_pure.2 (around _ (read.spanning (plain n (by simp)) atEnd))
  refine ensures_ite (fun _ => ?_) fun _ => ?_
  · simp only [ensures_run]
    refine (arrowAfterItems?_tree sound v.reads taken false comma).mono ?_
    rintro o f ⟨some, none⟩
    cases o with
    | some n => exact ensures_pure.2 (some n rfl)
    | none =>
      obtain rfl := none rfl
      exact finish
  · simp only [ensures_run]
    exact finish

theorem genericArrow_completes (v : c.Valid text) (start : Nat) (async : Bool) :
    Ensures (genericArrow self start async) s c (Completes text .arrow start [] c) := by
  simp only [genericArrow, ensures_run]
  refine (typeParameters_tree sound v _).mono fun ts d typed => ?_
  refine (parameters_tree sound typed.takes.valid _).mono fun ps e params => ?_
  have h := typed.takes.toReads.tree params
  refine (returnAnnotation?_reads sound h.valid).mono fun result f returned => ?_
  have h := h.append returned
  refine (arrowTail_completes sound h.valid _ _ _ _ _).mono fun n g rest => ?_
  exact h.toReads.completes (by simpa using rest)

theorem asyncStart_tree (v : c.Valid text) (here : c.token = .name "async" false) :
    Ensures (asyncStart self) s c (Tree text c) := by
  simp -zeta only [asyncStart, ensures_run, ensures_look]
  extract_lets mayArrow self' nameHere arrowNext callee
  have arrow (s : Setting) (async : Bool) (ps : Node) (d : Cursor) (h : Takes text c [ps] d) :
      Ensures (arrowTail self c.here.offset async [] ps []) s d (Tree text c) :=
    (arrowTail_completes sound h.valid _ _ _ _ _).mono fun n e rest =>
      h.toReads.complete (by simpa using rest)
  have named : Ensures nameHere s c (Tree text c) := by
    simp only [nameHere, ensures_run, ensures_look]
    refine (plainName_takes v).mono fun name d read => ?_
    refine ensures_ite (fun _ => ?_) fun _ => ensures_pure.2 read.use
    exact arrow s _ _ _ (read.node (k := .bind name false)).around.takes
  refine ensures_ite (fun _ => named) fun _ => ?_
  split
  · simp only [ensures_run]
    intro first second
    have h := (v.reads.next first).next second
    refine (functionAfterWord_completes sound h.valid _ _ _ _).mono fun n d rest _ => ?_
    exact h.complete rest
  · refine ensures_ite (fun _ => ?_) fun _ => named
    simp only [ensures_run, ensures_look]
    intro valid
    have h := v.reads.next valid
    refine (bindingName_takes h.valid).mono fun name d read => ?_
    exact arrow s _ _ _ (h.take (read.node (k := .bind name false)).around.takes)
  · refine ensures_ite (fun _ => ?_) fun _ => named
    simp only [ensures_run, ensures_look]
    intro valid
    have h := v.reads.matched here
    refine (parenItems_reads sound h.valid).mono ?_
    rintro ⟨items, comma⟩ _ ⟨opened, plain, d, read, closed, rfl⟩
    have taken : Takes text (.at c.next) items (.at d.next) := by
      simpa using ((h.valid.reads.eaten opened).append read).toReads.eaten closed
    refine (arrowAfterItems?_tree sound h.toReads taken true comma).mono ?_
    rintro o f ⟨some, none⟩
    cases o with
    | some n => exact ensures_pure.2 (some n rfl)
    | none =>
      obtain rfl := none rfl
      simp only [ensures_run]
      intro _
      have given := h.valid.given opened read closed
        (fun n member => Kind.isDecorated_of_isPlain (plain n member))
      have name := h.use (s := "async") (o := false)
      have width : c.here.offset + 5 = (Cursor.at c.next).lastStop := by
        rw [Cursor.at_lastStop, (v.stands.spelled _ (by rw [here]; rfl)).2]
        rfl
      simp only [callee, width]
      exact .call .none rfl (by simp) name.takes given
  · simp only [ensures_run, ensures_look]
    refine ensures_ite (fun _ => ?_) fun _ => named
    simp only [ensures_run]
    refine ensures_trial ?_ named
    simp only [ensures_run]
    intro valid
    have h := v.reads.next valid
    exact (genericArrow_completes sound h.valid _ _).mono fun n d rest => h.complete rest
  · exact named

end Parse

end ServerLink.Script
