import ServerLink.Proofs.Spelling.Steps

/-!
Expressions that are read as they are spelled: names, texts, calls, and functions that gather their
arguments. Behind each stands a token that closes it, so that no operator goes on with it.
-/

set_option autoImplicit false

namespace ServerLink.Script

/-! ### Tokens around expressions -/

/-- Nothing goes on with an expression that this token follows. -/
def Token.Closes (t : Token) : Prop := t = .punct ")" ∨ t = .punct "," ∨ t = .punct ";"

theorem Token.Closes.not_mark {t : Token} (closes : t.Closes) {p : String}
    (other : p ∉ [")", ",", ";"]) : (t == .punct p) = false := by
  simp only [List.mem_cons, not_or] at other
  obtain rfl | rfl | rfl := closes
  all_goals simp [Ne.symm other.1, Ne.symm other.2.1, Ne.symm other.2.2.1]

theorem Token.Closes.not_name {t : Token} (closes : t.Closes) (w : String) :
    (t == .name w false) = false := by
  obtain rfl | rfl | rfl := closes
  all_goals rfl

-- Words that an expression may begin with and that are no operands themselves.
def operatorWords : List String := ["delete", "void", "typeof", "await", "yield", "new"]

/-- The token begins an operand, and nothing else. -/
def Token.Operand (t : Token) : Prop :=
  t = .punct "(" ∨ (∃ w, t = .text w) ∨ ∃ w, t = .name w false ∧ w ∉ operatorWords

theorem Token.Operand.not_mark {t : Token} (operand : t.Operand) {p : String} (other : p ≠ "(") :
    (t == .punct p) = false := by
  obtain rfl | ⟨w, rfl⟩ | ⟨w, rfl, -⟩ := operand
  all_goals simp [other.symm]

theorem Token.Operand.not_word {t : Token} (operand : t.Operand) {w : String}
    (operator : w ∈ operatorWords) : (t == .name w false) = false := by
  obtain rfl | ⟨v, rfl⟩ | ⟨v, rfl, plain⟩ := operand
  · simp
  · simp
  · simpa using fun same : v = w => plain (same ▸ operator)

theorem Token.Operand.not_angle {t : Token} (operand : t.Operand) :
    t.isAnyOf ["<", "<<"] = false := by
  obtain rfl | ⟨w, rfl⟩ | ⟨w, rfl, -⟩ := operand
  all_goals simp [Token.isAnyOf]

-- A name that can be declared.
def isFree (w : String) : Bool := !(isReserved w || isStrictReserved w || isFixedName w)

-- A name that means the same wherever it is used.
def isOrdinary (w : String) : Bool := isFree w && w != "async"

theorem isReserved_of_isFree {w : String} (free : isFree w = true) :
    isReserved w = false ∧ isStrictReserved w = false := by
  simp only [isFree, Bool.not_eq_true', Bool.or_eq_false_iff] at free
  exact free.1

theorem operand_of_isOrdinary {t : Token} {w : String} (token : t = .name w false)
    (ordinary : isOrdinary w = true) : t.Operand := by
  refine Or.inr (Or.inr ⟨w, token, fun operator => ?_⟩)
  have words : ∀ v ∈ operatorWords, isReserved v = true ∨ isStrictReserved v = true := by decide
  have known := words w operator
  obtain ⟨reserved, strict⟩ := isReserved_of_isFree (Bool.and_eq_true_iff.1 ordinary).1
  simp [reserved, strict] at known

/-! ### Where trees stand -/

namespace Cursor

-- Where a tree stands that was read from one cursor up to another.
def spanTo (c d : Cursor) : Span := ⟨c.here.offset, d.lastStop⟩

-- The tree of a single token.
def leaf (c : Cursor) (k : Kind) : Node := .mk k (c.spanTo (c.skip 1)) []

-- Where an arrow function may begin, when an expression begins here.
def arrowAt (c : Cursor) : Option Nat :=
  match c.token with
  | .name _ _ => some c.here.offset
  | .punct p => if p == "(" then some c.here.offset else none
  | _ => none

end Cursor

-- The setting between brackets.
def Setting.inside (s : Setting) : Setting := { s with allowIn := true, colonAhead := false }

namespace Parse

variable {self : Goal → Parse Node} {s : Setting} {c d f : Cursor} {a b e : Node} {n : Nat}

theorem run_enclosed {α : Type} (p : Parse α) : enclosed p s c = p s.inside c := rfl

/-! ### Through the goals -/

theorem run_postfix (read : self .leftHand s c = some (e, d)) (closes : d.token.Closes) :
    postfixOperation self s c = some (e, d) := by
  obtain token | token | token := closes
  all_goals simp [postfixOperation, run_steps, read, token, Token.isAnyOf]

theorem run_unary (operand : c.token.Operand) (read : self .leftHand s c = some (e, d))
    (closes : d.token.Closes) : unary self s c = some (e, d) := by
  have whole := run_postfix read closes
  obtain token | ⟨w, token⟩ | ⟨w, token, word⟩ := operand
  · simp [unary, run_steps, token, whole]
  · simp [unary, run_steps, token, whole]
  · simp only [operatorWords, List.mem_cons, not_or] at word
    simp [unary, run_steps, token, whole, word]

-- What closes an expression is read as a mark that is no operator.
theorem run_operatorAhead_closes (closes : c.token.Closes) :
    ∃ p, operatorAhead s c = some (some (p, c.next), c) ∧ operatorRank? p = none ∧
      p ∉ assignmentOperators := by
  obtain token | token | token := closes
  · refine ⟨")", ?_, rfl, by decide⟩
    simp only [operatorAhead, run_steps, token, Option.bind_some]
    rfl
  · refine ⟨",", ?_, rfl, by decide⟩
    simp only [operatorAhead, run_steps, token, Option.bind_some]
    rfl
  · refine ⟨";", ?_, rfl, by decide⟩
    simp only [operatorAhead, run_steps, token, Option.bind_some]
    rfl

theorem run_operation (operand : c.token.Operand) (read : self .unary s c = some (e, d))
    (closes : d.token.Closes) (room : 0 < s.budget) : operation self 0 s c = some (e, d) := by
  have first : firstOperand self 0 s c = some (e, d) := by
    obtain token | ⟨w, token⟩ | ⟨w, token, -⟩ := operand
    all_goals simp only [firstOperand, run_steps, token, read, Option.bind_some]
  by_cases arrow : e.kind = .arrow
  next => simp [operation, run_steps, first, arrow]
  next =>
    obtain ⟨p, ahead, rank, -⟩ := run_operatorAhead_closes (s := s) closes
    simp only [operation, run_steps, Option.bind_some, first]
    apply run_loop_last room
    have cast := closes.not_name "as"
    have satisfied := closes.not_name "satisfies"
    simp only [run_steps, Option.bind_some, cast, satisfied, Bool.and_false, Bool.false_eq_true,
      if_false, ahead, rank]

theorem run_assignmentTail (closes : c.token.Closes) (start : Nat) :
    assignmentTail self start e s c = some (e, c) := by
  obtain ⟨p, ahead, -, assigns⟩ := run_operatorAhead_closes (s := s) closes
  have plain : p ≠ "=" := fun same => assigns (same ▸ List.mem_cons_self)
  simp [assignmentTail, run_steps, ahead, assigns, plain]

theorem run_assignmentBase (operand : c.token.Operand)
    (read : self (.operation 0) { s with arrowAt := c.arrowAt } c = some (e, d))
    (closes : d.token.Closes) : assignmentBase self s c = some (e, d) := by
  have tail : assignmentTail self c.here.offset e s d = some (e, d) :=
    run_assignmentTail closes c.here.offset
  have yields := operand.not_word (w := "yield") (by decide)
  have question := closes.not_mark (p := "?") (by decide)
  simp only [assignmentBase, run_steps, Option.bind_some, yields, Bool.and_false,
    Bool.false_eq_true, if_false]
  show Option.bind (self (.operation 0) { s with arrowAt := c.arrowAt } c) _ = _
  rw [read]
  by_cases arrow : e.kind = .arrow
  next => simp [run_steps, arrow]
  next =>
    simp only [Option.bind_some, run_steps, question, Bool.false_eq_true, if_false]
    -- Operations are left as they are, and nothing is assigned to anything else.
    generalize e.kind = k
    cases k <;> first | rfl | exact tail

theorem run_assignment (operand : c.token.Operand)
    (read : self (.operation 0) { s with arrowAt := c.arrowAt } c = some (e, d))
    (closes : d.token.Closes) : assignment self s c = some (e, d) := by
  have whole := run_assignmentBase operand read closes
  simp [assignment, run_steps, angleAhead, operand.not_angle, whole]

theorem read_operation (operand : c.token.Operand)
    (read : leftHand (Goal.read n) s c = some (e, d)) (closes : d.token.Closes)
    (room : 0 < s.budget) : Goal.read (n + 3) (.operation 0) s c = some (e, d) := by
  have unary : Goal.read (n + 2) .unary s c = some (e, d) := run_unary operand read closes
  exact run_operation operand unary closes room

theorem read_assignment (operand : c.token.Operand)
    (read : leftHand (Goal.read n) { s with arrowAt := c.arrowAt } c = some (e, d))
    (closes : d.token.Closes) (room : 0 < s.budget) :
    Goal.read (n + 4) .assignment s c = some (e, d) := by
  have whole : Goal.read (n + 3) (.operation 0) { s with arrowAt := c.arrowAt } c = some (e, d) :=
    read_operation operand read closes room
  exact run_assignment operand whole closes

theorem run_links_closed (closes : c.token.Closes) (room : 0 < s.budget) (start : Nat)
    (noCall : Bool) : links self start e noCall s c = some (e, c) := by
  apply run_loop_last room
  obtain token | token | token := closes
  all_goals simp [run_steps, token, angleAhead, Token.isAnyOf]

theorem run_leftHand (operand : c.token.Operand) (read : primary self s c = some (e, d)) :
    leftHand self s c =
      if e.kind = .arrow then some (e, d) else links self c.here.offset e false s d := by
  have angle := operand.not_mark (p := "<") (by decide)
  have new := operand.not_word (w := "new") (by decide)
  simp only [leftHand, run_steps, Option.bind_some, angle, new, read, Bool.and_false,
    Bool.false_eq_true, if_false, beq_iff_eq]
  split <;> rfl

theorem run_leftHand_closed (operand : c.token.Operand) (read : primary self s c = some (e, d))
    (closes : d.token.Closes) (room : 0 < s.budget) : leftHand self s c = some (e, d) := by
  rw [run_leftHand operand read, run_links_closed closes room]
  split <;> rfl

theorem run_leftHand_arrow (operand : c.token.Operand) (read : primary self s c = some (e, d))
    (arrow : e.kind = .arrow) : leftHand self s c = some (e, d) := by
  rw [run_leftHand operand read, if_pos arrow]

/-! ### Names and texts -/

variable {w : String}

theorem run_plainName (token : c.token = .name w false) (free : isFree w = true) :
    plainName s c = some (w, c.skip 1) := by
  simp only [isFree, isFixedName, Bool.not_eq_true', Bool.or_eq_false_iff] at free
  obtain ⟨⟨reserved, strict⟩, -, arguments⟩ := free
  simp [plainName, run_steps, token, reserved, strict, arguments, run_advance]

theorem run_primary_text (token : c.token = .text w) :
    primary self s c = some (c.leaf (.text w), c.skip 1) := by
  simp [primary, run_steps, token, run_advance, Cursor.leaf, Cursor.spanTo]

theorem run_primary_use (token : c.token = .name w false) (ordinary : isOrdinary w = true)
    (next : (c.skip 1).token ≠ .punct "=>") :
    primary self s c = some (c.leaf (.use w false), c.skip 1) := by
  obtain ⟨free, async⟩ := Bool.and_eq_true_iff.1 ordinary
  have word {v : String} (known : isReserved v = true) : w ≠ v := by
    rintro rfl
    simp [(isReserved_of_isFree free).1] at known
  have name : plainName s c = some (w, c.skip 1) := run_plainName token free
  rw [bne_iff_ne] at async
  simp [primary, run_steps, token, name, next, async, word (v := "this") (by decide),
    word (v := "null") (by decide), word (v := "true") (by decide), word (v := "false") (by decide),
    word (v := "function") (by decide), word (v := "class") (by decide),
    word (v := "super") (by decide), word (v := "import") (by decide), Cursor.leaf, Cursor.spanTo]

theorem run_leftHand_use (token : c.token = .name w false) (ordinary : isOrdinary w = true)
    (closes : (c.skip 1).token.Closes) (room : 0 < s.budget) :
    leftHand self s c = some (c.leaf (.use w false), c.skip 1) := by
  have next : (c.skip 1).token ≠ .punct "=>" :=
    beq_eq_false_iff_ne.1 (closes.not_mark (by decide))
  have use : primary self s c = some (c.leaf (.use w false), c.skip 1) :=
    run_primary_use token ordinary next
  exact run_leftHand_closed (operand_of_isOrdinary token ordinary) use closes room

theorem read_use (token : c.token = .name w false) (ordinary : isOrdinary w = true)
    (closes : (c.skip 1).token.Closes) (room : 0 < s.budget) :
    Goal.read (n + 4) .assignment s c = some (c.leaf (.use w false), c.skip 1) := by
  apply read_assignment (operand_of_isOrdinary token ordinary) _ closes room
  exact run_leftHand_use token ordinary closes room

theorem read_text (token : c.token = .text w) (closes : (c.skip 1).token.Closes)
    (room : 0 < s.budget) :
    Goal.read (n + 4) .assignment s c = some (c.leaf (.text w), c.skip 1) := by
  have operand : c.token.Operand := Or.inr (Or.inl ⟨w, token⟩)
  apply read_assignment operand _ closes room
  exact run_leftHand_closed operand (run_primary_text token) closes room

/-! ### Members and calls -/

theorem run_dotted (token : c.token = .name w false) (start : Nat) (object : Node) :
    dotted start object s c =
      some (.mk (.member w) ⟨start, (c.skip 1).lastStop⟩ [object], c.skip 1) := by
  simp [dotted, anyName, run_steps, run_advance, token]

theorem run_listUntil_two {close : String} {item : Parse Node} (room : 1 < s.budget)
    (filled : c.token ≠ .punct close) (first : item s c = some (a, d)) (comma : d.token = .punct ",")
    (separate : close ≠ ",") (more : (d.skip 1).token ≠ .punct close)
    (second : item s (d.skip 1) = some (b, f)) (closes : f.token = .punct close) :
    listUntil close item s c = some ([a, b], f.skip 1) := by
  obtain ⟨n, budget⟩ : ∃ n, s.budget = n + 1 + 1 := ⟨s.budget - 2, by omega⟩
  simp only [listUntil, run_steps, loop, budget]
  rw [run_loopUpTo_more (b := [a]) (d := d.skip 1), run_loopUpTo_last (b := [b, a]) (d := f)]
  · simp [run_expect closes]
  · simp [run_steps, more, second, closes]
  · simp [run_steps, filled, first, comma, separate.symm, run_expect]

theorem run_callArguments_two (room : 1 < s.budget) (opens : c.token = .punct "(")
    (operand : (c.skip 1).token.Operand) (first : self .assignment s.inside (c.skip 1) = some (a, d))
    (comma : d.token = .punct ",") (operand' : (d.skip 1).token.Operand)
    (second : self .assignment s.inside (d.skip 1) = some (b, f)) (closes : f.token = .punct ")") :
    callArguments self s c = some (.mk .arguments (c.spanTo (f.skip 1)) [a, b], f.skip 1) := by
  have mark {t : Token} (operand : t.Operand) : t ≠ .punct "..." ∧ t ≠ .punct ")" :=
    ⟨beq_eq_false_iff_ne.1 (operand.not_mark (by decide)),
      beq_eq_false_iff_ne.1 (operand.not_mark (by decide))⟩
  have listed : listUntil ")" (do
      let s ← here
      if ← eat "..." then
        let e ← self .assignment
        node .spread s [e]
      else self .assignment) s.inside (c.skip 1) = some ([a, b], f.skip 1) := by
    have room : 1 < s.inside.budget := room
    apply run_listUntil_two room (mark operand).2 _ comma (by decide) (mark operand').2 _ closes
    · simp [run_steps, mark operand, first]
    · simp [run_steps, mark operand', second]
  simp only [callArguments, run_steps, Option.bind_some, run_expect opens]
  rw [Setting.inside] at listed
  simp only [listed, Option.bind_some, Cursor.spanTo]

/-! ### Functions that gather their arguments -/

theorem run_parenItem_spread (dots : c.token = .punct "...")
    (name : (c.skip 1).token = .name w false) (free : isFree w = true)
    (plain : self .assignment s (c.skip 1) = some (e, d))
    (named : self (.operation 0) { s with arrowAt := some (c.skip 1).here.offset } (c.skip 1) =
      some (e, d))
    (closes : d.token.Closes) :
    parenItem self s c = some (.mk .spread (c.spanTo d) [e], d) := by
  have stands : isPlainName (.name w false) = true := by
    simp [isPlainName, (isReserved_of_isFree free).1]
  have question : d.token ≠ .punct "?" := beq_eq_false_iff_ne.1 (closes.not_mark (by decide))
  have colon : d.token ≠ .punct ":" := beq_eq_false_iff_ne.1 (closes.not_mark (by decide))
  cases types : s.typed with
  | false => simp [parenItem, skipDecorators, run_steps, dots, types, plain, Cursor.spanTo]
  | true =>
    rw [types] at named
    simp [parenItem, skipDecorators, run_steps, dots, types, name, stands, named, question, colon,
      Cursor.spanTo]

theorem run_parenItems_one (room : 0 < s.budget) (opens : c.token = .punct "(")
    (filled : (c.skip 1).token ≠ .punct ")")
    (item : parenItem self s.inside (c.skip 1) = some (e, d)) (closes : d.token = .punct ")") :
    parenItems self s c = some (([e], false), d.skip 1) := by
  have room : 0 < s.inside.budget := room
  simp only [parenItems, run_steps, Option.bind_some, run_expect opens, run_enclosed]
  rw [run_loop_last room (b := ([e], false)) (d := d)]
  · simp [run_expect closes]
  · simp [run_steps, filled, item, closes]

theorem run_primary_arrow {items : List Node} (opens : c.token = .punct "(")
    (start : s.arrowAt = some c.here.offset)
    (read : parenItems self s c = some ((items, false), d))
    (arrow : arrowAfterItems? self c.here.offset c.here.offset false items false s d =
      some (some e, f)) : primary self s c = some (e, f) := by
  simp [primary, parenthesized, run_steps, opens, start, read, arrow]

theorem run_arrowAfterItems {items params : List Node} {start opened : Nat}
    (arrow : c.token = .punct "=>") (line : c.newline = false)
    (patterns : toPatterns? .declare items = some params)
    (plain : (c.skip 1).token ≠ .punct "\x7b")
    (body : self .assignment
      { s with async := false, generator := false, inFunction := true, inParams := false,
               allowBreak := false, allowContinue := false, labels := [] } (c.skip 1) =
        some (e, d)) :
    arrowAfterItems? self start opened false items false s c =
      some (some (.mk .arrow ⟨start, d.lastStop⟩
        [.mk .params ⟨opened, c.lastStop⟩ params, e]), d) := by
  simp [arrowAfterItems?, itemsAsParams, arrowTail, run_steps, arrow, line, patterns, plain, body,
    run_expect]

end Parse

end ServerLink.Script
