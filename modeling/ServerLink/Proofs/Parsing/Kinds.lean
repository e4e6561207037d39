import ServerLink.Proofs.Parsing.Steps
import ServerLink.Module

/-!
Which items are imports, and which declare values. What any other rule reads is neither, so that
whatever a module imports or declares was read as such.
-/

set_option autoImplicit false

namespace ServerLink.Script

namespace Parse

variable {α β : Type} {P : β → Prop} {Q : α → Prop}

-- Whatever the step gives has the property, wherever the cursor is.
def Always (p : Parse α) (Q : α → Prop) : Prop :=
  ∀ s c, Ensures p s c fun a _ => Q a

theorem always_pure {a : α} (h : Q a) : Always (pure a) Q :=
  fun _ _ => ensures_pure.2 h

theorem always_fail : Always fail Q :=
  fun _ _ => ensures_fail.2 trivial

theorem always_bind {p : Parse β} {f : β → Parse α} (h : ∀ b, Always (f b) Q) :
    Always (p >>= f) Q := by
  intro s c
  refine ensures_bind.2 ?_
  intro b d _
  exact h b s d

theorem always_after {p : Parse β} {f : β → Parse α} (first : Always p P)
    (rest : ∀ b, P b → Always (f b) Q) : Always (p >>= f) Q := by
  intro s c
  refine ensures_bind.2 ?_
  intro b d given
  exact rest b (first s c b d given) s d

theorem always_ite {b : Prop} [Decidable b] {p q : Parse α} (yes : Always p Q) (no : Always q Q) :
    Always (if b then p else q) Q := by
  split
  · exact yes
  · exact no

theorem Always.mono {R : α → Prop} {p : Parse α} (h : Always p Q) (imp : ∀ a, Q a → R a) :
    Always p R :=
  fun s c => (h s c).mono fun a _ => imp a

theorem always_within {p : Parse α} {f : Setting → Setting} (h : Always p Q) :
    Always (within f p) Q :=
  fun s c => h (f s) c

end Parse

/-- The tree is no import. -/
def Node.IsOther (n : Node) : Prop := isImport n.kind = false

/-- Items of this kind neither import nor export, and declare no variables or functions. -/
def Kind.isQuiet (k : Kind) : Bool :=
  match k with
  | .importDecl _ _ | .exportDecl | .variables _ | .functionDecl => false
  | _ => true

def Node.IsQuiet (n : Node) : Prop := n.kind.isQuiet = true

theorem Node.IsQuiet.other {n : Node} (quiet : n.IsQuiet) : n.IsOther := by
  obtain ⟨k, span, ps⟩ := n
  cases k <;> first | rfl | simp [IsQuiet, Kind.isQuiet] at quiet

/-- Declarations of variables, by any of their words. -/
def Kind.isVariables (k : Kind) : Bool :=
  match k with
  | .variables _ | .resources => true
  | _ => false

theorem Kind.isImport_of_isVariables {k : Kind} (declares : k.isVariables = true) :
    isImport k = false := by
  cases k <;> first | rfl | simp [isVariables] at declares

namespace Parse

theorem always_node {P : Node → Prop} {k : Kind} {start : Nat} {ps : List Node}
    (h : ∀ span, P (.mk k span ps)) : Always (node k start ps) P :=
  fun _ _ => ensures_node.2 (h _)

variable (self : Goal → Parse Node)

theorem always_some {P : Node → Prop} {p : Parse Node} (h : Always p P) :
    Always (p >>= fun n => pure (some n)) fun o => ∀ n ∈ o, P n :=
  always_after h fun _ holds => always_pure (by simpa using holds)

theorem always_none {P : Node → Prop} : Always (pure none) fun o => ∀ n ∈ o, P n :=
  always_pure (by simp)

theorem variableWords_variables :
    Always variableWords fun words => ∀ found ∈ words, found.1.isVariables = true := by
  unfold variableWords
  repeat' first
    | refine always_pure (by simp [Kind.isVariables])
    | refine always_bind fun _ => ?_
    | refine always_ite ?_ ?_
    | split
    | dsimp only

theorem variableStatement_other {k : Kind} (declares : k.isVariables = true) (start : Nat)
    (needed : Bool) (words : Nat) :
    Always (variableStatement self start k needed words) Node.IsOther := by
  have other := Kind.isImport_of_isVariables declares
  unfold variableStatement
  repeat' first | exact always_node fun _ => other | refine always_bind fun _ => ?_

/-! ### Statements -/

-- A statement of its own kind is made at the end of each rule, whatever was read before.
theorem statements_quiet :
    Always (bracedItems self .block) Node.IsQuiet ∧ Always (ifStatement self) Node.IsQuiet ∧
    Always (forStatement self) Node.IsQuiet ∧ Always (whileStatement self) Node.IsQuiet ∧
    Always (doStatement self) Node.IsQuiet ∧ Always (switchStatement self) Node.IsQuiet ∧
    Always (tryStatement self) Node.IsQuiet ∧ Always jumpStatement Node.IsQuiet ∧
    Always (returnStatement self) Node.IsQuiet ∧ Always (throwStatement self) Node.IsQuiet ∧
    Always (labelledStatement self) Node.IsQuiet ∧
    Always (expressionStatement self) Node.IsQuiet := by
  refine ⟨?_, ?_, ?_, ?_, ?_, ?_, ?_, ?_, ?_, ?_, ?_, ?_⟩
  all_goals
    repeat' first
      | refine always_bind fun _ => ?_
      | refine always_ite ?_ ?_
      | exact always_pure rfl
      | exact always_fail
      | split

-- A statement declares nothing unless it begins with `var`.
theorem statement_cases {Q : Node → Prop} (quiet : ∀ n, n.IsQuiet → Q n) {s : Setting} {c : Cursor}
    (hoisted : ∀ start, Ensures (variableStatement self start (.variables true) false 1) s c
      fun n _ => Q n) : Ensures (statement self) s c fun n _ => Q n := by
  obtain ⟨block, ifs, for_, while_, do_, switch, try_, jump, return_, throw_, labelled,
    expression⟩ := statements_quiet self
  have still {p : Parse Node} (h : Always p Node.IsQuiet) : Ensures p s c fun n _ => Q n :=
    (h s c).mono fun n _ => quiet n
  simp only [statement, ensures_run, ensures_look]
  split
  · exact still block
  · exact still (p := do advance; node .statement c.here.offset [])
      (always_bind fun _ => always_node fun _ => rfl)
  · refine ensures_ite (fun _ => still ifs) fun _ => ?_
    refine ensures_ite (fun _ => still for_) fun _ => ?_
    refine ensures_ite (fun _ => still while_) fun _ => ?_
    refine ensures_ite (fun _ => still do_) fun _ => ?_
    refine ensures_ite (fun _ => still switch) fun _ => ?_
    refine ensures_ite (fun _ => still try_) fun _ => ?_
    refine ensures_ite (fun _ => still jump) fun _ => ?_
    refine ensures_ite (fun _ => still return_) fun _ => ?_
    refine ensures_ite (fun _ => still throw_) fun _ => ?_
    refine ensures_ite (fun _ => ?_) fun _ => ?_
    · exact still (p := do advance; semicolon; node .statement c.here.offset [])
        (always_bind fun _ => always_bind fun _ => always_node fun _ => rfl)
    refine ensures_ite (fun _ => hoisted _) fun _ => ?_
    refine ensures_ite (fun _ => ensures_fail.2 trivial) fun _ => ?_
    simp only [ensures_run, ensures_look]
    refine ensures_ite (fun _ => still labelled) fun _ => ?_
    simp only [ensures_run, ensures_look]
    exact fun _ => still expression
  · simp only [ensures_run, ensures_look]
    exact ensures_ite (fun _ => still labelled) fun _ => still expression
  · exact still expression

theorem statement_other : Always (statement self) Node.IsOther := fun s c =>
  statement_cases self (fun _ quiet => quiet.other) fun start =>
    variableStatement_other self rfl start _ _ s c

/-! ### Declarations -/

theorem functionAfterWord_other (start : Nat) (async needed : Bool) :
    Always (functionAfterWord self .functionDecl start async needed) Node.IsOther := by
  repeat' first
    | refine always_bind fun _ => ?_
    | refine always_ite ?_ ?_
    | exact always_pure rfl

theorem declarations_quiet (start : Nat) (ds : List Node) (needed : Bool) :
    Always (classTail self .classDecl start ds needed) Node.IsQuiet ∧
    Always (interfaceDecl self start) Node.IsQuiet ∧ Always (aliasDecl self start) Node.IsQuiet ∧
    Always (enumDecl self start) Node.IsQuiet ∧ Always (namespaceDecl self start) Node.IsQuiet ∧
    Always (foreignModule self start) Node.IsQuiet := by
  refine ⟨?_, ?_, ?_, ?_, ?_, ?_⟩
  all_goals
    repeat' first
      | refine always_bind fun _ => ?_
      | refine always_ite ?_ ?_
      | exact always_pure rfl

theorem typeDeclaration?_quiet (start : Nat) (ds : List Node) :
    Always (typeDeclaration? self start ds) fun o => ∀ n ∈ o, n.IsQuiet := by
  obtain ⟨class_, interface, alias_, enum, namespace_, foreign⟩ :=
    declarations_quiet self start ds true
  unfold typeDeclaration?
  repeat' first
    | exact always_none
    | exact always_some class_
    | exact always_some interface
    | exact always_some alias_
    | exact always_some enum
    | exact always_some namespace_
    | exact always_some foreign
    | refine always_ite ?_ ?_
    | refine always_bind fun _ => ?_
    | split

theorem functionDecl?_other (needed : Bool) :
    Always (functionDecl? self needed) fun o => ∀ n ∈ o, n.IsOther := by
  have plain (start : Nat) (async : Bool) := functionAfterWord_other self start async needed
  unfold functionDecl?
  repeat' first
    | exact always_none
    | exact always_some (plain _ _)
    | refine always_ite ?_ ?_
    | refine always_bind fun _ => ?_

theorem ambientDecl_other (start : Nat) (ds : List Node) :
    Always (ambientDecl self start ds) Node.IsOther := by
  unfold ambientDecl
  refine always_within (always_after (typeDeclaration?_quiet self start ds) ?_)
  rintro (_ | d) quiet
  · refine always_after (functionDecl?_other self true) ?_
    rintro (_ | f) other
    · have class_ := (declarations_quiet self start ds true).1
      refine always_bind fun _ => always_ite (class_.mono fun _ quiet => quiet.other) ?_
      refine always_after variableWords_variables ?_
      rintro (_ | ⟨k, needed, words⟩) plain
      · exact always_fail
      · exact variableStatement_other self (plain _ rfl) _ _ _
    · exact always_pure (other f rfl)
  · exact always_pure (quiet d rfl).other

theorem declaration?_other (start : Nat) (ds : List Node) :
    Always (declaration? self start ds) fun o => ∀ n ∈ o, n.IsOther := by
  unfold declaration?
  refine always_after (functionDecl?_other self true) ?_
  rintro (_ | f) other
  · have class_ := (declarations_quiet self start ds true).1.mono fun _ quiet => quiet.other
    refine always_bind fun _ => always_ite (always_bind fun _ => always_some class_) ?_
    refine always_bind fun _ => always_ite ?_ ?_
    · exact always_bind fun _ => always_bind fun _ => always_bind fun _ =>
        always_some (ambientDecl_other self start ds)
    refine always_after (typeDeclaration?_quiet self start ds) ?_
    rintro (_ | d) quiet
    · refine always_after variableWords_variables ?_
      rintro (_ | ⟨k, needed, words⟩) plain
      · exact always_none
      · exact always_some (variableStatement_other self (plain _ rfl) _ _ _)
    · exact always_pure fun n same => (quiet n same).other
  · exact always_pure other

theorem item_other : Always (item self) Node.IsOther := by
  unfold item
  refine always_bind fun first => always_bind fun _ => always_ite ?_ ?_
  · refine always_bind fun ds => always_bind fun start => ?_
    refine always_after (declaration?_other self first ds) ?_
    rintro (_ | d) other
    · exact always_fail
    · have plain : d.IsOther := other d rfl
      dsimp only
      split
      · exact always_pure plain
      · exact always_pure plain
      · exact always_fail
  · refine always_after (declaration?_other self first []) ?_
    rintro (_ | d) other
    · exact statement_other self
    · exact always_pure (other d rfl)

/-! ### Exports -/

theorem importAlias_quiet (start : Nat) (name : Node) :
    Always (importAlias start name) Node.IsQuiet := by
  unfold importAlias
  repeat' first
    | refine always_bind fun _ => ?_
    | refine always_ite ?_ ?_
    | exact always_pure rfl

theorem exportLists_quiet (start : Nat) (allTypes : Bool) :
    Always (exportAll self start) Node.IsQuiet ∧
      Always (exportList self start allTypes) Node.IsQuiet := by
  constructor
  all_goals
    repeat' first
      | refine always_bind fun _ => ?_
      | refine always_ite ?_ ?_
      | exact always_pure rfl

theorem exportDefault_quiet (start : Nat) (ds : List Node) :
    Always (exportDefault self start ds) Node.IsQuiet := by
  unfold exportDefault
  repeat' first
    | refine always_bind fun _ => ?_
    | refine always_ite ?_ ?_
    | exact always_pure rfl
    | split

theorem typedExport?_quiet (start : Nat) :
    Always (typedExport? self start) fun o => ∀ n ∈ o, n.IsQuiet := by
  obtain ⟨all, list⟩ := exportLists_quiet self start true
  unfold typedExport?
  refine always_bind fun _ => always_ite always_none (always_bind fun _ => always_ite ?_ ?_)
  · exact always_bind fun _ => always_bind fun _ => always_some (always_node fun _ => rfl)
  refine always_bind fun _ => always_bind fun _ => always_ite ?_ (always_bind fun _ => ?_)
  · exact always_bind fun _ => always_bind fun _ => always_bind fun _ => always_bind fun _ =>
      always_some (always_node fun _ => rfl)
  refine always_ite (always_bind fun _ => always_bind fun ahead => ?_) (always_bind fun _ => ?_)
  · have rest : Always (do
        let s ← here
        let name ← bindingName
        let n ← node (.bind name false) s []
        let a ← importAlias start n
        return some a) fun o => ∀ n ∈ o, n.IsQuiet :=
      always_bind fun _ => always_bind fun _ => always_bind fun _ =>
        always_some (importAlias_quiet _ _)
    exact always_ite (always_bind fun _ => rest) rest
  refine always_ite (always_bind fun _ => always_some list) (always_bind fun _ => ?_)
  exact always_ite (always_bind fun _ => always_some all) always_none

theorem exportItem_other (ds : List Node) : Always (exportItem self ds) Node.IsOther := by
  have still {p : Parse Node} (h : Always p Node.IsQuiet) : Always p Node.IsOther :=
    h.mono fun _ quiet => quiet.other
  unfold exportItem
  refine always_bind fun start => always_bind fun _ => always_bind fun _ => ?_
  obtain ⟨all, list⟩ := exportLists_quiet self start false
  refine always_ite (still all) (always_bind fun _ => always_ite (still list) ?_)
  refine always_bind fun _ => always_ite (still (exportDefault_quiet self start ds)) ?_
  refine always_after (typedExport?_quiet self start) ?_
  rintro (_ | e) quiet
  · refine always_bind fun more => always_bind fun s => always_bind fun o => ?_
    split
    · exact always_bind fun _ => always_node fun _ => rfl
    · exact always_fail
  · exact always_pure (quiet e rfl).other

-- An item that is not read as an import is none.
theorem moduleItem_cases {s : Setting} {c : Cursor} {Q : Node → Prop}
    (import_ : Ensures (importItem self) s c fun n _ => Q n) (other : ∀ n, n.IsOther → Q n) :
    Ensures (moduleItem self) s c fun n _ => Q n := by
  have plain {p : Parse Node} (h : Always p Node.IsOther) (d : Cursor) :
      Ensures p s d fun n _ => Q n := (h s d).mono fun n _ => other n
  simp only [moduleItem, importExpressionAhead, ensures_run, ensures_look]
  refine ensures_ite (fun _ => plain (exportItem_other self []) c) fun _ => ?_
  simp only [ensures_run, ensures_look]
  refine ensures_ite (fun _ => import_) fun _ => ?_
  simp only [ensures_run, ensures_look]
  refine ensures_ite (fun _ => ?_) fun _ => plain (item_other self) c
  simp only [ensures_run]
  split
  · simp only [ensures_run]
    intro ds d _
    exact plain (exportItem_other self ds) d
  · exact plain (item_other self) c

end Parse

end ServerLink.Script
