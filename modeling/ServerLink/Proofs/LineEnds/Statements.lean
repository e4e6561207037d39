import ServerLink.Proofs.LineEnds.Expressions
import ServerLink.Script.Grammar.Statement

/-!
Statements and declarations, in a text and in the text with carriage returns.
-/

set_option autoImplicit false

namespace ServerLink.Script.Parse

open Text

variable {text : List Char}

-- The words are counted, and a count is no offset.
theorem alike_afterWords {α : Type} [Widens α] {f f' : Option (Kind × Bool × Nat) → Parse α}
    (rest : ∀ o, Alike text (f o) (f' o)) :
    Alike text (variableWords >>= f) (variableWords >>= f') := by
  obtain ⟨count, fixed⟩ : ∃ count : Widens Nat, Fixed Nat := ⟨.same Nat, inferInstance⟩
  have words : Alike text variableWords variableWords := by
    intro s c
    refine (meets_bind alike_following).2 fun next => ?_
    extract_lets nameNext after nameNext' after'
    have afters : after' = widen text after := next.at_next
    refine (meets_bind_fixed alike_token).2 fun t => ?_
    clear_value after after'
    subst afters
    have names : nameNext' = nameNext := rfl
    clear_value nameNext nameNext'
    subst names
    split
    next => simp
    next => simp
    next => simp
    next => simp
    next =>
      refine (meets_bind_fixed alike_typed).2 fun typed => (meets_ite rfl).2 ⟨fun _ => ?_,
        fun _ => by simp⟩
      rw [token_widen]
      split <;> simp
    next => simp
  exact fun s c => (meets_bind_fixed words).2 fun r => rest r.value s r.cursor

@[simp] theorem alike_skipWords (n : Nat) : Alike text (skipWords n) (skipWords n) := by
  intro s c
  simp [skipWords]

@[simp] theorem alike_walkAhead : Alike text walkAhead walkAhead := by
  intro s c
  simp [walkAhead]

@[simp] theorem alike_jumpStatement : Alike text jumpStatement jumpStatement := by
  intro s c
  simp [jumpStatement]

@[simp] theorem alike_vagueTypeAhead : Alike text vagueTypeAhead vagueTypeAhead := by
  intro s c
  simp [vagueTypeAhead]

@[simp] theorem alike_nameOnLine : Alike text nameOnLine nameOnLine := by
  refine alike_bind alike_following fun next _ s c => ?_
  rw [token_widen]
  split <;> simp

@[simp] theorem alike_ambientAhead : Alike text ambientAhead ambientAhead := by
  refine alike_bind alike_typed fun _ _ => alike_bind (alike_isWord _) fun _ _ s c =>
    (meets_ite rfl).2 ⟨fun _ => (meets_bind alike_following).2 fun next => ?_, fun _ => by simp⟩
  rw [token_widen]
  split <;> simp

variable {self self' : Goal → Parse Node} (alike : ∀ g, Alike text (self g) (self' g))

include alike

@[simp] theorem alike_itemsUntilBrace (goal : Goal) :
    Alike text (itemsUntilBrace self goal) (itemsUntilBrace self' goal) := by
  refine alike_bind (alike_loop rfl (by simp) fun items _ s c => ?_) fun items _ s c => ?_
  · simp [alike]
  · simp

@[simp] theorem alike_bracedItems (kind : Kind) :
    Alike text (bracedItems self kind) (bracedItems self' kind) := by
  intro s c
  simp [bracedItems, alike]

@[simp] theorem alike_condition : Alike text (condition self) (condition self') := by
  intro s c
  simp [condition, alike]

/-! ### Variables -/

@[simp] theorem alike_declarator (place : VariablePlace) (valueNeeded : Bool) :
    Alike text (declarator self place valueNeeded) (declarator self' place valueNeeded) := by
  intro s c
  simp [declarator, alike]

@[simp] theorem alike_declarators (place : VariablePlace) (valueNeeded : Bool) :
    Alike text (declarators self place valueNeeded) (declarators self' place valueNeeded) := by
  refine alike_bind (alike_loop rfl (by simp) fun vs _ s c => ?_) fun vs _ s c => ?_
  · simp [alike]
  · simp

@[simp] theorem alike_variableStatement (start : Nat) (kind : Kind) (valueNeeded : Bool)
    (words : Nat) : Alike text (variableStatement self start kind valueNeeded words)
      (variableStatement self' (widen text start) kind valueNeeded words) := by
  intro s c
  simp [variableStatement, alike]

/-! ### Loops -/

@[simp] theorem alike_loopBody : Alike text (loopBody self) (loopBody self') :=
  alike_within (fun _ => rfl) (alike .statement)

@[simp] theorem alike_countingLoop (start : Nat) {init init' : List Node}
    (same : init' = widen text init) :
    Alike text (countingLoop self start init) (countingLoop self' (widen text start) init') := by
  subst same
  have inside := alike_enclosed (alike .expression)
  intro s c
  simp [countingLoop, alike, inside]

@[simp] theorem alike_walkingLoop (start : Nat) (head : Node) (isAwait : Bool) :
    Alike text (walkingLoop self start head isAwait)
      (walkingLoop self' (widen text start) (widen text head) isAwait) := by
  have inside := alike_enclosed (alike .expression)
  intro s c
  simp [walkingLoop, alike, inside]

@[simp] theorem alike_forStatement : Alike text (forStatement self) (forStatement self') := by
  refine alike_bind alike_here fun start _ => alike_bind (alike_expectWord _) fun _ _ =>
    alike_bind (alike_eatWord _) fun isAwait _ => alike_bind (alike_expect _) fun _ _ =>
    alike_bind alike_here fun headStart _ => alike_afterWords fun o => ?_
  match o with
  | some (kind, _, words) =>
    refine alike_bind (alike_skipWords words) fun _ _ => alike_bind ?_ fun vs _ s c => ?_
    · exact alike_within (fun _ => rfl) (alike_declarators alike .loopHead false)
    · simp [alike]
  | none =>
    refine alike_bind (alike_isPunct _) fun _ _ s c =>
      (meets_ite rfl).2 ⟨fun _ => by simp [alike], fun _ => ?_⟩
    refine (meets_bind_fixed (alike_isWord _)).2 fun _ => (meets_bind alike_following).2 fun next =>
      (meets_bind_fixed (alike_isWord _)).2 fun _ => (meets_bind ?_).2 fun e =>
      (meets_bind_fixed alike_walkAhead).2 fun _ => (meets_ite rfl).2 ⟨fun _ => ?_, fun _ => ?_⟩
    · exact alike_within (fun _ => rfl) (alike .expression)
    · rw [toPattern?_widen]
      cases e.value.toPattern? .assign <;> simp [alike]
    · simp [alike]

@[simp] theorem alike_whileStatement : Alike text (whileStatement self) (whileStatement self') := by
  intro s c
  simp [whileStatement, alike]

@[simp] theorem alike_doStatement : Alike text (doStatement self) (doStatement self') := by
  intro s c
  simp [doStatement, alike]

/-! ### Other statements -/

@[simp] theorem alike_ifStatement : Alike text (ifStatement self) (ifStatement self') := by
  intro s c
  simp [ifStatement, alike]

@[simp] theorem alike_switchCase (seenDefault : Bool) :
    Alike text (switchCase self seenDefault) (switchCase self' seenDefault) := by
  refine alike_bind alike_here fun start _ => alike_bind (alike_isWord _) fun isDefault _ =>
    alike_bind (alike_faultIf rfl) fun _ _ => ?_
  extract_lets last last'
  have lasts {test test' : List Node} (same : test' = widen text test) :
      Alike text (last test) (last' test') := by
    subst same
    refine alike_bind (alike_expect _) fun _ _ =>
      alike_bind (alike_loop rfl (by simp) fun items _ s c => ?_) fun items _ s c => ?_
    · simp [alike]
    · simp
  intro s c
  simp [lasts, alike]

@[simp] theorem alike_switchStatement :
    Alike text (switchStatement self) (switchStatement self') := by
  refine alike_bind alike_here fun start _ => alike_bind (alike_expectWord _) fun _ _ =>
    alike_bind (alike_condition alike) fun e _ => alike_bind alike_here fun opened _ =>
    alike_bind (alike_expect _) fun _ _ => alike_bind ?_ fun cases _ s c => ?_
  · refine alike_within (fun _ => rfl) (alike_loop rfl (by simp) fun state _ s c => ?_)
    simp [alike]
  · simp

@[simp] theorem alike_catchClause : Alike text (catchClause self) (catchClause self') := by
  intro s c
  simp [catchClause, alike]

@[simp] theorem alike_tryStatement : Alike text (tryStatement self) (tryStatement self') := by
  intro s c
  simp [tryStatement, alike]

@[simp] theorem alike_returnStatement :
    Alike text (returnStatement self) (returnStatement self') := by
  intro s c
  simp [returnStatement, alike]

@[simp] theorem alike_throwStatement : Alike text (throwStatement self) (throwStatement self') := by
  intro s c
  simp [throwStatement, alike]

@[simp] theorem alike_labelledStatement :
    Alike text (labelledStatement self) (labelledStatement self') := by
  intro s c
  simp [labelledStatement, alike]

@[simp] theorem alike_expressionStatement :
    Alike text (expressionStatement self) (expressionStatement self') := by
  intro s c
  simp [expressionStatement, alike]

/-! ### Declarations of types -/

@[simp] theorem alike_interfaceDecl (start : Nat) :
    Alike text (interfaceDecl self start) (interfaceDecl self' (widen text start)) := by
  intro s c
  simp [interfaceDecl, alike]

@[simp] theorem alike_aliasDecl (start : Nat) :
    Alike text (aliasDecl self start) (aliasDecl self' (widen text start)) := by
  intro s c
  simp [aliasDecl, alike]

@[simp] theorem alike_enumMember : Alike text (enumMember self) (enumMember self') := by
  refine alike_bind alike_here fun start _ => alike_bind alike_token fun t _ => ?_
  rw [widen_fixed text t]
  extract_lets last last'
  have lasts (name : Option String) : Alike text (last name) (last' name) := by
    have inside := alike_enclosed (alike .assignment)
    intro s c
    simp [last, last', inside]
  intro s c
  split <;> simp [lasts]

@[simp] theorem alike_enumDecl (start : Nat) :
    Alike text (enumDecl self start) (enumDecl self' (widen text start)) := by
  have members := alike_listUntil "\x7d" (alike_enumMember alike)
  intro s c
  simp [enumDecl, members]

@[simp] theorem alike_moduleBlock : Alike text (moduleBlock self) (moduleBlock self') := by
  intro s c
  simp [moduleBlock, alike]

@[simp] theorem alike_namespaceDecl (start : Nat) :
    Alike text (namespaceDecl self start) (namespaceDecl self' (widen text start)) := by
  refine alike_bind alike_here fun s _ => alike_bind alike_plainName fun name _ =>
    alike_bind (alike_node rfl rfl) fun n _ =>
    alike_bind (alike_loop rfl (by simp) fun _ _ s c => ?_) fun _ _ =>
    alike_bind ?_ fun b _ s c => ?_
  · simp
  · exact alike_within (fun _ => rfl) (alike_moduleBlock alike)
  · simp

@[simp] theorem alike_foreignModule (start : Nat) :
    Alike text (foreignModule self start) (foreignModule self' (widen text start)) := by
  intro s c
  simp [foreignModule, alike]

@[simp] theorem alike_typeDeclaration? (start : Nat) {ds ds' : List Node}
    (same : ds' = widen text ds) : Alike text (typeDeclaration? self start ds)
      (typeDeclaration? self' (widen text start) ds') := by
  subst same
  refine alike_bind alike_typed fun typed _ s c => (meets_ite rfl).2 ⟨fun _ => by simp, fun _ => ?_⟩
  refine (meets_bind alike_following).2 fun next => (meets_bind_fixed alike_token).2 fun t => ?_
  split
  case h_7 =>
    rw [token_widen]
    split <;> simp [alike]
  all_goals simp [alike]

@[simp] theorem alike_functionDecl? (nameNeeded : Bool) :
    Alike text (functionDecl? self nameNeeded) (functionDecl? self' nameNeeded) := by
  intro s c
  simp [functionDecl?, alike]

@[simp] theorem alike_ambientDecl (start : Nat) {ds ds' : List Node} (same : ds' = widen text ds) :
    Alike text (ambientDecl self start ds) (ambientDecl self' (widen text start) ds') := by
  subst same
  refine alike_within (fun _ => rfl) (alike_bind (alike_typeDeclaration? alike start rfl)
    fun d _ => ?_)
  match d with
  | some d =>
    intro s c
    simp
  | none =>
    refine alike_bind (alike_functionDecl? alike true) fun f _ => ?_
    match f with
    | some f =>
      intro s c
      simp
    | none =>
      refine alike_bind (alike_eatWord _) fun _ _ s c =>
        (meets_ite rfl).2 ⟨fun _ => by simp [alike], fun _ => alike_afterWords (fun o s c => ?_) s c⟩
      cases o <;> simp [alike]

@[simp] theorem alike_declaration? (start : Nat) {ds ds' : List Node}
    (same : ds' = widen text ds) :
    Alike text (declaration? self start ds) (declaration? self' (widen text start) ds') := by
  subst same
  refine alike_bind (alike_functionDecl? alike true) fun f _ => ?_
  match f with
  | some f =>
    intro s c
    simp
  | none =>
    refine alike_bind (alike_isWord _) fun _ _ s c =>
      (meets_ite rfl).2 ⟨fun _ => by simp [alike], fun _ => ?_⟩
    refine (meets_bind_fixed alike_ambientAhead).2 fun _ =>
      (meets_ite rfl).2 ⟨fun _ => by simp [alike], fun _ => ?_⟩
    refine (meets_bind_option (alike_typeDeclaration? alike start rfl)).2 fun found =>
      ⟨fun _ => alike_afterWords (fun o s c => ?_) _ _, fun _ _ => by simp⟩
    cases o <;> simp [alike]

/-! ### One statement -/

@[simp] theorem alike_statement : Alike text (statement self) (statement self') := by
  refine alike_bind alike_here fun start _ => alike_bind alike_token fun t _ s c => ?_
  rw [widen_fixed]
  split <;> simp [alike]

@[simp] theorem alike_item : Alike text (item self) (item self') := by
  refine alike_bind alike_here fun first _ => alike_bind (alike_isPunct _) fun _ _ s c =>
    (meets_ite rfl).2 ⟨fun _ => ?_, fun _ => by simp [alike]⟩
  refine (meets_bind (alike_decorators alike)).2 fun ds => (meets_bind alike_here).2 fun start =>
    (meets_bind_option (alike_declaration? alike first rfl)).2 fun found =>
    ⟨fun _ => by simp, fun d _ => ?_⟩
  simp only [kind_widen]
  split <;> simp

end ServerLink.Script.Parse
