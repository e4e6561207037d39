import ServerLink.Proofs.Parsing.Expressions
import ServerLink.Script.Grammar.Statement

/-!
Statements stand where they are read.
-/

set_option autoImplicit false

namespace ServerLink.Script.Parse

open Text

variable {text : List Char} {s : Setting} {c d : Cursor} {self : Goal → Parse Node}
  (sound : Sound text self)

theorem itemsUntilBrace_takes {goal : Goal}
    (each : ∀ s c, c.Valid text → Ensures (self goal) s c (Item text c)) (v : c.Valid text) :
    Ensures (itemsUntilBrace self goal) s c (Takes text c) := by
  simp only [itemsUntilBrace, ensures_run]
  refine (ensures_gather (c := c) [] v.reads ?_).mono fun items d read closed =>
    read.eaten closed
  intro items d read
  simp only [ensures_run, ensures_look]
  refine ensures_ite (fun _ => ensures_pure.2 read) fun _ => ?_
  simp only [ensures_run]
  exact (each _ _ read.valid).mono fun i e item => read.push item.takes

include sound

theorem bracedItems_completes (v : c.Valid text) (kind : Kind) :
    Ensures (bracedItems self kind) s c (Completes text kind c.here.offset [] c) := by
  simp only [bracedItems, ensures_run, ensures_look]
  intro opened
  have h := v.reads.eaten opened
  refine (itemsUntilBrace_takes (fun s c v => sound .item s c v) h.valid).mono fun items d read => ?_
  exact ⟨items, h.append read.toReads, rfl⟩

theorem enclosedExpression_tree (v : c.Valid text) :
    Ensures (enclosed (self .expression)) s c (Tree text c) :=
  ensures_within.2 (sound .expression _ _ v)

theorem condition_takes (v : c.Valid text) :
    Ensures (condition self) s c fun e d => Takes text c [e] d := by
  simp only [condition, ensures_run]
  intro opened
  have h := v.reads.eaten opened
  refine (enclosedExpression_tree sound h.valid).mono fun e d read closed => ?_
  exact (h.toReads.tree read).toReads.eaten closed

/-! ### Variables -/

theorem declarator_tree (v : c.Valid text) (place : VariablePlace) (valueNeeded : Bool) :
    Ensures (declarator self place valueNeeded) s c (Tree text c) := by
  simp -zeta only [declarator, ensures_run, ensures_look]
  refine (sound .pattern _ _ v).mono ?_
  rintro p d ⟨read, simple⟩
  extract_lets afterMark
  have finish (e : Cursor) (mark : Reads text d [] e) :
      Ensures (afterMark ()) s e (Tree text c) := by
    simp only [afterMark, ensures_run]
    refine ( typeAnnotation?_reads sound mark.valid).mono fun ann f typed => ?_
    have h := (read.skip mark).annotated simple typed
    refine ensures_ifEat (fun equals => ?_) ?_
    · have h := h.takes.toReads.eaten equals
      simp only [ensures_run]
      exact (sound .assignment _ _ h.valid).mono fun value g read => (h.toReads.tree read).node
    · simp only [ensures_run, ensures_look]
      exact fun _ => h.takes.node
  refine ensures_ite (fun _ => ?_) fun _ => finish d read.takes.valid.reads
  simp only [ensures_run, ensures_look]
  refine ensures_perhaps (Reads text d []) (fun _ => ?_) (fun _ => read.takes.valid.reads) finish
  exact ensures_advance.2 fun valid => read.takes.valid.reads.next valid

theorem declarators_takes (v : c.Valid text) (place : VariablePlace) (valueNeeded : Bool) :
    Ensures (declarators self place valueNeeded) s c (Takes text c) := by
  simp only [declarators, ensures_run]
  -- There is always a first variable.
  refine (ensures_loop (I := fun vs d => Reads text c vs.reverse d)
    (Q := fun vs d => Takes text c vs.reverse d) (a := []) v.reads fun vs d h => ?_).mono
      fun vs d taken => taken
  simp only [ensures_run]
  refine (declarator_tree sound h.valid place valueNeeded).mono fun n e tree => ?_
  refine ensures_eat.2 ⟨fun comma => ?_, fun _ => ?_⟩
  · exact ensures_pure.2 ⟨fun _ => ((h.cons tree).eaten comma).toReads, by simp⟩
  · exact ensures_pure.2 ⟨by simp, fun _ => by simpa using h.tree tree⟩

omit sound in
-- The words are ahead of a cursor that does not move.
theorem variableWords_stays : Ensures variableWords s c fun o d =>
    d = c ∧ ∀ r ∈ o, r.1.isSimple = true := by
  have found {k : Kind} (simple : k.isSimple = true) (needed : Bool) (words : Nat) :
      Ensures (pure (some (k, needed, words))) s c fun o d =>
        d = c ∧ ∀ r ∈ o, r.1.isSimple = true :=
    ensures_pure.2 ⟨rfl, by rintro _ ⟨⟩; exact simple⟩
  have missed : Ensures (pure (none : Option (Kind × Bool × Nat))) s c fun o d =>
      d = c ∧ ∀ r ∈ o, r.1.isSimple = true :=
    ensures_pure.2 ⟨rfl, by simp⟩
  simp only [variableWords, ensures_run, ensures_look]
  split
  · exact found rfl _ _
  · exact found rfl _ _
  · exact ensures_ite (fun _ => found rfl _ _) fun _ => missed
  · simp only [ensures_run, ensures_look]
    refine ensures_ite (fun _ => ?_) fun _ => missed
    exact ensures_ite (fun _ => missed) fun _ => found rfl _ _
  · simp only [ensures_run, ensures_look]
    refine ensures_ite (fun _ => ?_) fun _ => missed
    split
    · exact ensures_ite (fun _ => found rfl _ _) fun _ => missed
    · exact missed
  · exact missed

omit sound in
theorem skipWords_reads (v : c.Valid text) (n : Nat) :
    Ensures (skipWords n) s c fun _ => Reads text c [] := by
  simp only [skipWords, ensures_run]
  intro valid
  have h := v.reads.next valid
  refine ensures_ite (fun _ => ?_) fun _ => ensures_pure.2 h
  exact ensures_advance.2 fun valid => h.next valid

theorem variableStatement_completes (v : c.Valid text) (start : Nat) (kind : Kind)
    (valueNeeded : Bool) (words : Nat) :
    Ensures (variableStatement self start kind valueNeeded words) s c
      (Completes text kind start [] c) := by
  simp only [variableStatement, ensures_run]
  refine (skipWords_reads v words).mono fun _ d h => ?_
  refine (declarators_takes sound h.valid _ _).mono fun vs e read => ?_
  exact (semicolon_reads read.valid).mono fun _ f ended => ⟨vs, (h.take read).skip ended, rfl⟩

/-! ### Loops -/

theorem loopBody_takes (v : c.Valid text) :
    Ensures (loopBody self) s c fun b d => Takes text c [b] d :=
  ensures_within.2 ((sound .statement _ _ v).mono fun _ _ item => item.takes)

theorem countingLoop_completes (v : c.Valid text) (start : Nat) (init : List Node) :
    Ensures (countingLoop self start init) s c (Completes text .forLoop start init c) := by
  simp -zeta only [countingLoop, ensures_run, ensures_look]
  intro first
  have h := v.reads.eaten first
  extract_lets afterTest
  have finish (test : List Node) (d : Cursor) (h : Takes text c test d) :
      Ensures (afterTest test) s d (Completes text .forLoop start init c) := by
    simp -zeta only [afterTest, ensures_run, ensures_look]
    intro second
    have h := h.toReads.eaten second
    extract_lets afterStep
    have finish (step : List Node) (e : Cursor) (h : Takes text c (test ++ step) e) :
        Ensures (afterStep step) s e (Completes text .forLoop start init c) := by
      simp only [afterStep, ensures_run]
      intro closed
      have h := h.toReads.eaten closed
      exact (loopBody_takes sound h.valid).mono fun b f read => ⟨_, h.toReads.take read, by simp⟩
    refine ensures_ite (fun _ => ?_) fun _ => ?_
    · simp only [ensures_run]
      exact finish [] _ (by simpa using h)
    · simp only [ensures_run]
      exact (enclosedExpression_tree sound h.valid).mono fun e f read =>
        finish [e] f (h.toReads.tree read)
  refine ensures_ite (fun _ => ?_) fun _ => ?_
  · simp only [ensures_run]
    exact finish [] _ h
  · simp only [ensures_run]
    exact (enclosedExpression_tree sound h.valid).mono fun e d read =>
      finish [e] d (h.toReads.tree read)

theorem walkingLoop_completes (v : c.Valid text) (start : Nat) (head : Node) (isAwait : Bool) :
    Ensures (walkingLoop self start head isAwait) s c (Completes text .forLoop start [head] c) := by
  simp -zeta only [walkingLoop, ensures_run]
  extract_lets afterSource
  have finish (source : Node) (d : Cursor) (h : Takes text c [source] d) :
      Ensures (afterSource source) s d (Completes text .forLoop start [head] c) := by
    simp only [afterSource, ensures_run]
    intro closed
    have h := h.toReads.eaten closed
    exact (loopBody_takes sound h.valid).mono fun b f read => ⟨_, h.toReads.take read, by simp⟩
  refine ensures_ifEatWord (fun word => ?_) ?_
  · have h := v.reads.eaten word
    simp only [enclosed, ensures_run]
    exact (sound .assignment _ _ h.valid).mono fun e d read => finish e d (h.toReads.tree read)
  · simp only [ensures_run]
    intro _ word
    have h := v.reads.eaten word
    exact (enclosedExpression_tree sound h.valid).mono fun e d read =>
      finish e d (h.toReads.tree read)

omit sound in
theorem walkAhead_stays : Ensures walkAhead s c fun _ d => d = c := by
  simp only [walkAhead, ensures_run, ensures_look]

theorem forStatement_item (v : c.Valid text) : Ensures (forStatement self) s c (Item text c) := by
  simp only [forStatement, ensures_run, ensures_look]
  intro word
  have h := v.reads.eaten word
  refine (eatWord_reads h.valid _).mono fun isAwait d await opened => ?_
  have h := (h.skip await.1).toReads.eaten opened
  have counting (s : Setting) (init : List Node) (e : Cursor) (read : Reads text (.at d.next) init e) :
      Ensures (countingLoop self c.here.offset init) s e (Item text c) := by
    have h := h.append read
    exact (countingLoop_completes sound h.valid _ _).mono fun n f rest => h.toReads.completeItem rest
  have walking (s : Setting) (head : Node) (e : Cursor) (read : Tree text (.at d.next) head e) :
      Ensures (walkingLoop self c.here.offset head isAwait) s e (Item text c) := by
    have h := h.toReads.tree read
    exact (walkingLoop_completes sound h.valid _ _ _).mono fun n f rest => h.toReads.completeItem rest
  refine variableWords_stays.mono ?_
  rintro o _ ⟨rfl, words⟩
  split
  · rename_i kind _ count
    have simple := words _ rfl
    simp only [ensures_run]
    refine (skipWords_reads h.valid count).mono fun _ e skipped => ?_
    refine (declarators_takes sound skipped.valid _ _).mono fun vs f read => ?_
    have : Holds kind.isSimple := ⟨simple⟩
    have head : Tree text (.at d.next) (.mk kind _ vs) f := (skipped.take read).node
    refine walkAhead_stays.mono ?_
    rintro walks _ rfl
    refine ensures_ite (fun _ => ?_) fun _ => ?_
    · simp only [ensures_run]
      exact fun _ => walking s _ _ head
    · simp only [ensures_run]
      exact fun _ => counting s _ _ head.takes.toReads
  · simp only [ensures_run, ensures_look]
    refine ensures_ite (fun _ => ?_) fun _ => ?_
    · simp only [ensures_run]
      exact fun _ => counting s [] _ h.valid.reads
    simp only [ensures_run, ensures_look]
    refine (sound .expression _ _ h.valid).mono fun e f (read : Tree text _ e f) => ?_
    refine walkAhead_stays.mono ?_
    rintro walks _ rfl
    refine ensures_ite (fun _ => ?_) fun _ => ?_
    · simp only [ensures_run]
      intro _
      split
      · rename_i p spelled
        simp only [ensures_run, ensures_look]
        exact fun _ => walking s p _ (read.pattern spelled).1
      · simp only [ensures_run]
        exact fun _ => walking s e _ read
    · simp only [ensures_run]
      exact fun _ => counting s [e] _ read.takes.toReads

theorem whileStatement_item (v : c.Valid text) : Ensures (whileStatement self) s c (Item text c) := by
  simp only [whileStatement, ensures_run, ensures_look]
  intro word
  have h := v.reads.eaten word
  refine (condition_takes sound h.valid).mono fun e d read => ?_
  have h := h.toReads.take read
  exact (loopBody_takes sound h.valid).mono fun b f read =>
    (h.toReads.take read).item

theorem doStatement_item (v : c.Valid text) : Ensures (doStatement self) s c (Item text c) := by
  simp only [doStatement, ensures_run, ensures_look]
  intro word
  have h := v.reads.eaten word
  refine (loopBody_takes sound h.valid).mono fun b d read again => ?_
  have h := (h.toReads.take read).toReads.eaten again
  refine (condition_takes sound h.valid).mono fun e f read => ?_
  have h := h.toReads.take read
  exact (eat_reads h.valid _).mono fun _ g ended => (h.skip ended.1).item

/-! ### Other statements -/

theorem ifStatement_item (v : c.Valid text) : Ensures (ifStatement self) s c (Item text c) := by
  simp only [ifStatement, ensures_run, ensures_look]
  intro word
  have h := v.reads.eaten word
  refine (condition_takes sound h.valid).mono fun e d read => ?_
  have h := h.toReads.take read
  refine (sound .statement _ _ h.valid).mono fun yes f (read : Item text d yes f) => ?_
  have h := h.append read.takes.toReads
  refine (eatWord_reads h.valid _).mono fun _ g word => ?_
  have h := h.skip word.1
  refine ensures_optional h.valid (fun _ => ?_) fun no i read => ?_
  · exact (sound .statement _ _ h.valid).mono fun n i item => item.takes
  · simp only [ensures_run]
    simpa using (h.append read).item (k := .statement)

theorem switchCase_takes (v : c.Valid text) (seenDefault : Bool) :
    Ensures (switchCase self seenDefault) s c fun r d => Takes text c [r.1] d := by
  simp -zeta only [switchCase, ensures_run, ensures_look]
  intro _
  extract_lets afterTest
  have finish (test : List Node) (d : Cursor) (h : Reads text c test d) :
      Ensures (afterTest test) s d fun r d => Takes text c [r.1] d := by
    simp only [afterTest, ensures_run]
    intro colon
    have h := h.eaten colon
    refine (ensures_gather (c := .at d.next) [] h.valid.reads ?_).mono fun items e read =>
      (h.append read).node.takes
    intro items e read
    simp only [ensures_run, ensures_look]
    refine ensures_ite (fun _ => ensures_pure.2 read) fun _ => ?_
    simp only [ensures_run]
    exact (sound .item _ _ read.valid).mono fun i f item => read.push item.takes
  refine ensures_ite (fun _ => ?_) fun _ => ?_
  · simp only [ensures_run]
    exact fun valid => finish [] _ (v.reads.next valid)
  · simp only [ensures_run]
    intro word
    have h := v.reads.eaten word
    exact (enclosedExpression_tree sound h.valid).mono fun e d read =>
      finish [e] d (h.toReads.tree read).toReads

theorem switchStatement_item (v : c.Valid text) :
    Ensures (switchStatement self) s c (Item text c) := by
  simp only [switchStatement, ensures_run, ensures_look]
  intro word
  have h := v.reads.eaten word
  refine (condition_takes sound h.valid).mono fun e d read opened => ?_
  have h := h.toReads.take read
  have k := (h.valid.reads.eaten opened).toReads
  refine (ensures_rounds (I := fun (r : List Node × Bool) e => Reads text d r.1.reverse e)
    (a := ([], false)) k ?_).mono fun r f cases closed =>
      (h.toReads.tree (cases.eaten closed).node).item
  rintro ⟨cases, seen⟩ f read
  simp only [ensures_run, ensures_look]
  refine ensures_ite (fun _ => ensures_pure.2 read) fun _ => ?_
  simp only [ensures_run]
  exact (switchCase_takes sound read.valid seen).mono fun r g taken => read.push taken

omit sound in
theorem vagueTypeAhead_stays : Ensures vagueTypeAhead s c fun _ d => d = c := by
  simp only [vagueTypeAhead, ensures_run, ensures_look]
  exact ensures_ite (fun _ => by simp only [ensures_run, ensures_look]) fun _ => ensures_pure.2 rfl

theorem catchClause_tree (v : c.Valid text) : Ensures (catchClause self) s c (Tree text c) := by
  simp -zeta only [catchClause, ensures_run, ensures_look]
  intro word
  have h := v.reads.eaten word
  extract_lets body
  have finish (p : List Node) (d : Cursor) (h : Takes text c p d) :
      Ensures (body p) s d (Tree text c) := by
    simp only [body, ensures_run]
    exact (sound .block _ _ h.valid).mono fun b e read => (h.toReads.tree read).node
  refine ensures_ifEat (fun opened => ?_) ?_
  · have h := h.toReads.eaten opened
    simp only [ensures_run]
    refine (sound .pattern _ _ h.valid).mono ?_
    rintro p d ⟨read, simple⟩
    refine vagueTypeAhead_stays.mono ?_
    rintro vague _ rfl _
    refine ( typeAnnotation?_reads sound read.takes.valid).mono fun ann e typed closed => ?_
    exact finish _ _ ((h.toReads.tree (read.annotated simple typed)).toReads.eaten closed)
  · simp only [ensures_run]
    exact finish [] _ h

theorem tryStatement_item (v : c.Valid text) : Ensures (tryStatement self) s c (Item text c) := by
  simp -zeta only [tryStatement, ensures_run, ensures_look]
  intro word
  have h := v.reads.eaten word
  refine (sound .block _ _ h.valid).mono fun b d read => ?_
  have h := h.toReads.tree read
  extract_lets afterCatch
  refine ensures_optional h.valid (fun _ => ?_) fun caught e read => ?_
  · exact (catchClause_tree sound h.valid).mono fun n e tree => tree.takes
  have h := h.append read
  simp only [afterCatch, ensures_run]
  refine (eatWord_reads h.valid _).mono fun _ f word => ?_
  have h := h.skip word.1
  refine ensures_optional h.valid (fun _ => ?_) fun last g read => ?_
  · exact (sound .block _ _ h.valid).mono fun n g tree => tree.takes
  simp only [ensures_run]
  intro _
  simpa using (h.append read).item (k := .statement)

omit sound in
theorem jumpStatement_item (v : c.Valid text) (solid : c.token.isSolid = true) :
    Ensures jumpStatement s c (Item text c) := by
  simp only [jumpStatement, ensures_run, ensures_look]
  intro _
  have h := v.reads.token solid
  refine semicolonAhead_stays.mono ?_
  rintro ended _ rfl
  refine ensures_ite (fun _ => ?_) fun _ => ?_
  · simp only [ensures_run]
    exact fun _ => (semicolon_reads h.valid).mono fun _ d ended => (h.skip ended).item
  · simp only [ensures_run]
    refine (plainName_takes h.valid).mono fun name d read _ => ?_
    have h := h.append read.toReads
    exact (semicolon_reads h.valid).mono fun _ e ended => (h.skip ended).item

theorem returnStatement_item (v : c.Valid text) :
    Ensures (returnStatement self) s c (Item text c) := by
  simp -zeta only [returnStatement, ensures_run, ensures_look]
  intro word _
  have h := v.reads.eaten word
  refine semicolonAhead_stays.mono ?_
  rintro ended _ rfl
  extract_lets ending
  have finish (e : List Node) (d : Cursor) (h : Takes text c e d) :
      Ensures (ending e) s d (Item text c) := by
    simp only [ending, ensures_run]
    exact (semicolon_reads h.valid).mono fun _ f ended => (h.skip ended).item
  refine ensures_ite (fun _ => ?_) fun _ => ?_
  · simp only [ensures_run]
    exact finish [] _ h
  · simp only [ensures_run]
    exact (enclosedExpression_tree sound h.valid).mono fun e d read =>
      finish [e] d (h.toReads.tree read)

theorem throwStatement_item (v : c.Valid text) :
    Ensures (throwStatement self) s c (Item text c) := by
  simp only [throwStatement, ensures_run, ensures_look]
  intro word _
  have h := v.reads.eaten word
  refine (enclosedExpression_tree sound h.valid).mono fun e d read => ?_
  have h := h.toReads.tree read
  exact (semicolon_reads h.valid).mono fun _ f ended => (h.skip ended).item

theorem labelledStatement_item (v : c.Valid text) :
    Ensures (labelledStatement self) s c (Item text c) := by
  simp only [labelledStatement, ensures_run, ensures_look]
  refine (plainName_takes v).mono fun name d read colon _ => ?_
  have h := read.toReads.eaten colon
  exact (sound .statement _ _ h.valid).mono fun b e read => (h.append read.takes.toReads).item

theorem expressionStatement_item (v : c.Valid text) :
    Ensures (expressionStatement self) s c (Item text c) := by
  simp only [expressionStatement, ensures_run, ensures_look]
  refine (enclosedExpression_tree sound v).mono fun e d read => ?_
  exact (semicolon_reads read.takes.valid).mono fun _ f ended => (read.takes.skip ended).item

theorem statement_item (v : c.Valid text) : Ensures (statement self) s c (Item text c) := by
  simp only [statement, ensures_run, ensures_look]
  split
  · exact (bracedItems_completes sound v _).mono fun n d rest => v.reads.completeItem rest
  · rename_i here
    simp only [ensures_run]
    exact fun _ => (v.reads.matched here).item
  · rename_i name here
    have solid : c.token.isSolid = true := by simp [here, Token.isSolid]
    refine ensures_ite (fun _ => ifStatement_item sound v) fun _ => ?_
    refine ensures_ite (fun _ => forStatement_item sound v) fun _ => ?_
    refine ensures_ite (fun _ => whileStatement_item sound v) fun _ => ?_
    refine ensures_ite (fun _ => doStatement_item sound v) fun _ => ?_
    refine ensures_ite (fun _ => switchStatement_item sound v) fun _ => ?_
    refine ensures_ite (fun _ => tryStatement_item sound v) fun _ => ?_
    refine ensures_ite (fun _ => jumpStatement_item v solid) fun _ => ?_
    refine ensures_ite (fun _ => returnStatement_item sound v) fun _ => ?_
    refine ensures_ite (fun _ => throwStatement_item sound v) fun _ => ?_
    refine ensures_ite (fun _ => ?_) fun _ => ?_
    · simp only [ensures_run]
      intro _
      have h := v.reads.token solid
      exact (semicolon_reads h.valid).mono fun _ d ended => (h.skip ended).item
    refine ensures_ite (fun _ => ?_) fun _ => ?_
    · exact (variableStatement_completes sound v _ _ _ _).mono fun n d rest => v.reads.completeItem rest
    refine ensures_ite (fun _ => ensures_fail.2 trivial) fun _ => ?_
    simp only [ensures_run, ensures_look]
    refine ensures_ite (fun _ => labelledStatement_item sound v) fun _ => ?_
    simp only [ensures_run, ensures_look]
    exact fun _ => expressionStatement_item sound v
  · simp only [ensures_run, ensures_look]
    exact ensures_ite (fun _ => labelledStatement_item sound v) fun _ => expressionStatement_item sound v
  · exact expressionStatement_item sound v

end ServerLink.Script.Parse
