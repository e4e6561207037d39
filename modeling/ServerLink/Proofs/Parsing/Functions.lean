import ServerLink.Proofs.Parsing.Goals
import ServerLink.Script.Grammar.Function

/-!
Patterns that declare names, parameters, decorators and functions stand where they are read.
-/

set_option autoImplicit false

namespace ServerLink.Script

open Text Parse

-- A pattern with its type annotation stands where both were read.
theorem Tree.annotated {text : List Char} {c d e : Cursor} {n : Node} {ann : List Node}
    (h : Tree text c n d) (simple : n.kind.isSimple = true) (read : Reads text d ann e) :
    Tree text c (n.annotated ann) e :=
  h.extend simple read

namespace Parse

variable {text : List Char} {s : Setting} {c d : Cursor} {self : Goal → Parse Node}
  (sound : Sound text self)

include sound

theorem withDefault_pattern {n : Node} (h : Tree text c n d) (simple : n.kind.isSimple = true) :
    Ensures (withDefault self c.here.offset n) s d fun m e =>
      Tree text c m e ∧ m.kind.isSimple = true := by
  simp only [withDefault, ensures_run]
  refine (eat_reads h.takes.valid _).mono fun more e eaten => ?_
  refine ensures_ite (fun _ => ?_) fun _ => ?_
  · simp only [ensures_run]
    have h := h.takes.skip eaten.1
    refine (sound .assignment _ _ h.valid).mono fun value f read => ?_
    exact ⟨(h.toReads.tree read).node, rfl⟩
  · exact ensures_pure.2 ⟨⟨h.takes.skip eaten.1, h.plain⟩, simple⟩

theorem patternElement_pattern (v : c.Valid text) :
    Ensures (patternElement self) s c fun n d => Tree text c n d ∧ n.kind.isSimple = true := by
  simp only [patternElement, ensures_run, ensures_look]
  refine (sound .pattern _ _ v).mono ?_
  rintro n d ⟨tree, simple⟩
  exact withDefault_pattern sound tree simple

theorem arrayPatternTail_pattern (h : Takes text c [] d) :
    Ensures (arrayPatternTail self c.here.offset) s d fun n e =>
      Tree text c n e ∧ n.kind.isSimple = true := by
  simp only [arrayPatternTail, ensures_run]
  refine (ensures_gather (c := c) [] h.toReads ?_).mono fun parts e read closed =>
    ⟨(read.eaten closed).node, rfl⟩
  intro parts e read
  simp only [ensures_run, ensures_look]
  refine ensures_ite (fun _ => ensures_pure.2 read) fun _ => ?_
  simp only [ensures_run]
  refine ensures_ifEat (fun comma => ?_) ?_
  · simp only [ensures_run]
    exact read.cons (read.valid.reads.eaten comma).node
  simp only [ensures_run]
  refine ensures_ifEat (fun dots => ?_) ?_
  · have h := read.valid.reads.eaten dots
    simp only [ensures_run]
    refine (sound .pattern _ _ h.valid).mono ?_
    rintro p f ⟨tree, -⟩
    exact read.cons (h.tree tree).node
  · simp only [ensures_run, ensures_look]
    refine (patternElement_pattern sound read.valid).mono ?_
    rintro p f ⟨tree, -⟩
    refine ensures_ite (fun _ => ensures_pure.2 (read.cons tree)) fun _ => ?_
    simp only [ensures_run]
    exact fun comma => ((read.cons tree).eaten comma).toReads

theorem patternProperty_tree (v : c.Valid text) :
    Ensures (patternProperty self) s c (Tree text c) := by
  have keyed : Ensures (do
      let key ← propertyName self
      expect ":"
      let value ← patternElement self
      node .patternProperty c.here.offset [key, value]) s c (Tree text c) := by
    simp only [ensures_run]
    refine (propertyName_tree sound v).mono fun key d read colon => ?_
    have h := (v.reads.tree read).eaten colon
    refine (patternElement_pattern sound h.valid).mono ?_
    rintro value e ⟨tree, -⟩
    exact (h.toReads.tree tree).node
  simp only [patternProperty, ensures_run, ensures_look]
  refine ensures_ifEat (fun dots => ?_) ?_
  · have h := v.reads.eaten dots
    simp only [ensures_run, ensures_look]
    refine (bindingName_takes h.valid).mono fun name d read _ => ?_
    exact (h.toReads.tree read.node).node
  · simp only [ensures_run, ensures_look]
    split
    · simp only [ensures_run, ensures_look]
      refine ensures_ite (fun _ => ?_) fun _ => ?_
      · simpa only [ensures_run] using keyed
      · simp only [ensures_run]
        refine (bindingName_takes v).mono fun name d read => ?_
        exact (withDefault_pattern sound read.node rfl).mono fun n e h => h.1
    · simpa only [ensures_run] using keyed

theorem bindingPattern_pattern (v : c.Valid text) :
    Ensures (bindingPattern self) s c fun n d => Tree text c n d ∧ n.kind.isSimple = true := by
  simp only [bindingPattern, ensures_run, ensures_look]
  refine ensures_ifEat (fun opened => ?_) ?_
  · exact arrayPatternTail_pattern sound (v.reads.eaten opened)
  simp only [ensures_run]
  refine ensures_ifEat (fun opened => ?_) ?_
  · have h := v.reads.eaten opened
    simp only [ensures_run]
    refine (listUntil_takes (fun c v => patternProperty_tree sound v) h.valid).mono
      fun parts d read => ?_
    exact ⟨(h.append read.toReads).node, rfl⟩
  · simp only [ensures_run]
    exact (bindingName_takes v).mono fun name d read => ⟨read.node, rfl⟩

/-! ### Decorators -/

theorem callArguments_given (v : c.Valid text) :
    Ensures (callArguments self) s c (Given text c) := by
  simp only [callArguments, ensures_run, ensures_look]
  intro opened
  have h := v.reads.eaten opened
  refine (listUntil_reads (P := fun n => n.kind.isDecorated = false) (fun c v => ?_) h.valid).mono ?_
  · simp only [ensures_run, ensures_look]
    refine ensures_ifEat (fun dots => ?_) ?_
    · have h := v.reads.eaten dots
      simp only [ensures_run]
      exact (sound .assignment _ _ h.valid).mono fun e d read => ⟨(h.tree read).spread read.plain, rfl⟩
    · exact (sound .assignment _ _ v).mono fun e d (read : Tree text c e d) =>
        ⟨read, Kind.isDecorated_of_isPlain read.plain⟩
  · rintro args _ ⟨each, e, read, closed, rfl⟩
    exact v.given opened read closed each

omit sound in
theorem dotted_tree {object : Node} (h : Takes text c [object] d) :
    Ensures (dotted c.here.offset object) s d (Tree text c) := by
  simp only [dotted, ensures_run, ensures_look]
  split
  · rename_i named
    simp only [ensures_run]
    exact fun _ => (h.toReads.matched named).node
  · simp only [ensures_run]
    exact (anyName_takes h.valid).mono fun name e read => (h.append read.toReads).node

theorem decorator_tree (v : c.Valid text) : Ensures (decorator self) s c fun n d =>
    Tree text c n d ∧ n.start = c.here.offset := by
  simp -zeta only [decorator, ensures_run, ensures_look]
  intro mark
  have h := v.reads.eaten mark
  extract_lets +underBinder close rest
  have closed (e : Node) (d : Cursor) (read : Tree text (.at c.next) e d) :
      Ensures (close e) s d fun n d => Tree text c n d ∧ n.start = c.here.offset := by
    simp only [close, ensures_run]
    exact ⟨(h.toReads.tree read).node, rfl⟩
  have finish (target : Node) (d : Cursor) (read : Tree text (.at c.next) target d) :
      Ensures (rest target) s d fun n d => Tree text c n d ∧ n.start = c.here.offset := by
    simp only [rest, ensures_run, ensures_look]
    refine (typeArguments?_reads sound read.takes.valid).mono ?_
    rintro _ e ⟨typed, types, rfl, named⟩
    have k := read.takes.append typed
    refine ensures_ite (fun _ => ?_) fun none => ?_
    · simp only [ensures_run]
      refine (callArguments_given sound k.valid).mono fun args f given => ?_
      exact closed _ _ (.call _ read.plain named k given)
    · obtain rfl : types = Option.none := by
        cases types with
        | none => rfl
        | some t => simp at none
      exact closed _ _ ⟨k, read.plain⟩
  refine ensures_ifEat (fun opened => ?_) ?_
  · have k := h.valid.reads.eaten opened
    simp only [ensures_run]
    refine (sound .expression _ _ k.valid).mono fun e d read closed => ?_
    exact finish _ _ ((k.toReads.tree read).eaten closed).node
  · simp only [ensures_run]
    refine (plainName_takes h.valid).mono fun name d read => ?_
    refine (ensures_rounds (I := Tree text (.at c.next)) read.use ?_).mono finish
    intro n e read
    have k := read.takes.toReads
    simp only [ensures_run]
    refine ensures_ifEat (fun dot => ?_) ?_
    · simp only [ensures_run]
      exact (dotted_tree (k.eaten dot)).mono fun m f tree => tree
    · simp only [ensures_run, ensures_look]
      refine ensures_ite (fun bang => ?_) fun _ => ensures_pure.2 read
      simp only [ensures_run]
      exact fun _ => (k.eaten (Bool.and_eq_true_iff.1 (Bool.and_eq_true_iff.1 bang).1).2).node

theorem decorators_reads (v : c.Valid text) : Ensures (decorators self) s c fun ds d =>
    Reads text c ds d ∧ ∀ n ∈ ds, Begins text n.front := by
  simp only [decorators, ensures_run]
  refine (ensures_rounds (a := ([] : List Node)) (I := fun ds d =>
    Reads text c ds.reverse d ∧ ∀ n ∈ ds, Begins text n.front) ⟨v.reads, by simp⟩ ?_).mono
      fun ds d read => ⟨read.1, by simpa using read.2⟩
  rintro ds d ⟨read, begins⟩
  simp only [ensures_run, ensures_look]
  refine ensures_ite (fun _ => ?_) fun _ => ensures_pure.2 ⟨read, begins⟩
  simp only [ensures_run]
  refine (decorator_tree sound read.valid).mono ?_
  rintro n e ⟨tree, start⟩
  refine ⟨read.cons tree, fun m member => ?_⟩
  rcases List.mem_cons.1 member with rfl | later
  · rw [Node.front_eq_start (Kind.isDecorated_of_isPlain tree.plain), start]
    exact tree.takes.begins
  · exact begins m later

/-! ### Parameters -/

omit sound in
theorem eatParameterWord_reads (v : c.Valid text) (words : List String) :
    Ensures (eatParameterWord words) s c fun _ => Reads text c [] := by
  simp only [eatParameterWord, ensures_run, ensures_look]
  split
  · rename_i named
    simp only [ensures_run, ensures_look]
    refine ensures_ite (fun _ => ?_) fun _ => ensures_pure.2 v.reads
    simp only [ensures_run]
    exact fun _ => (v.reads.matched named).toReads
  · exact ensures_pure.2 v.reads

omit sound in
theorem parameterModifiers_reads (v : c.Valid text) :
    Ensures parameterModifiers s c fun _ => Reads text c [] := by
  simp only [parameterModifiers, ensures_run]
  refine (eatParameterWord_reads v _).mono fun _ d access => ?_
  refine (eatParameterWord_reads access.valid _).mono fun _ e override => ?_
  refine (eatParameterWord_reads override.valid _).mono fun _ f readonly => ?_
  exact (access.skip override).skip readonly

-- A parameter and its decorators, in reverse.
theorem parameter_reads (v : c.Valid text) (ofConstructor : Bool) :
    Ensures (parameter self ofConstructor) s c fun r d =>
      ∃ e, Reads text c r.1 e ∧ Tree text e r.2 d := by
  simp only [parameter, ensures_run, ensures_look]
  refine (decorators_reads sound v).mono ?_
  rintro ds d ⟨before, -⟩
  refine (parameterModifiers_reads before.valid).mono fun _ e words _ => ?_
  have before := before.skip words
  have v := before.valid
  refine ensures_ifEat (fun dots => ?_) ?_
  · have h := v.reads.eaten dots
    simp only [ensures_run]
    refine (sound .pattern _ _ h.valid).mono ?_
    rintro p f ⟨tree, -⟩
    refine ( typeAnnotation?_reads sound tree.takes.valid).mono fun ann g typed => ?_
    exact ⟨e, before, by simpa using ((h.toReads.tree tree).append typed).node (k := .rest)⟩
  · refine ensures_ite (fun receiver => ?_) fun _ => ?_
    · have h := v.reads.eaten (Bool.and_eq_true_iff.1 receiver).2
      simp only [ensures_run]
      intro _
      refine ( typeAnnotation?_reads sound h.valid).mono fun ann g typed => ?_
      exact ⟨e, before, h.node.annotated rfl typed⟩
    · simp only [ensures_run]
      refine (sound .pattern _ _ v).mono ?_
      rintro p f ⟨tree, simple⟩ _
      simp only [ensures_look]
      refine ensures_either (fun _ g => Reads text f [] g) (fun _ => ?_)
        (fun _ => ensures_pure.2 tree.takes.valid.reads) fun optional g mark => ?_
      · exact (eat_reads tree.takes.valid _).mono fun _ g eaten => eaten.1
      · simp only [ensures_run, ensures_look]
        refine ( typeAnnotation?_reads sound mark.valid).mono fun ann k typed _ => ?_
        have whole := (tree.skip mark).annotated simple typed
        exact (withDefault_pattern sound whole simple).mono fun q l made => ⟨e, before, made.1⟩

theorem parameters_tree (v : c.Valid text) (ofConstructor : Bool) :
    Ensures (parameters self ofConstructor) s c (Tree text c) := by
  simp only [parameters, ensures_run, ensures_look]
  intro opened
  have h := v.reads.eaten opened
  refine (ensures_gather (c := .at c.next) [] h.valid.reads ?_).mono
    fun ps d read closed => ((h.append read).toReads.eaten closed).node
  intro ps d read
  simp only [ensures_run, ensures_look]
  refine ensures_ite (fun _ => ensures_pure.2 read) fun _ => ?_
  simp only [ensures_run, ensures_look]
  refine (parameter_reads sound read.valid ofConstructor).mono ?_
  rintro ⟨ds, p⟩ f ⟨e, before, tree⟩
  have further : Reads text (.at c.next) (p :: (ds.reverse ++ ps)).reverse f := by
    simpa using ((read.append before).tree tree).toReads
  refine ensures_ite (fun _ => ensures_pure.2 further) fun _ => ?_
  simp only [ensures_run]
  exact fun comma => (further.eaten comma).toReads

/-! ### Functions -/

theorem functionBody_tree (v : c.Valid text) (form : FunctionForm) (ps : Node) :
    Ensures (functionBody self form ps) s c (Tree text c) := by
  simp only [functionBody, ensures_run]
  exact (sound .body _ _ v).mono fun b d (read : Tree text c b d) _ => read

theorem functionTail_completes (v : c.Valid text) (kind : Kind) (start : Nat) (name : List Node)
    (form : FunctionForm) : Ensures (functionTail self kind start name form) s c
      (Completes text kind start name c) := by
  simp only [functionTail, ensures_run, ensures_look]
  refine (typeParameters?_reads sound v .ofFunction).mono fun ts d typed => ?_
  refine (parameters_tree sound typed.valid _).mono fun ps e params => ?_
  have h := typed.tree params
  refine (returnAnnotation?_reads sound h.valid).mono fun result f returned => ?_
  have h := h.append returned
  refine ensures_ite (fun _ => ?_) fun _ => ?_
  · simp only [ensures_run, ensures_look]
    intro _
    refine (functionBody_tree sound h.valid form ps).mono fun b g read => ?_
    exact ⟨_, h.toReads.tree read, by simp⟩
  · simp only [ensures_run, ensures_look]
    intro _
    refine (semicolon_reads h.valid).mono fun _ g ended => ?_
    exact ⟨_, h.skip ended, by simp⟩

theorem functionAfterWord_completes (v : c.Valid text) (kind : Kind) (start : Nat)
    (async nameNeeded : Bool) : Ensures (functionAfterWord self kind start async nameNeeded) s c
      (Completes text kind start [] c) := by
  simp only [functionAfterWord, angleAhead, ensures_run, ensures_look]
  refine (eat_reads v _).mono fun generator d star => ?_
  have star := star.1
  have anonymous : Ensures (functionTail self kind start [] ⟨async, generator, false⟩) s d
      (Completes text kind start [] c) :=
    (functionTail_completes sound star.valid _ _ _ _).mono fun n e rest => star.completes rest
  refine ensures_ite (fun _ => ?_) fun _ => ensures_ite (fun _ => ?_) fun _ => ?_
  · simpa only [ensures_run] using fun _ => anonymous
  · simpa only [ensures_run] using anonymous
  · simp only [ensures_run]
    refine (bindingName_takes star.valid).mono fun name e read => ?_
    have h := star.tree (read.node (k := .bind name false))
    exact (functionTail_completes sound h.valid _ _ _ _).mono fun n f rest =>
      h.toReads.completes rest

end Parse

end ServerLink.Script
