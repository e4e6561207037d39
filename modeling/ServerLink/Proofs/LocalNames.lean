import ServerLink.Proofs.Exports
import ServerLink.Proofs.Parsing.ImportNames

/-!
The names of what a module declares. Variables and functions are declared under names that were read
as such, so that the name a server function has in its module holds nothing but characters of names.
-/

set_option autoImplicit false

namespace ServerLink

open Script Text

namespace Script

/-- The names that a declaration gives to functions, and to variables with a value. -/
def Node.valueNames (n : Node) : List String :=
  match n with
  | .mk .functionDecl _ ps => ownNames ps
  | d => (namedValues d).map Prod.fst

def Node.IsNamed (n : Node) : Prop := ∀ s ∈ n.valueNames, IsWord s

-- What the item declares is named, be it exported where it stands or not.
structure Node.IsNamedItem (n : Node) : Prop where
  here : n.IsNamed
  exported : ∀ d, exported? n = some d → d.IsNamed

theorem Node.IsNamedItem.respan {n : Node} (h : n.IsNamedItem) (span : Span) :
    (Node.mk n.kind span n.parts).IsNamedItem := by
  obtain ⟨k, old, ps⟩ := n
  have names : (Node.mk k span ps).valueNames = (Node.mk k old ps).valueNames := by
    cases k <;> rfl
  have inline : exported? (.mk k span ps) = exported? (.mk k old ps) := by
    cases k <;> cases ps <;> rfl
  exact ⟨fun s declared => h.here s (names ▸ declared),
    fun d found => h.exported d (inline ▸ found)⟩

theorem ownNames_decorated {ds ps : List Node} (decorators : ∀ d ∈ ds, d.kind = .decorator) :
    ownNames (ds ++ ps) = ownNames ps := by
  induction ds with
  | nil => rfl
  | cons d ds ih =>
    have skipped := ih fun e member => decorators e (List.mem_cons_of_mem _ member)
    rw [← skipped, List.cons_append, ownNames,
      List.find?_cons_of_neg (by simp [decorators d (by simp)])]
    rfl

theorem Node.IsNamedItem.decorated {n : Node} (h : n.IsNamedItem) (kind : n.kind = .functionDecl)
    (span : Span) {ds : List Node} (decorators : ∀ d ∈ ds, d.kind = .decorator) :
    (Node.mk n.kind span (ds ++ n.parts)).IsNamedItem := by
  obtain ⟨k, old, ps⟩ := n
  obtain rfl : k = .functionDecl := kind
  refine ⟨fun s declared => h.here s ?_, fun d inline => by simp [exported?] at inline⟩
  exact (ownNames_decorated decorators ▸ declared : s ∈ ownNames ps)

theorem Node.IsQuiet.named {n : Node} (quiet : n.IsQuiet) : n.IsNamedItem := by
  obtain ⟨k, span, ps⟩ := n
  constructor
  · intro s declared
    cases k <;>
      first | exact absurd quiet Bool.false_ne_true | simp [valueNames, namedValues] at declared
  · intro d inline
    cases k <;> first | exact absurd quiet Bool.false_ne_true | simp [exported?] at inline

namespace Parse

variable {text : List Char} {s : Setting} {c d : Cursor} {self : Goal → Parse Node}

/-! ### Variables -/

-- A pattern that is a single name was read as one.
def PatternNamed (n : Node) : Prop := ∀ name own, n.kind = .bind name own → IsWord name

theorem bindingPattern_named (v : c.Valid text) :
    Ensures (bindingPattern self) s c fun n _ => PatternNamed n := by
  simp only [bindingPattern, ensures_run, ensures_look]
  refine ensures_ifEat (fun _ => ?_) ?_
  · simp only [arrayPatternTail, ensures_run]
    intro _ _ _ _
    simp [PatternNamed]
  simp only [ensures_run]
  refine ensures_ifEat (fun _ => ?_) ?_
  · simp only [ensures_run]
    intro _ _ _
    simp [PatternNamed]
  · simp only [ensures_run]
    refine (bindingName_word v).mono fun name d word => ?_
    rintro name' own ⟨⟩
    exact word

section Declarations

variable (sound : Sound text self)
  (named : ∀ s c, c.Valid text → Ensures (self .pattern) s c fun n _ => PatternNamed n)

include named

theorem declarator_named (v : c.Valid text) (place : VariablePlace) (valueNeeded : Bool) :
    Ensures (declarator self place valueNeeded) s c
      fun n _ => ∀ r, namedValue? n = some r → IsWord r.1 := by
  unfold declarator
  simp -zeta only [ensures_bind, ensures_look]
  refine (named s c v).mono fun p d word => ?_
  have made (span : Span) (ann value : List Node) :
      ∀ r, namedValue? (.mk .declarator span (p.annotated ann :: value)) = some r → IsWord r.1 := by
    intro r known
    unfold namedValue? at known
    split at known
    · rename_i name own _ _ _ _ same
      obtain ⟨-, -, parts⟩ := Node.mk.inj same
      have kind : p.kind = .bind name own := congrArg Node.kind (List.cons.inj parts).1
      obtain rfl := Option.some.inj known
      exact word name own kind
    · simp at known
  repeat'
    first
    | exact ensures_node.2 (made _ _ _)
    | refine ensures_bind.2 fun _ _ _ => ?_
    | refine ensures_ite (fun _ => ?_) fun _ => ?_

include sound

theorem variableStatement_named (v : c.Valid text) (start : Nat) {k : Kind}
    (declares : k.isVariables = true) (valueNeeded : Bool) (words : Nat) :
    Ensures (variableStatement self start k valueNeeded words) s c fun n _ => n.IsNamedItem := by
  simp only [variableStatement, ensures_run]
  refine (skipWords_reads v words).mono fun _ d read => ?_
  have each : Ensures (declarators self .list valueNeeded) s d
      fun vs _ => ∀ n ∈ vs, ∀ r, namedValue? n = some r → IsWord r.1 := by
    simp only [declarators, ensures_run]
    refine (ensures_rounds (a := []) (I := fun (vs : List Node) e => e.Valid text ∧
      ∀ n ∈ vs, ∀ r, namedValue? n = some r → IsWord r.1) ⟨read.valid, by simp⟩ ?_).mono
        fun vs e h => by simpa using h.2
    rintro vs e ⟨valid, all⟩
    simp only [ensures_run]
    refine ((declarator_tree sound valid _ _).and (declarator_named named valid _ _)).mono ?_
    rintro n f ⟨tree, word⟩
    have more : ∀ m ∈ n :: vs, ∀ r, namedValue? m = some r → IsWord r.1 :=
      List.forall_mem_cons.2 ⟨word, all⟩
    refine ensures_eat.2 ⟨fun comma => ?_, fun _ => ?_⟩
    · exact ensures_pure.2 ⟨(tree.takes.toReads.eaten comma).valid, more⟩
    · exact ensures_pure.2 ⟨tree.takes.valid, more⟩
  refine each.mono fun vs e all _ f _ => ?_
  obtain ⟨hoisted, rfl⟩ | rfl : (∃ hoisted, k = .variables hoisted) ∨ k = .resources := by
    cases k <;> simp [Kind.isVariables] at declares ⊢
  · refine ⟨fun name declared => ?_, fun d inline => by simp [exported?] at inline⟩
    obtain ⟨r, known, rfl⟩ := List.mem_map.1 declared
    obtain ⟨n, member, value⟩ := List.mem_filterMap.1 known
    exact all n member r value
  · exact Node.IsQuiet.named rfl

end Declarations

/-! ### Functions -/

theorem functionAfterWord_named (sound : Sound text self) (v : c.Valid text) (start : Nat)
    (async : Bool) : Ensures (functionAfterWord self .functionDecl start async true) s c
      fun n _ => n.IsNamedItem := by
  simp only [functionAfterWord, angleAhead, ensures_run, ensures_look]
  refine (eat_reads v _).mono fun generator d star => ?_
  refine ensures_ite (fun _ => ?_) fun _ => ensures_ite (fun named => ?_) fun _ => ?_
  · simp only [ensures_run]
    simp
  · simp at named
  · simp only [ensures_run]
    refine ((bindingName_takes star.1.valid).and (bindingName_word star.1.valid)).mono ?_
    rintro name e ⟨read, word⟩
    refine (functionTail_completes sound read.valid _ _ _ _).mono ?_
    rintro n f ⟨more, -, rfl⟩
    refine ⟨fun other declared => ?_, fun d inline => by simp [exported?] at inline⟩
    obtain rfl := List.mem_singleton.1 (show other ∈ [name] from declared)
    exact word

theorem functionDecl?_named (sound : Sound text self) (v : c.Valid text) :
    Ensures (functionDecl? self true) s c
      fun o _ => ∀ n ∈ o, n.kind = .functionDecl ∧ n.IsNamedItem := by
  have given {d : Cursor} (valid : d.Valid text) (start : Nat) (async : Bool) :
      Ensures (functionAfterWord self .functionDecl start async true) s d
        fun n _ => n.kind = .functionDecl ∧ n.IsNamedItem := by
    refine ((functionAfterWord_completes sound valid _ _ _ _).and
      (functionAfterWord_named sound valid start async)).mono ?_
    rintro n e ⟨⟨more, -, rfl⟩, named⟩
    exact ⟨rfl, named⟩
  simp only [functionDecl?, ensures_run, ensures_look]
  refine ensures_ifEatWord (fun word => ?_) ?_
  · simp only [ensures_run]
    exact (given (v.reads.eaten word).valid _ _).mono fun n d named => by simpa using named
  · simp only [ensures_run, ensures_look]
    refine ensures_ite (fun _ => ?_) fun _ => ensures_pure.2 (by simp)
    simp only [ensures_run]
    intro first second
    have valid := ((v.reads.next first).next second).valid
    exact (given valid _ _).mono fun n d named => by simpa using named

/-! ### Declarations -/

variable (sound : Sound text self)
  (named : ∀ s c, c.Valid text → Ensures (self .pattern) s c fun n _ => PatternNamed n)

include sound named

theorem ambientDecl_named (v : c.Valid text) (start : Nat) (ds : List Node) :
    Ensures (ambientDecl self start ds) s c fun n _ => n.IsNamedItem := by
  simp only [ambientDecl, ensures_run]
  refine ((typeDeclaration?_declared sound v start ds).and
    (typeDeclaration?_quiet self start ds _ c)).mono ?_
  rintro (_ | d) e ⟨⟨-, still⟩, quiet⟩
  · obtain rfl := still rfl
    simp only [ensures_run]
    refine ((functionDecl?_declared sound v true).and (functionDecl?_named sound v)).mono ?_
    rintro (_ | f) e ⟨⟨-, still⟩, function⟩
    · obtain rfl := still rfl
      simp only [ensures_run]
      refine ensures_ifEatWord (fun _ => ?_) ?_
      · have class_ := (declarations_quiet self start ds true).1
        exact (class_ _ _).mono fun n _ quiet => quiet.named
      · simp only [ensures_run]
        refine (variableWords_stays.and (variableWords_variables _ _)).mono ?_
        rintro (_ | ⟨k, needed, words⟩) _ ⟨⟨rfl, -⟩, declares⟩
        · exact ensures_fail.2 trivial
        · exact variableStatement_named sound named v start (declares _ rfl) needed words
    · exact ensures_pure.2 ((function f rfl).2.respan _)
  · exact ensures_pure.2 (quiet d rfl).named

theorem declaration?_named (v : c.Valid text) (start : Nat) (ds : List Node) :
    Ensures (declaration? self start ds) s c fun o _ => ∀ n ∈ o, n.IsNamedItem := by
  have one {n : Node} (h : n.IsNamedItem) : ∀ m ∈ some n, m.IsNamedItem := by simpa using h
  simp only [declaration?, ensures_run]
  refine ((functionDecl?_declared sound v true).and (functionDecl?_named sound v)).mono ?_
  rintro (_ | f) e ⟨⟨-, still⟩, function⟩
  case some => exact ensures_pure.2 (one (function f rfl).2)
  obtain rfl := still rfl
  simp only [ensures_run, ensures_look]
  refine ensures_ite (fun _ => ?_) fun _ => ?_
  · have class_ := (declarations_quiet self start ds true).1
    simp only [ensures_run]
    exact fun _ => (class_ _ _).mono fun n _ quiet => one quiet.named
  simp only [ensures_run]
  refine ambientAhead_stays.mono ?_
  rintro ambient d rfl
  refine ensures_ite (fun _ => ?_) fun _ => ?_
  · simp only [ensures_run, ensures_look]
    intro _ passed
    exact (ambientDecl_named sound named (v.reads.next passed).valid start ds).mono
      fun n _ h => one h
  simp only [ensures_run]
  refine ((typeDeclaration?_declared sound v start ds).and
    (typeDeclaration?_quiet self start ds _ _)).mono ?_
  rintro (_ | d) e ⟨⟨-, still⟩, quiet⟩
  case some => exact ensures_pure.2 (one (quiet d rfl).named)
  obtain rfl := still rfl
  simp only [ensures_run]
  refine (variableWords_stays.and (variableWords_variables _ _)).mono ?_
  rintro (_ | ⟨k, needed, words⟩) _ ⟨⟨rfl, -⟩, declares⟩
  · exact ensures_pure.2 (by simp)
  · simp only [ensures_run]
    exact (variableStatement_named sound named v start (declares _ rfl) needed words).mono
      fun n _ h => one h

omit sound named in
theorem decorators_kind :
    Ensures (decorators self) s c fun ds _ => ∀ d ∈ ds, d.kind = .decorator := by
  have one : Always (decorator self) fun n => n.kind = .decorator := by
    unfold decorator
    repeat' first
      | exact always_node fun _ => rfl
      | refine always_bind fun _ => ?_
      | refine always_ite ?_ ?_
  simp only [decorators, ensures_run]
  refine (ensures_rounds (a := []) (I := fun (ds : List Node) _ => ∀ d ∈ ds, d.kind = .decorator)
    (by simp) ?_).mono fun ds d all => by simpa using all
  intro ds d all
  simp only [ensures_run, ensures_look]
  refine ensures_ite (fun _ => ?_) fun _ => ensures_pure.2 all
  simp only [ensures_run]
  exact (one s d).mono fun n e kind => List.forall_mem_cons.2 ⟨kind, all⟩

theorem item_named (v : c.Valid text) : Ensures (item self) s c fun n _ => n.IsNamedItem := by
  simp only [item, ensures_run, ensures_look]
  refine ensures_ite (fun _ => ?_) fun _ => ?_
  · simp only [ensures_run, ensures_look]
    refine ((decorators_reads sound v).and decorators_kind).mono ?_
    rintro ds d ⟨⟨read, -⟩, decorators⟩
    refine (declaration?_named sound named read.valid _ ds).mono ?_
    rintro (_ | d) e declared
    · exact ensures_fail.2 trivial
    have given := declared d rfl
    dsimp only
    split
    · exact ensures_pure.2 given
    · rename_i kind
      exact ensures_pure.2 (given.decorated kind _ decorators)
    · exact ensures_fail.2 trivial
  simp only [ensures_run]
  refine ((declaration?_declared sound v _ _).and (declaration?_named sound named v _ _)).mono ?_
  rintro (_ | d) e ⟨⟨-, still⟩, declared⟩
  · obtain rfl := still rfl
    exact statement_cases self (fun n quiet => quiet.named) fun start =>
      variableStatement_named sound named v start rfl _ _
  · exact ensures_pure.2 (declared d rfl)

theorem exportItem_named (v : c.Valid text) (ds : List Node) :
    Ensures (exportItem self ds) s c fun n _ => n.IsNamedItem := by
  have still {p : Parse Node} {d : Cursor} (h : Always p Node.IsQuiet) :
      Ensures p s d fun n _ => n.IsNamedItem := (h s d).mono fun n _ quiet => quiet.named
  obtain ⟨all, list⟩ := exportLists_quiet self c.here.offset false
  simp only [exportItem, ensures_run, ensures_look]
  intro word
  have h := v.reads.eaten word
  refine ensures_ite (fun _ => still all) fun _ => ?_
  simp only [ensures_run, ensures_look]
  refine ensures_ite (fun _ => still list) fun _ => ?_
  simp only [ensures_run, ensures_look]
  refine ensures_ite (fun _ => still (exportDefault_quiet self _ ds)) fun _ => ?_
  simp only [ensures_run]
  refine ((typedExport?_item sound h).and (typedExport?_quiet self _ s _)).mono ?_
  rintro (_ | e) d ⟨⟨-, stays⟩, quiet⟩
  case some => exact ensures_pure.2 (quiet e rfl).named
  obtain rfl := stays rfl
  simp only [ensures_run, ensures_look]
  refine (decorators_reads sound h.valid).mono ?_
  rintro more e ⟨read, -⟩
  refine (declaration?_named sound named read.valid _ _).mono ?_
  rintro (_ | d) f declared
  · exact ensures_fail.2 trivial
  simp only [ensures_run]
  intro _
  refine ⟨fun name => by simp [Node.valueNames, namedValues], fun d' inline => ?_⟩
  obtain rfl : d = d' := by simpa [exported?] using inline
  exact (declared d rfl).here

omit sound named in
theorem importItem_still : Always (importItem self) Node.IsNamedItem := by
  unfold importItem
  repeat' first
    | exact always_node fun _ =>
        ⟨fun _ declared => by simp [Node.valueNames, namedValues] at declared,
          fun _ inline => by simp [exported?] at inline⟩
    | exact always_pure (Node.IsQuiet.named rfl)
    | refine always_bind fun _ => ?_
    | split

theorem moduleItem_declares (v : c.Valid text) :
    Ensures (moduleItem self) s c fun n _ => n.IsNamedItem := by
  simp only [moduleItem, ensures_run, ensures_look]
  refine ensures_ite (fun _ => exportItem_named sound named v []) fun _ => ?_
  simp only [ensures_run, ensures_look]
  refine importExpressionAhead_stays.mono ?_
  rintro ahead c rfl
  refine ensures_ite (fun _ => importItem_still s _) fun _ => ?_
  simp only [ensures_run, ensures_look]
  refine ensures_ite (fun _ => ?_) fun _ => item_named sound named v
  simp only [ensures_run]
  split
  · simp only [ensures_run]
    refine (decorators_reads sound v).mono ?_
    rintro ds d ⟨read, -⟩
    exact exportItem_named sound named read.valid ds
  · exact item_named sound named v

end Parse

/-! ### Modules -/

theorem script_declares {text : List Char} {c : Cursor} (v : c.Valid text) (s : Setting)
    (depth : Nat) :
    Parse.Ensures (Parse.script depth) s c fun items _ => ∀ i ∈ items, i.IsNamedItem := by
  simp only [Parse.script, Parse.ensures_run]
  refine (Parse.ensures_rounds (a := []) (I := fun (items : List Node) d =>
    d.Valid text ∧ ∀ i ∈ items, i.IsNamedItem) ⟨v, by simp⟩ ?_).mono
      fun items d read => by simpa using read.2
  rintro items d ⟨valid, all⟩
  simp only [Parse.ensures_run, Parse.ensures_look]
  refine Parse.ensures_ite (fun _ => Parse.ensures_pure.2 ⟨valid, all⟩) fun _ => ?_
  simp only [Parse.ensures_run]
  cases depth with
  | zero => exact Parse.ensures_of_eq_none rfl
  | succ depth =>
    have pattern (s : Setting) (c : Cursor) (v : c.Valid text) :
        Parse.Ensures (Goal.read depth .pattern) s c fun n _ => Parse.PatternNamed n := by
      cases depth with
      | zero => exact Parse.ensures_of_eq_none rfl
      | succ depth => exact Parse.bindingPattern_named v
    have item : Parse.Ensures (Goal.read (depth + 1) .moduleItem) s d fun i _ => i.IsNamedItem :=
      Parse.moduleItem_declares (read_sound depth) pattern valid
    refine ((read_sound (depth + 1) .moduleItem s d valid).and item).mono ?_
    intro i e h
    have read : Item text d i e := h.1
    exact ⟨read.takes.valid, List.forall_mem_cons.2 ⟨h.2, all⟩⟩

theorem namedValue?_resolve (l : Locals) (n : Node) :
    (namedValue? (n.resolve l)).map Prod.fst = (namedValue? n).map Prod.fst := by
  obtain ⟨k, span, ps⟩ := n
  cases k with
  | declarator =>
    cases ps with
    | nil => rfl
    | cons p ps =>
      obtain ⟨k, span, qs⟩ := p
      cases ps with
      | nil => cases k <;> rfl
      | cons value ps => cases k <;> rfl
  | _ => rfl

theorem namedValues_resolve (l : Locals) (n : Node) :
    (namedValues (n.resolve l)).map Prod.fst = (namedValues n).map Prod.fst := by
  obtain ⟨k, span, ps⟩ := n
  have lists (v : Views) : ((resolveParts v ps).filterMap namedValue?).map Prod.fst =
      (ps.filterMap namedValue?).map Prod.fst := by
    simp only [resolveParts_eq_map, List.filterMap_map, List.map_filterMap, Function.comp_def,
      namedValue?_resolve]
  cases k <;> first | rfl | exact lists _

theorem ownNames_resolve (v : Views) (ps : List Node) :
    ownNames (resolveParts v ps) = ownNames ps := by
  induction ps with
  | nil => rfl
  | cons p ps ih =>
    obtain ⟨k, span, qs⟩ := p
    cases k <;> first | rfl | exact ih

theorem isNamed_resolve (l : Locals) {n : Node} (h : n.IsNamed) : (n.resolve l).IsNamed := by
  obtain ⟨k, span, ps⟩ := n
  have names : (Node.resolve l (.mk k span ps)).valueNames = (Node.mk k span ps).valueNames := by
    have values := namedValues_resolve l (.mk k span ps)
    cases k <;> first | exact values | exact ownNames_resolve _ ps
  exact fun s declared => h s (names ▸ declared)

theorem Node.IsNamedItem.resolve {n : Node} (h : n.IsNamedItem) (l : Locals) :
    (n.resolve l).IsNamedItem := by
  refine ⟨isNamed_resolve l h.here, fun d inline => ?_⟩
  obtain ⟨k, span, ps⟩ := n
  cases k <;> try simp [exported?, Node.resolve, Kind.settle] at inline
  cases ps with
  | nil => simp [resolveParts] at inline
  | cons p ps =>
    obtain rfl := Option.some.inj inline
    exact isNamed_resolve _ (h.exported p rfl)

end Script

theorem Module.isNamedItem_of_parse {path : Path} {text : List Char} {m : Module}
    (parsed : Module.parse path text = .ok m) : ∀ item ∈ m.items, item.IsNamedItem := by
  unfold Module.parse at parsed
  split at parsed
  · rename_i items read
    obtain rfl := Except.ok.inj parsed
    simp only [parseScript] at read
    split at read
    · rename_i found d given
      have start : (skipShellLine ⟨withoutMark text, 0⟩).Of (withoutMark text) :=
        skipShellLine_of (.refl _ _)
      have named := script_declares (Cursor.valid_at start) _ _ _ _ given
      split at read
      · simp at read
      · obtain rfl := Option.some.inj read
        intro item member
        rw [resolveParts_eq_map] at member
        obtain ⟨i, here, rfl⟩ := List.mem_map.1 member
        exact (named i here).resolve _
    · simp at read
  · simp at parsed

theorem valueNames_of_bound {n : Node} {name : String}
    (bound : name ∈ boundNames n ∨ name ∈ signatureNames n) : name ∈ n.valueNames := by
  obtain ⟨k, span, ps⟩ := n
  by_cases function : k = .functionDecl
  · subst function
    have own : name ∈ ownNames ps := by
      by_cases spelled : ps.any (·.kind == .body) = true <;>
        simpa [boundNames, signatureNames, spelled] using bound
    exact own
  · cases k <;> first | exact absurd rfl function | exact bound.resolve_right List.not_mem_nil

-- The name that a server function has in its module is a name.
theorem Discovery.isWord_of_scan {d : Discovery} {path : Path} {text : List Char} {m : Module}
    {root : Path} {f : ServerFunction} (parsed : Module.parse path text = .ok m)
    (member : f ∈ (d.scan m root).values) : IsWord f.localName := by
  obtain ⟨c, recorded, found⟩ := candidate_of_values member
  have name : f.localName = c.name := by rw [recorded]; rfl
  have shaped {n : Node} (h : n.IsNamed) (candidate : c ∈ d.shape m n) : IsWord c.name := by
    refine h _ (valueNames_of_bound ?_)
    exact (bound_of_shape candidate).imp_right fun signature => signature.2
  have named := Module.isNamedItem_of_parse parsed
  rw [name]
  rcases mem_exportedCandidates found with ⟨item, member, decl, inline, candidate, -⟩ |
    ⟨-, item, member, candidate⟩
  · exact shaped ((named item member).exported decl inline) candidate
  · exact shaped (named item member).here candidate

/-! ### Identifiers of functions -/

theorem stop_inj {stop : Char} {a b xs ys : List Char} (left : stop ∉ a) (right : stop ∉ b)
    (same : a ++ stop :: xs = b ++ stop :: ys) : a = b ∧ xs = ys := by
  have before (a xs : List Char) (clear : stop ∉ a) :
      (a ++ stop :: xs).takeWhile (· ≠ stop) = a := by
    have all : ∀ c ∈ a, decide (c ≠ stop) = true := fun c member => by
      simpa using fun same : c = stop => clear (same ▸ member)
    rw [List.takeWhile_append_of_pos all]
    simp
  obtain rfl : a = b := by rw [← before a xs left, same, before b ys right]
  exact ⟨rfl, (List.cons.inj (List.append_cancel_left same)).2⟩

theorem toString_nat_inj {l k : Nat} (same : (toString l).toList = (toString k).toList) : l = k := by
  have digits : Nat.toDigits 10 l = Nat.toDigits 10 k := by
    simpa only [Nat.toString_eq_repr, Nat.toList_repr] using same
  have read := congrArg (fun ds => Nat.ofDigitChars 10 ds 0) digits
  simpa using read

theorem colon_not_mem_toString (n : Nat) : ':' ∉ (toString n).toList := by
  intro member
  rw [Nat.toString_eq_repr, Nat.toList_repr] at member
  have digit := Nat.isDigit_of_mem_toDigits (by decide) (by decide) member
  simp at digit

-- The name ends at the first `@` and the line begins behind the last colon, whatever the file holds
-- of either.
theorem functionId_inj {a b file other : String} {l k : Nat} (left : IsWord a) (right : IsWord b)
    (same : functionId a file l = functionId b other k) : a = b ∧ file = other ∧ l = k := by
  have sign (s : List Char) : "@".toList ++ s = '@' :: s := rfl
  have colon (s : List Char) : ":".toList ++ s = ':' :: s := rfl
  have texts := congrArg String.toList same
  simp only [functionId, String.toList_append, List.append_assoc, sign, colon, List.cons_append]
    at texts
  obtain ⟨names, rest⟩ := stop_inj (left.not_mem (by decide)) (right.not_mem (by decide)) texts
  have turned := congrArg List.reverse rest
  simp only [List.reverse_append, List.reverse_cons, List.append_assoc, List.singleton_append]
    at turned
  have behind (n : Nat) : ':' ∉ (toString n).toList.reverse := by
    simpa using colon_not_mem_toString n
  obtain ⟨lines, files⟩ := stop_inj (behind l) (behind k) turned
  have sameFile : file.toList = other.toList := List.reverse_injective files
  exact ⟨String.toList_inj.1 names, String.toList_inj.1 sameFile,
    toString_nat_inj (List.reverse_injective lines)⟩

end ServerLink
