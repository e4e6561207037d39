import Mathlib.Data.List.Nodup
import ServerLink.Proofs.CallSites
import ServerLink.Proofs.Layout
import ServerLink.Proofs.Origins

/-!
Which calls become stubs. The search decides by the shape of a declaration and by what is exported,
the client's code by local names and by where calls begin; where no name is given to two variables
both mean the same calls.
-/

set_option autoImplicit false

namespace ServerLink

open Script Text

/-! ### Calls behind functions -/

/-- The function is found because a variable at the top of the module has this call of the marker for
its value, with one function literal. -/
structure Discovery.Marks (d : Discovery) (m : Module) (root : Path) (f : ServerFunction)
    (n call g : Node) : Prop where
  origin : ∃ c, d.origin? m f.exportedName = some (n, c)
  top : n ∈ m.items.flatMap Rewriting.topVariables
  value : namedValue? n = some (f.localName, n, call)
  called : m.imports.isCallOf d.options.library.specifier d.options.library.marker call = true
  given : call.args = [g]
  literal : isFunctionLiteral g = true
  id : f.id = functionId f.localName (Path.idPath root m.path) (m.lineOf n)

namespace Discovery

variable {o : Options} {m : Module} {root : Path}

theorem isMarked_of_traced {declaration n : Node} {c : Candidate}
    (found : (n, c) ∈ (Discovery.mk o none).traced m declaration) :
    ∃ hoisted span ds, declaration = .mk (.variables hoisted) span ds ∧ n ∈ ds ∧
      ∃ g, IsMarked o m n c.name g := by
  obtain ⟨k, span, ps⟩ := declaration
  have alone {declaration : Node} {c : Candidate}
      (shaped : c ∈ (Discovery.mk o none).shape m declaration) :=
    variable_of_candidate (show c ∈ markedCandidates o m declaration from shaped)
  by_cases several : ∃ hoisted, k = .variables hoisted
  next =>
    obtain ⟨hoisted, rfl⟩ := several
    obtain ⟨n', member, inside⟩ := List.mem_flatMap.1 found
    obtain ⟨c', shaped, pair⟩ := List.mem_map.1 inside
    obtain ⟨rfl, rfl⟩ := Prod.mk.inj pair
    obtain ⟨_, _, ds, same, d, here, g, marked⟩ := alone shaped
    -- the declaration of the one variable has no other in it
    obtain ⟨-, -, rfl⟩ := Node.mk.inj same
    obtain rfl := List.mem_singleton.1 here
    exact ⟨hoisted, span, ps, rfl, member, g, marked⟩
  next =>
    have nothing : (Discovery.mk o none).shape m (.mk k span ps) = [] := by
      apply List.eq_nil_iff_forall_not_mem.2
      intro c shaped
      obtain ⟨hoisted, _, _, same, -⟩ := alone shaped
      exact several ⟨hoisted, (Node.mk.inj same).1⟩
    cases k with
    | «variables» hoisted => exact absurd ⟨hoisted, rfl⟩ several
    | _ => simp [traced, nothing] at found

theorem marks_of_values {f : ServerFunction}
    (member : f ∈ ((Discovery.mk o none).scan m root).values) :
    ∃ n call g, (Discovery.mk o none).Marks m root f n call g := by
  obtain ⟨n, c, origin, recorded⟩ := origin_of_values member
  have name : c.name = f.localName := (congrArg ServerFunction.localName recorded).symm
  have id : f.id = functionId c.name (Path.idPath root m.path) c.line :=
    congrArg ServerFunction.id recorded
  rw [name, line_of_origin? origin] at id
  obtain ⟨top, g, value, named, called, given, literal⟩ :
      n ∈ m.items.flatMap Rewriting.topVariables ∧ ∃ g, IsMarked o m n c.name g := by
    cases origin?_cases origin with
    | inl inline =>
      obtain ⟨declaration, behind, found⟩ := List.mem_flatMap.1 inline.2
      obtain ⟨item, within, exported⟩ := List.mem_filterMap.1 behind
      obtain ⟨hoisted, span, ds, rfl, here, marked⟩ := isMarked_of_traced found
      refine ⟨List.mem_flatMap.2 ⟨item, within, ?_⟩, marked⟩
      unfold exported? at exported
      split at exported
      · obtain rfl := Option.some.inj exported
        exact here
      · simp at exported
    | inr last =>
      obtain ⟨item, within, found⟩ := List.mem_flatMap.1 (mem_plainOrigins_of_last last)
      obtain ⟨hoisted, span, ds, rfl, here, marked⟩ := isMarked_of_traced found
      exact ⟨List.mem_flatMap.2 ⟨_, within, here⟩, marked⟩
  exact ⟨n, value, g, ⟨c, origin⟩, top, name ▸ named, called, given, literal, id⟩

section Distinct

variable (distinct :
  (((m.items.flatMap Rewriting.topVariables).filterMap namedValue?).map Prod.fst).Nodup)

include distinct

theorem eq_of_name {name : String} {n n' v v' : Node}
    (top : n ∈ m.items.flatMap Rewriting.topVariables) (value : namedValue? n = some (name, n, v))
    (top' : n' ∈ m.items.flatMap Rewriting.topVariables)
    (value' : namedValue? n' = some (name, n', v')) : n = n' ∧ v = v' := by
  have here := List.mem_filterMap.2 ⟨n, top, value⟩
  have there := List.mem_filterMap.2 ⟨n', top', value'⟩
  have same := List.inj_on_of_nodup_map distinct here there rfl
  exact Prod.mk.inj (Prod.mk.inj same).2

-- Functions of one local name are one variable, under however many names it is exported.
theorem id_eq_of_localName {f g : ServerFunction}
    (left : f ∈ ((Discovery.mk o none).scan m root).values)
    (right : g ∈ ((Discovery.mk o none).scan m root).values) (same : f.localName = g.localName) :
    f.id = g.id := by
  obtain ⟨n, call, _, marks⟩ := marks_of_values left
  obtain ⟨n', call', _, marks'⟩ := marks_of_values right
  obtain ⟨rfl, -⟩ := eq_of_name distinct marks.top marks.value marks'.top (same ▸ marks'.value)
  rw [marks.id, marks'.id, same]

theorem ownId?_of_values {f : ServerFunction}
    (member : f ∈ ((Discovery.mk o none).scan m root).values) :
    Rewriting.ownId? ((Discovery.mk o none).scan m root) f.localName = some f.id := by
  obtain ⟨g, found⟩ : ∃ g, ((Discovery.mk o none).scan m root).values.reverse.find?
      (·.localName == f.localName) = some g := by
    apply Option.isSome_iff_exists.1
    rw [List.find?_isSome]
    exact ⟨f, List.mem_reverse.2 member, by simp⟩
  have name : g.localName = f.localName := by simpa using List.find?_some found
  have inside := List.mem_reverse.1 (List.mem_of_find?_eq_some found)
  rw [Rewriting.ownId?, found, Option.map_some, id_eq_of_localName distinct inside member name]

end Distinct

end Discovery

namespace Rewriting

/-! ### Variables in a row -/

section Placed

variable {text : List Char} {lo hi : Nat}

theorem topVariables_placed {item : Node} (placed : item.Placed text) :
    PlacedFrom text item.front item.stop (topVariables item) := by
  unfold topVariables
  split
  · exact placed.parts
  · rename_i span hoisted place ds more
    have here := placed.parts.placed (.mk (.variables hoisted) place ds) (by simp)
    have bounds := placed.parts.bounds (.mk (.variables hoisted) place ds) (by simp)
    exact here.parts.mono bounds.1 bounds.2
  · trivial

theorem placed_topVariables {items : List Node} (placed : PlacedFrom text lo hi items) :
    PlacedFrom text lo hi (items.flatMap topVariables) := by
  induction items generalizing lo with
  | nil => trivial
  | cons item items ih =>
    obtain ⟨after, here, below, rest⟩ := placed
    have width := here.front_le_stop
    have first := (topVariables_placed here).mono after (Nat.le_refl _)
    exact first.append (ih rest) (Nat.le_trans after width) (Nat.le_refl _) below

theorem eq_of_placed {ps : List Node} (placed : PlacedFrom text lo hi ps) {p p' q q' : Node}
    (left : p ∈ ps) (right : p' ∈ ps) (inside : q ∈ p.all) (inside' : q' ∈ p'.all)
    (start : q.start = q'.start) : p = p' := by
  cases placed.apart left right with
  | inl same => exact same
  | inr apart =>
    have place := (placed.placed p left).extent inside
    have place' := (placed.placed p' right).extent inside'
    have solid := ((placed.placed p left).all q inside).solid
    have solid' := ((placed.placed p' right).all q' inside').solid
    omega

end Placed

/-! ### The calls that become stubs -/

theorem mem_all_of_namedValue? {name : String} {n v : Node}
    (value : namedValue? n = some (name, n, v)) : v ∈ n.all := by
  unfold namedValue? at value
  split at value
  · obtain rfl := (Prod.mk.inj (Prod.mk.inj (Option.some.inj value)).2).2
    exact mem_all_of_part (by simp) (mem_all_self _)
  · simp at value

theorem stubOf?_eq {is : Imports} {library : LibraryNames} {own : FunctionMap} {name id : String}
    {n call : Node} (value : namedValue? n = some (name, n, call))
    (called : is.isCallOf library.specifier library.marker call = true)
    (single : call.args.length = 1) (known : ownId? own name = some id) :
    stubOf? is library own n = some (call.start, id) := by
  unfold namedValue? at value
  split at value
  · obtain ⟨written, rest⟩ := Prod.mk.inj (Option.some.inj value)
    obtain rfl := (Prod.mk.inj rest).2
    simp [stubOf?, called, single, written, known]
  · simp at value

theorem variable_of_stubOf? {is : Imports} {library : LibraryNames} {own : FunctionMap} {n : Node}
    {start : Nat} {id : String} (stub : stubOf? is library own n = some (start, id)) :
    ∃ v ∈ n.all, v.start = start := by
  unfold stubOf? at stub
  split at stub
  · split at stub
    · obtain ⟨_, -, same⟩ := Option.map_eq_some_iff.1 stub
      exact ⟨_, mem_all_of_part (by simp) (mem_all_self _), (Prod.mk.inj same).1⟩
    · simp at stub
  · simp at stub

variable {m : Module} {o : Options} {passes : Passes} {own : FunctionMap}
  {imported : ImportedFunctions} {text : List Char} {lo hi : Nat}

-- The call of the marker that is the value of a variable at the top becomes a stub, if the variable
-- has the name of a function.
theorem plan_of_variable (placed : PlacedFrom text lo hi m.items) (stubs : passes.clientStubs = true)
    {name id : String} {n call : Node} (top : n ∈ m.items.flatMap topVariables)
    (value : namedValue? n = some (name, n, call))
    (called : m.imports.isCallOf o.library.specifier o.library.marker call = true)
    (single : call.args.length = 1) (known : ownId? own name = some id) :
    (ofModule m o passes own imported).plan call = .stub id := by
  have stub := stubOf?_eq value called single known
  obtain ⟨item, here, atTop⟩ := List.mem_flatMap.1 top
  have listed : (ofModule m o passes own imported).stubs = stubsOf m o.library own := by
    simp [ofModule, stubs]
  have looked : (ofModule m o passes own imported).stubs.lookup call.start = some id := by
    obtain ⟨id', found⟩ := Option.isSome_iff_exists.1
      (@hasStub_of_mem m o passes own imported stubs item n here atTop call.start id stub)
    obtain ⟨before, after, entries, -⟩ := List.lookup_eq_some_iff.1 found
    have entry : (call.start, id') ∈ stubsOf m o.library own := by
      rw [← listed, entries]
      simp
    -- what begins there belongs to no other variable
    obtain ⟨n', top', stub'⟩ := List.mem_filterMap.1 entry
    obtain ⟨v, inside, start⟩ := variable_of_stubOf? stub'
    obtain rfl := eq_of_placed (placed_topVariables placed) top' top inside
      (mem_all_of_namedValue? value) start
    rw [found, (Prod.mk.inj (Option.some.inj (stub'.symm.trans stub))).2]
  obtain ⟨span, callee, more, rfl, -, -⟩ := isCallOf_callee called
  simp only [plan, planCall, looked]

theorem reached_of_part {r : Rewriting} {k : Kind} {span : Span} {ps : List Node} {p n : Node}
    (plain : k ≠ .call) (stays : isImport k = false) (member : p ∈ ps) (inside : n ∈ r.reached p) :
    n ∈ r.reached (.mk k span ps) := by
  apply mem_reached.2
  refine ⟨stays, Or.inr ⟨p, member, ?_, inside⟩⟩
  rw [r.plan_eq_keep plain]
  rfl

theorem reached_of_topVariables {r : Rewriting} {items : List Node} {name : String} {n call : Node}
    (top : n ∈ items.flatMap topVariables) (value : namedValue? n = some (name, n, call))
    (kind : call.kind = .call) : call ∈ r.partReached (fun _ => true) items := by
  obtain ⟨item, here, atTop⟩ := List.mem_flatMap.1 top
  have self : call ∈ r.reached call := by
    obtain ⟨k, span, ps⟩ := call
    obtain rfl : k = .call := kind
    exact mem_reached.2 ⟨rfl, Or.inl rfl⟩
  have below : call ∈ r.reached n := by
    unfold namedValue? at value
    split at value
    · obtain rfl := (Prod.mk.inj (Prod.mk.inj (Option.some.inj value)).2).2
      exact reached_of_part (by simp) rfl (by simp) self
    · simp at value
  have inItem : call ∈ r.reached item := by
    unfold topVariables at atTop
    split at atTop
    · exact reached_of_part (by simp) rfl atTop below
    · rename_i span hoisted place ds more
      have inVariables : call ∈ r.reached (.mk (.variables hoisted) place ds) :=
        reached_of_part (by simp) rfl atTop below
      exact reached_of_part (by simp) rfl (by simp) inVariables
    · simp at atTop
  exact mem_partReached.2 ⟨item, here, rfl, inItem⟩

theorem mem_partEdits {r : Rewriting} {stands : Kind → Bool} {ps : List Node} {p : Node} {e : Edit}
    (member : p ∈ ps) (stays : stands p.kind = true) (own : e ∈ r.edits p) :
    e ∈ r.partEdits stands ps := by
  have perm := r.partEdits_perm_of stands fun p (_ : p ∈ ps) => r.edits_perm p
  exact perm.mem_iff.2 (r.mem_orderedParts member stays ((r.edits_perm p).mem_iff.1 own))

theorem ownEdits_of_reached {r : Rewriting} {t n : Node} (inside : n ∈ r.reached t) {e : Edit}
    (own : e ∈ r.ownEdits n (r.plan n)) : e ∈ r.edits t := by
  induction t using Node.induct with
  | step k span ps ih =>
    obtain ⟨stays, here | ⟨p, member, stands, below⟩⟩ := mem_reached.1 inside
    · subst here
      rw [edits, if_neg (by simp [stays])]
      exact List.mem_append_left _ own
    · rw [edits, if_neg (by simp [stays])]
      exact List.mem_append_right _ (mem_partEdits member stands (ih p member below))

theorem count_stub (placed : PlacedFrom text lo hi m.items) (le : lo ≤ hi) {call g : Node}
    {id : String}
    (inside : call ∈ (ofModule m o passes own imported).partReached (fun _ => true) m.items)
    (stub : (ofModule m o passes own imported).plan call = .stub id) (given : call.args = [g])
    (literal : isFunctionLiteral g = true) :
    (ofModule m o passes own imported).allEdits.count ⟨g.start, g.stop, o.globals.stub id⟩ = 1 := by
  let made := ofModule m o passes own imported
  have once : (made.partEdits (fun _ => true) m.items).count
      ⟨g.start, g.stop, o.globals.stub id⟩ = 1 := by
    have perm := made.partEdits_perm_of (fun _ => true) fun p (_ : p ∈ m.items) => made.edits_perm p
    have row := (made.orderedParts_row (fun _ => true) le placed).row.ascending
    have different : (made.orderedParts (fun _ => true) m.items).Nodup := by
      apply row.imp
      intro a b follows same
      exact absurd follows.1 (same ▸ Nat.lt_irrefl _)
    apply List.count_eq_one_of_mem (perm.nodup_iff.2 different)
    obtain ⟨item, here, -, below⟩ := mem_partReached.1 inside
    have own : (⟨g.start, g.stop, o.globals.stub id⟩ : Edit) ∈ made.ownEdits call (made.plan call) := by
      rw [show made.plan call = .stub id from stub, ownEdits, stubEdits, given]
      simp [argValue_of_isFunctionLiteral literal, made, ofModule]
    exact mem_partEdits here rfl (ownEdits_of_reached below own)
  have needed : made.isNeeded = true := by
    have some : made.stubs.isEmpty = false := stubs_of_plan stub
    simp [isNeeded, some]
  -- what takes out imports puts nothing in
  have others : (if made.passes.inlineHelpers || !made.stubs.isEmpty then made.importRemovals
      else []).count ⟨g.start, g.stop, o.globals.stub id⟩ = 0 := by
    apply List.count_eq_zero_of_not_mem
    intro removed
    split at removed
    · obtain ⟨item, -, same⟩ := List.mem_map.1 removed
      have empty := congrArg (String.toList ∘ Edit.content) same
      simp [GlobalNames.stub, Edit.removal] at empty
    · simp at removed
  rw [allEdits, if_pos needed, List.count_append, others]
  exact once

end Rewriting

/-! ### Stubs and what a search finds -/

namespace Discovery

variable {o : Options} {m : Module} {root : Path}

theorem clientStubs_of_mem {own : FunctionMap} {f : ServerFunction} (member : f ∈ own.values) :
    (o.passes .client !own.isEmpty).clientStubs = true := by
  have filled : own.isEmpty = false := by
    cases entries : own.entries with
    | nil => simp [FunctionMap.values, entries] at member
    | cons e es => simp [FunctionMap.isEmpty, entries]
  simp [Options.passes, filled]

section Plans

variable {passes : Passes} {imported : ImportedFunctions} {text : List Char} {lo hi : Nat}
  (placed : PlacedFrom text lo hi m.items)
  (distinct : (((m.items.flatMap Rewriting.topVariables).filterMap namedValue?).map Prod.fst).Nodup)

include placed distinct

theorem plan_of_marks (stubs : passes.clientStubs = true) {f : ServerFunction}
    (member : f ∈ ((Discovery.mk o none).scan m root).values) {n call g : Node}
    (marks : (Discovery.mk o none).Marks m root f n call g) :
    (Rewriting.ofModule m o passes ((Discovery.mk o none).scan m root) imported).plan call =
      .stub f.id := by
  have known := ownId?_of_values distinct member
  have single : call.args.length = 1 := by simp [marks.given]
  exact Rewriting.plan_of_variable placed stubs marks.top marks.value marks.called single known

theorem marks_of_plan {call : Node} (inside : call ∈ allNodes m.items) {id : String}
    (stub : (Rewriting.ofModule m o passes ((Discovery.mk o none).scan m root) imported).plan call =
      .stub id) :
    ∃ f ∈ ((Discovery.mk o none).scan m root).values, f.id = id ∧
      ∃ n g, (Discovery.mk o none).Marks m root f n call g := by
  obtain ⟨n, top, name, value, single, called, known⟩ :=
    Rewriting.variable_of_stub placed inside stub
  obtain ⟨f, found, rfl⟩ := Option.map_eq_some_iff.1 known
  have member := List.mem_reverse.1 (List.mem_of_find?_eq_some found)
  obtain rfl : f.localName = name := by simpa using List.find?_some found
  -- the variable that the function was found by has the same name
  obtain ⟨n', call', g, marks⟩ := marks_of_values member
  obtain ⟨rfl, rfl⟩ := eq_of_name distinct top value marks.top marks.value
  exact ⟨f, member, rfl, n, g, marks⟩

end Plans

theorem id_eq_iff {path : Path} {text : List Char} (parsed : Module.parse path text = .ok m)
    (distinct : (((m.items.flatMap Rewriting.topVariables).filterMap namedValue?).map Prod.fst).Nodup)
    {f g : ServerFunction} (left : f ∈ ((Discovery.mk o none).scan m root).values)
    (right : g ∈ ((Discovery.mk o none).scan m root).values) :
    f.id = g.id ↔ f.localName = g.localName := by
  constructor
  · intro same
    obtain ⟨_, _, _, marks⟩ := marks_of_values left
    obtain ⟨_, _, _, marks'⟩ := marks_of_values right
    rw [marks.id, marks'.id] at same
    exact (functionId_inj (isWord_of_scan parsed left) (isWord_of_scan parsed right) same).1
  · exact id_eq_of_localName distinct left right

end Discovery

/-- Where no name is given to two variables at the top, the calls that become stubs for the client are
those that make the functions which a search finds, each the value of its variable. Each gets the one
stub that sends the identifier of its own variable, under however many names that is exported, and
the identifiers of different variables are different. -/
theorem stubs_of_scan {o : Options} (marker : o.detection = .marker) {path : Path} {text : List Char}
    {m : Module} (parsed : Module.parse path text = .ok m)
    (distinct : (((m.items.flatMap Rewriting.topVariables).filterMap namedValue?).map Prod.fst).Nodup)
    (t : FileTree) (r : Registry) (root : Path) :
    let d : Discovery := ⟨o, none⟩
    let own := d.scan m root
    let made := Rewriting.ofModule m o (o.passes .client !own.isEmpty) own
      (importedFunctions t r o.extensions m.path m.imports own)
    Discovery.ofOptions o = .ok d ∧ moduleEdits o t r .client m own = made.allEdits ∧
    (∀ call ∈ allNodes m.items, ∀ id, made.plan call = .stub id ↔
      ∃ f ∈ own.values, f.id = id ∧ ∃ n g, d.Marks m root f n call g) ∧
    (∀ f ∈ own.values, (∃ n call g, d.Marks m root f n call g) ∧
      ∀ n call g, d.Marks m root f n call g →
        call ∈ made.partReached (fun _ => true) m.items ∧
          made.allEdits.count ⟨g.start, g.stop, o.globals.stub f.id⟩ = 1) ∧
    ∀ f ∈ own.values, ∀ f' ∈ own.values, f.id = f'.id ↔ f.localName = f'.localName := by
  intro d own made
  have placed := (Module.parse_placed parsed).placed
  have plan {f : ServerFunction} {n call g : Node} (member : f ∈ own.values)
      (marks : d.Marks m root f n call g) : made.plan call = .stub f.id :=
    Discovery.plan_of_marks placed distinct (Discovery.clientStubs_of_mem member) member marks
  refine ⟨by simp [Discovery.ofOptions, marker, d],
    by simp [moduleEdits, Options.passes, marker, made], ?_, ?_, ?_⟩
  · intro call inside id
    constructor
    · exact Discovery.marks_of_plan placed distinct inside
    · rintro ⟨f, member, rfl, n, g, marks⟩
      exact plan member marks
  · intro f member
    refine ⟨Discovery.marks_of_values member, fun n call g marks => ?_⟩
    obtain ⟨span, callee, more, rfl, -, -⟩ := isCallOf_callee marks.called
    have reached : _ ∈ made.partReached (fun _ => true) m.items :=
      Rewriting.reached_of_topVariables marks.top marks.value rfl
    exact ⟨reached, Rewriting.count_stub placed (Nat.zero_le _) reached (plan member marks)
      marks.given marks.literal⟩
  · intro f left f' right
    exact Discovery.id_eq_iff parsed distinct left right

-- Two functions on one line, one of them under two names, and a call of the marker that is no value
-- of a variable.
def Sample.listed : Source :=
  .of path ("import \x7b func \x7d from \"serverfn\"\nconst f = func(() => 1), g = func(() => 2);\n" ++
    "h(func(() => 3));\nexport \x7b f, f as k, g \x7d").toList
    (by decide +kernel)

theorem stubs_of_scan_listed :
    let m := Sample.listed.module
    let own := (Discovery.mk .standard none).scan m ⟨"/p"⟩
    let made := Rewriting.ofModule m .standard (Options.standard.passes .client !own.isEmpty) own
      (importedFunctions .empty (.empty ⟨"/p"⟩) Options.standard.extensions m.path m.imports own)
    own.values.map (·.exportedName) = ["f", "g", "k"] ∧
      (∀ f ∈ own.values, ∃ call ∈ allNodes m.items, made.plan call = .stub f.id ∧ ∃ g : Node,
        made.allEdits.count ⟨g.start, g.stop, GlobalNames.standard.stub f.id⟩ = 1) ∧
      ∃ call ∈ allNodes m.items, m.imports.isCallOf "serverfn" "func" call = true ∧
        ∀ id, made.plan call ≠ .stub id := by
  intro m own made
  obtain ⟨distinct, names, call, inside, called, kept⟩ :
      (((m.items.flatMap Rewriting.topVariables).filterMap namedValue?).map Prod.fst).Nodup ∧
        own.values.map (·.exportedName) = ["f", "g", "k"] ∧
        ∃ call ∈ allNodes m.items, m.imports.isCallOf "serverfn" "func" call = true ∧
          made.plan call = .keep := by
    decide +kernel
  obtain ⟨-, -, stubs, each, -⟩ := stubs_of_scan (o := .standard) rfl Sample.listed.parsed distinct
    .empty (.empty ⟨"/p"⟩) ⟨"/p"⟩
  refine ⟨names, fun f member => ?_, call, inside, called, fun id stub => ?_⟩
  · obtain ⟨⟨n, call, g, marks⟩, placed⟩ := each f member
    obtain ⟨reached, once⟩ := placed n call g marks
    obtain ⟨item, here, -, below⟩ := Rewriting.mem_partReached.1 reached
    have found : call ∈ allNodes m.items :=
      mem_allNodes.2 ⟨item, here, Rewriting.mem_all_of_reached below⟩
    exact ⟨call, found, (stubs call found f.id).2 ⟨f, member, rfl, n, g, marks⟩, g, once⟩
  · exact CallPlan.noConfusion (kept.symm.trans stub)

end ServerLink
