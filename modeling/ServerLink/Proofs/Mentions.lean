import ServerLink.Proofs.Outcomes

/-!
Names that are mentioned. Text that mentions a name either gives way to an edit or counts as a use
of the name, and an import stays as long as a name that it declares is used.
-/

set_option autoImplicit false

namespace ServerLink

open Script Text

/-- The edit takes the place of the whole tree. -/
def Edit.Covers (e : Edit) (n : Node) : Prop := e.start ≤ n.start ∧ n.stop ≤ e.stop

instance (e : Edit) (n : Node) : Decidable (e.Covers n) :=
  inferInstanceAs (Decidable (_ ∧ _))

namespace Rewriting

mutual

/-- The places in a tree that mention one of the module's own names, imports apart. -/
def mentions (s : String) : Node → List Node
  | .mk k span ps =>
      if isImport k then []
      else (if mentioned? k = some s then [.mk k span ps] else []) ++ partMentions s ps

def partMentions (s : String) : List Node → List Node
  | [] => []
  | p :: ps => mentions s p ++ partMentions s ps

end

theorem mem_partMentions {s : String} {ps : List Node} {q : Node} :
    q ∈ partMentions s ps ↔ ∃ p ∈ ps, q ∈ mentions s p := by
  induction ps with
  | nil => simp [partMentions]
  | cons p ps ih => simp [partMentions, ih]

theorem mem_mentions {s : String} {k : Kind} {span : Span} {ps : List Node} {q : Node} :
    q ∈ mentions s (.mk k span ps) ↔ isImport k = false ∧
      ((mentioned? k = some s ∧ q = .mk k span ps) ∨ ∃ p ∈ ps, q ∈ mentions s p) := by
  cases stays : isImport k with
  | true => simp [mentions, stays]
  | false =>
    by_cases named : mentioned? k = some s
    · simp [mentions, stays, named, mem_partMentions]
    · simp [mentions, stays, named, mem_partMentions]

theorem mem_all_of_mentions {s : String} {n q : Node} (h : q ∈ mentions s n) : q ∈ n.all := by
  induction n using Node.induct with
  | step k span ps ih =>
    obtain ⟨-, ⟨-, rfl⟩ | ⟨p, member, inside⟩⟩ := mem_mentions.1 h
    · exact mem_all_self _
    · exact mem_all_of_part member (ih p member inside)

/-! ### What an edit takes the place of -/

section Covered

variable {text : List Char} {s : String} {call callee args q : Node} {types : Option Node}

theorem calleeEdit_covers (shape : call.CallPlaced text callee types args) (code : String) {p : Node}
    (head : p ∈ callee :: types.toList) (inside : q ∈ p.all) : (calleeEdit call code).Covers q := by
  rw [calleeEdit_eq shape]
  have bounds := shape.head.bounds p head
  have extent := (shape.head.placed p head).extent inside
  exact ⟨Nat.le_trans bounds.1 extent.1, Nat.le_trans extent.2 bounds.2⟩

-- The edits that send a call to the server leave nothing of what it calls.
theorem dispatchEdits_cover (r : Rewriting) (shape : call.CallPlaced text callee types args)
    (id : String) {p : Node} (head : p ∈ callee :: types.toList) (inside : q ∈ p.all) :
    ∃ e ∈ r.dispatchEdits call id, e.Covers q := by
  have bounds := shape.head.bounds p head
  have extent := (shape.head.placed p head).extent inside
  have behind := shape.behind
  have sound := shape.sound
  have within := shape.inside
  simp only [dispatchEdits, shape.arguments]
  cases atHead : args.parts.head? with
  | none =>
    refine ⟨_, List.mem_singleton_self _, ?_, ?_⟩
    · exact Nat.le_trans bounds.1 extent.1
    · show q.stop ≤ call.stop
      omega
  | some first =>
    obtain ⟨last, atEnd, -, left, -⟩ := argument_range shape atHead
    simp only [atEnd]
    refine ⟨_, List.mem_cons_self, ?_, ?_⟩
    · exact Nat.le_trans bounds.1 extent.1
    · show q.stop ≤ first.start
      omega

-- What an argument mentions is in the value that it gives.
theorem mentions_argValue {a : Node} (placed : a.Placed text) (front : a.front = a.start)
    (h : q ∈ mentions s a) : a.argValue.start ≤ q.start ∧ q.stop ≤ a.argValue.stop := by
  obtain ⟨k, span, ps⟩ := a
  by_cases spread : k = .spread
  · subst spread
    obtain ⟨-, -, -, ⟨e, rfl, plain⟩, -⟩ := id placed
    have value := (placed.parts.placed e (by simp)).extent (q := q)
    obtain ⟨-, ⟨named, -⟩ | ⟨p, member, inside⟩⟩ := mem_mentions.1 h
    · simp [mentioned?] at named
    · obtain rfl : p = e := by simpa using member
      rw [Node.front_eq_start plain] at value
      exact value (mem_all_of_mentions inside)
  · have same : (Node.mk k span ps).argValue = .mk k span ps := by
      cases k <;> first | rfl | exact absurd rfl spread
    rw [same]
    have extent := placed.extent (mem_all_of_mentions h)
    rwa [front] at extent

-- The stub of a call with one argument leaves nothing that the argument mentions.
theorem stubEdits_cover (r : Rewriting) (shape : call.CallPlaced text callee types args)
    (id : String) (single : call.args.length = 1) (h : q ∈ mentions s args) :
    ∃ e ∈ r.stubEdits call id, e.Covers q := by
  rw [shape.arguments] at single
  obtain ⟨a, parts⟩ := List.length_eq_one_iff.1 single
  obtain ⟨k, span, ps⟩ := args
  obtain rfl : k = .arguments := shape.given
  obtain ⟨-, ⟨named, -⟩ | ⟨p, member, inside⟩⟩ := mem_mentions.1 h
  · simp [mentioned?] at named
  · obtain rfl : ps = [a] := parts
    obtain rfl : p = a := by simpa using member
    have given : p ∈ (Node.mk .arguments span [p]).parts := by simp
    refine ⟨⟨p.argValue.start, p.argValue.stop, r.globals.stub id⟩, ?_, ?_⟩
    · simp [stubEdits, shape.arguments]
    · exact mentions_argValue (shape.list.placed p given) (shape.each p given) inside

-- What a plan throws away of a call gives way to the edits of the plan.
theorem ownEdits_cover (r : Rewriting) (shape : call.CallPlaced text callee types args)
    (plan : CallPlan) (single : ∀ id, plan = .stub id → call.args.length = 1) {p : Node}
    (part : p ∈ call.parts) (dropped : r.survives plan p.kind = false) (h : q ∈ mentions s p) :
    ∃ e ∈ r.ownEdits call plan, e.Covers q := by
  have inside := mem_all_of_mentions h
  rw [shape.parts, ← List.cons_append] at part
  rcases List.mem_append.1 part with head | last
  · have other := shape.heads p head
    cases plan with
    | keep => simp [survives] at dropped
    | dispatch id => exact r.dispatchEdits_cover shape id head inside
    | inlined code => exact ⟨_, List.mem_singleton_self _, calleeEdit_covers shape code head inside⟩
    | stub id =>
      have inline : r.passes.inlineHelpers = true := by simpa [survives, other] using dropped
      refine ⟨calleeEdit call "", ?_, calleeEdit_covers shape "" head inside⟩
      simp [ownEdits, inline]
  · obtain rfl : p = args := by simpa using last
    cases plan with
    | keep => simp [survives] at dropped
    | dispatch id => simp [survives, shape.given] at dropped
    | inlined code => simp [survives, shape.given] at dropped
    | stub id =>
      obtain ⟨e, member, covers⟩ := r.stubEdits_cover shape id (single id rfl) h
      exact ⟨e, List.mem_append_right _ member, covers⟩

end Covered

/-! ### What counts as a use -/

theorem mem_partUses (r : Rewriting) {stands : Kind → Bool} {ps : List Node} {p : Node} {s : String}
    (member : p ∈ ps) (stays : stands p.kind = true) (used : s ∈ r.uses p) :
    s ∈ r.partUses stands ps := by
  induction ps with
  | nil => simp at member
  | cons a ps ih =>
    rw [partUses, List.mem_append]
    rcases List.mem_cons.1 member with rfl | later
    · exact Or.inl (by simpa [stays] using used)
    · exact Or.inr (ih later)

-- A mention is a use, or an edit takes its place.
theorem used_or_covered (r : Rewriting) {text : List Char} {n q : Node} {s : String}
    (placed : n.Placed text) (single : ∀ c ∈ n.all, ∀ id, r.plan c = .stub id → c.args.length = 1)
    (h : q ∈ mentions s n) : s ∈ r.uses n ∨ ∃ e ∈ r.ordered n, e.Covers q := by
  induction n using Node.induct with
  | step k span ps ih =>
    obtain ⟨stays, ⟨named, rfl⟩ | ⟨p, member, inside⟩⟩ := mem_mentions.1 h
    · exact Or.inl (by simp [uses, stays, named])
    · by_cases stands : r.survives (r.plan (.mk k span ps)) p.kind = true
      · have deeper : ∀ c ∈ p.all, ∀ id, r.plan c = .stub id → c.args.length = 1 :=
          fun c found => single c (mem_all_of_part member found)
        rcases ih p member (placed.parts.placed p member) deeper inside with used | covered
        · apply Or.inl
          rw [uses, stays]
          exact List.mem_append_right _ (r.mem_partUses member stands used)
        · obtain ⟨e, own, covers⟩ := covered
          refine Or.inr ⟨e, ?_, covers⟩
          rw [ordered, stays]
          exact List.mem_append_left _ (List.mem_append_right _ (r.mem_orderedParts member stands own))
      · -- Only a call throws a part away, and its own edits take the place of the part.
        have dropped : r.survives (r.plan (.mk k span ps)) p.kind = false := by simpa using stands
        obtain rfl : k = .call := Decidable.byContradiction fun plain => by
          simp [r.plan_eq_keep plain, survives] at dropped
        obtain ⟨callee, types, args, shape⟩ := placed.call
        obtain ⟨e, own, covers⟩ := r.ownEdits_cover shape _
          (single _ (mem_all_self _)) member dropped inside
        refine Or.inr ⟨e, ?_, covers⟩
        rw [ownEdits_eq] at own
        rw [ordered, stays]
        rcases List.mem_append.1 own with lead | trail
        · exact List.mem_append_left _ (List.mem_append_left _ lead)
        · exact List.mem_append_right _ trail

/-! ### Calls that become stubs -/

-- There is nothing in a name but the name.
theorem eq_of_mem_use {text : List Char} {s : String} {o : Bool} {span : Span} {ps : List Node}
    {q : Node} (placed : (Node.mk (.use s o) span ps).Placed text)
    (inside : q ∈ (Node.mk (.use s o) span ps).all) : q = .mk (.use s o) span ps := by
  obtain ⟨-, -, -, none, -⟩ := placed
  obtain rfl : ps = [] := none
  simpa [Node.all, allNodes] using inside

-- What names an export is a name or a property of one, so a call can only begin behind that.
theorem lt_start_of_export? {text : List Char} {is : Imports} {library exported : String}
    {callee c : Node} (placed : callee.Placed text)
    (named : is.export? library callee = some exported) (inside : c ∈ callee.all)
    (kind : c.kind = .call) : callee.start < c.start := by
  unfold Imports.export? at named
  split at named
  · rw [eq_of_mem_use placed inside] at kind
    simp at kind
  · rename_i property place name under ps beside
    rcases mem_all.1 inside with rfl | below
    · simp at kind
    · have front := Node.front_eq_start (n := .mk (.member property) place
        (.mk (.use name true) under ps :: beside)) rfl
      obtain ⟨low, use, -, rest⟩ := placed.parts
      rcases List.mem_append.1 below with found | later
      · rw [eq_of_mem_use use found] at kind
        simp at kind
      · have extent := rest.extent later
        have left := Node.front_eq_start (n := .mk (.use name true) under ps) rfl
        have solid := use.solid
        omega
  · simp at named

-- Within a call of an export no other call begins where it does.
theorem eq_of_start {text : List Char} {is : Imports} {library exported : String} {value c : Node}
    (placed : value.Placed text) (called : is.isCallOf library exported value = true)
    (inside : c ∈ value.all) (kind : c.kind = .call) (start : c.start = value.start) : c = value := by
  rcases mem_all.1 inside with rfl | deeper
  · rfl
  unfold Imports.isCallOf at called
  split at called
  · rename_i span callee more
    have front := Node.front_eq_start (n := .mk .call span (callee :: more)) rfl
    obtain ⟨low, here, -, rest⟩ := placed.parts
    have left := callee.front_le_start
    have solid := here.solid
    exfalso
    rcases List.mem_append.1 deeper with head | later
    · have behind := lt_start_of_export? here (by simpa using called) head kind
      omega
    · have extent := rest.extent later
      omega
  · simp at called

theorem mem_of_topVariables {item d v : Node} (top : d ∈ topVariables item) (deeper : v ∈ d.all) :
    v ∈ item.all := by
  unfold topVariables at top
  split at top
  · exact mem_all_of_part top deeper
  · rename_i span hoisted place ds more
    exact mem_all_of_part (p := .mk (.variables hoisted) place ds) (by simp)
      (mem_all_of_part top deeper)
  · simp at top

-- What begins with a variable at the top of a module is inside the variable.
theorem mem_topVariables_of_start {text : List Char} {item d v c : Node} (placed : item.Placed text)
    (top : d ∈ topVariables item) (inside : c ∈ item.all) (deeper : v ∈ d.all)
    (kind : c.kind = .call) (start : c.start = v.start) : c ∈ d.all := by
  unfold topVariables at top
  split at top
  · rcases mem_all.1 inside with rfl | below
    · simp at kind
    · exact placed.parts.mem_part top below deeper start
  · rename_i span hoisted place ds more
    rcases mem_all.1 inside with rfl | below
    · simp at kind
    have here := placed.parts.placed (.mk (.variables hoisted) place ds) (by simp)
    have within : v ∈ (Node.mk (.variables hoisted) place ds).all := mem_all_of_part top deeper
    have exported : c ∈ (Node.mk (.variables hoisted) place ds).all :=
      placed.parts.mem_part (by simp) below within start
    rcases mem_all.1 exported with rfl | below
    · simp at kind
    · exact here.parts.mem_part top below deeper start
  · simp at top

theorem lookup_of_plan {r : Rewriting} {c : Node} {id : String} (stub : r.plan c = .stub id) :
    c.kind = .call ∧ (c.start, id) ∈ r.stubs := by
  unfold plan at stub
  split at stub
  · rename_i span callee more
    refine ⟨rfl, ?_⟩
    rcases r.planCall_cases (Node.mk .call span (callee :: more)).start callee
      (Node.mk .call span (callee :: more)).args with
      ⟨known, found, plan⟩ | ⟨f, -, plan⟩ | ⟨code, -, plan⟩ | plan
    · obtain rfl : known = id := by simpa [plan] using stub
      obtain ⟨before, after, stubs, -⟩ := List.lookup_eq_some_iff.1 found
      simp [stubs]
    · simp [plan] at stub
    · simp [plan] at stub
    · simp [plan] at stub
  · simp at stub

theorem stubs_of_plan {r : Rewriting} {c : Node} {id : String} (stub : r.plan c = .stub id) :
    r.stubs.isEmpty = false := by
  have listed := (lookup_of_plan stub).2
  cases all : r.stubs with
  | nil => simp [all] at listed
  | cons a as => rfl

/-- A call that becomes a stub is the value of a variable at the top, a call of the marker with one
argument, and the variable has the name of the function. -/
theorem variable_of_stub {m : Module} {text : List Char} {lo hi : Nat}
    (placed : PlacedFrom text lo hi m.items) {o : Options} {passes : Passes} {own : FunctionMap}
    {imported : ImportedFunctions} {c : Node} {id : String} (inside : c ∈ allNodes m.items)
    (stub : (ofModule m o passes own imported).plan c = .stub id) :
    ∃ d ∈ m.items.flatMap topVariables, ∃ name, namedValue? d = some (name, d, c) ∧
      c.args.length = 1 ∧ m.imports.isCallOf o.library.specifier o.library.marker c = true ∧
      ownId? own name = some id := by
  obtain ⟨kind, listed⟩ := lookup_of_plan stub
  have listed : (c.start, id) ∈ stubsOf m o.library own := by
    simp only [ofModule] at listed
    split at listed
    · exact listed
    · simp at listed
  obtain ⟨d, atTop, found⟩ := List.mem_filterMap.1 listed
  obtain ⟨item, member, top⟩ := List.mem_flatMap.1 atTop
  unfold stubOf? at found
  split at found
  · rename_i span name outer place ps value more
    split at found
    · rename_i recorded
      obtain ⟨single, called⟩ := Bool.and_eq_true_iff.1 recorded
      obtain ⟨known, named, same⟩ := Option.map_eq_some_iff.1 found
      obtain ⟨begins, rfl⟩ := Prod.mk.inj same
      have start : c.start = value.start := begins.symm
      have self := mem_all_self value
      have below : value ∈ (Node.mk .declarator span (.mk (.bind name outer) place ps :: value ::
          more)).all := mem_all_of_part (by simp) self
      have standing := placed.placed item member
      have within : value ∈ item.all := mem_of_topVariables top below
      have ofItem := placed.mem_part member inside within start
      have ofVariable := mem_topVariables_of_start standing top ofItem below kind start
      rcases mem_all.1 ofVariable with rfl | deeper
      · simp at kind
      have variablePlaced := standing.all _ (mem_of_topVariables top (mem_all_self _))
      have ofValue := variablePlaced.parts.mem_part (p := value) (by simp) deeper self start
      have valuePlaced := variablePlaced.parts.placed value (by simp)
      obtain rfl := eq_of_start valuePlaced called ofValue kind start
      exact ⟨_, atTop, name, rfl, eq_of_beq single, called, named⟩
    · simp at found
  · simp at found

theorem single_of_stub {m : Module} (placed : m.WellPlaced) {o : Options} {passes : Passes}
    {own : FunctionMap} {imported : ImportedFunctions} {c : Node} {id : String}
    (inside : c ∈ allNodes m.items)
    (stub : (ofModule m o passes own imported).plan c = .stub id) : c.args.length = 1 := by
  obtain ⟨d, -, name, -, single, -⟩ := variable_of_stub placed.placed inside stub
  exact single

/-! ### Imports that are used -/

theorem foldl_insert {is : Imports} {bs : List Binding}
    (distinct : ((is.bindings ++ bs).map Binding.localName).Nodup) :
    (bs.foldl Imports.insert is).bindings = is.bindings ++ bs := by
  induction bs generalizing is with
  | nil => simp
  | cons b bs ih =>
    have others : is.bindings.filter (·.localName != b.localName) = is.bindings := by
      apply List.filter_eq_self.2
      intro a member
      simp only [List.map_append, List.map_cons, List.nodup_append, List.mem_map] at distinct
      exact bne_iff_ne.2 (distinct.2.2 _ ⟨a, member, rfl⟩ _ List.mem_cons_self)
    have step : (is.insert b).bindings = is.bindings ++ [b] := by
      rw [Imports.insert, others]
    rw [List.foldl_cons, ih]
    · rw [step, List.append_assoc]
      rfl
    · rw [step, List.append_assoc]
      exact distinct

theorem find?_of_distinct {bs : List Binding} {b : Binding}
    (distinct : (bs.map Binding.localName).Nodup) (member : b ∈ bs) :
    bs.find? (·.localName == b.localName) = some b := by
  induction bs with
  | nil => simp at member
  | cons a bs ih =>
    rw [List.map_cons, List.nodup_cons] at distinct
    rcases List.mem_cons.1 member with rfl | later
    · simp
    · have other : (a.localName == b.localName) = false := by
        apply beq_eq_false_iff_ne.2
        intro same
        exact distinct.1 (same ▸ List.mem_map_of_mem later)
      rw [List.find?_cons_of_neg (by simp [other])]
      exact ih distinct.2 later

theorem entry_of_bindingOf {source : String} {typeOnly : Bool} {entry : Node} {b : Binding}
    (declared : Imports.bindingOf source typeOnly entry = some b) :
    b.source = source ∧ (∃ entryTypeOnly, entry.kind = .importSpec b.imported entryTypeOnly) ∧
      ownNames entry.parts = [b.localName] := by
  unfold Imports.bindingOf at declared
  split at declared
  · rename_i imported entryTypeOnly place name outer under ps more
    obtain rfl := Option.some.inj declared
    exact ⟨rfl, ⟨entryTypeOnly, rfl⟩, rfl⟩
  · simp at declared

theorem isHelper_of_isHelperEntry (r : Rewriting) {source : String} {typeOnly : Bool} {entry : Node}
    {b : Binding} (declared : Imports.bindingOf source typeOnly entry = some b)
    (fromLibrary : source = r.library.specifier) (helper : r.isHelperEntry entry = true) :
    r.isHelper b = true := by
  obtain ⟨same, ⟨entryTypeOnly, kind⟩, -⟩ := entry_of_bindingOf declared
  simp only [isHelperEntry, kind] at helper
  split at helper
  · rename_i name _ named
    obtain ⟨imported, -⟩ := Kind.importSpec.inj named
    simp [isHelper, same, fromLibrary, imported, (Bool.and_eq_true_iff.1 helper).2]
  · simp at helper

-- An import that declares a name in use stays.
theorem isDead_of_used (r : Rewriting) {uses : List String} {item : Node} {b : Binding}
    (found : r.imports.find? b.localName = some b) (binds : b ∈ Imports.bindingsOf item)
    (used : b.localName ∈ uses) : r.isDead uses item = false := by
  unfold Imports.bindingsOf at binds
  split at binds
  · rename_i source typeOnly span entries
    obtain ⟨entry, member, declared⟩ := List.mem_filterMap.1 binds
    obtain ⟨-, ⟨entryTypeOnly, kind⟩, named⟩ := entry_of_bindingOf declared
    have listed : entry ∈ importEntries (.mk (.importDecl source typeOnly) span entries) := by
      apply List.mem_filter.2
      exact ⟨member, by rw [kind]⟩
    have someUsed : ((importEntries (.mk (.importDecl source typeOnly) span entries)).flatMap
        fun e => ownNames e.parts).all (fun s => !uses.contains s) = false := by
      apply List.all_eq_false.2
      refine ⟨b.localName, List.mem_flatMap.2 ⟨entry, listed, by simp [named]⟩, ?_⟩
      simpa using used
    simp only [isDead, Node.kind_mk, someUsed]
    by_cases gone : (uses.any fun s => (r.imports.find? s).any r.isHelper) = false
    · -- No helper is in use, so what the entry brings is no helper.
      have other : ¬ r.isHelper b = true := by
        simpa [found] using List.any_eq_false.1 gone _ used
      by_cases fromLibrary : source = r.library.specifier
      · have mixed : (importEntries (.mk (.importDecl source typeOnly) span entries)).all
            r.isHelperEntry = false := by
          apply List.all_eq_false.2
          exact ⟨entry, listed, mt (r.isHelper_of_isHelperEntry declared fromLibrary) other⟩
        simp [mixed]
      · simp [fromLibrary]
    · simp [gone]
  · simp at binds

theorem bindings_of_distinct {m : Module}
    (distinct : ((m.items.flatMap Imports.bindingsOf).map Binding.localName).Nodup) :
    m.imports.bindings = m.items.flatMap Imports.bindingsOf := by
  have empty : Imports.empty.bindings = [] := rfl
  have kept : m.imports.bindings = Imports.empty.bindings ++ m.items.flatMap Imports.bindingsOf :=
    foldl_insert (by rwa [empty, List.nil_append])
  rwa [empty, List.nil_append] at kept

-- Names that are declared but once are found where they are declared.
theorem find?_import {m : Module}
    (distinct : ((m.items.flatMap Imports.bindingsOf).map Binding.localName).Nodup) {item : Node}
    {b : Binding} (member : item ∈ m.items) (binds : b ∈ Imports.bindingsOf item) :
    m.imports.find? b.localName = some b := by
  rw [Imports.find?, bindings_of_distinct distinct]
  exact find?_of_distinct distinct (List.mem_flatMap.2 ⟨item, member, binds⟩)

/-! ### Edits beside an import -/

theorem itemEdits_import (r : Rewriting) {item : Node} (kind : isImport item.kind = true)
    (stays : r.isExcised item = false) : r.itemEdits item = [] := by
  have silent := (r.edits_perm item).symm
  rw [edits_eq_nil kind] at silent
  rw [itemEdits, stays, List.perm_nil.1 silent]
  rfl

-- The edits of an item that mentions a name are all made: it is no import.
theorem itemEdits_of_mentions (r : Rewriting) {item q : Node} {s : String}
    (h : q ∈ mentions s item) : r.itemEdits item = r.ordered item := by
  have stays : ¬ r.isExcised item = true := by
    intro gone
    obtain ⟨k, span, ps⟩ := item
    simp only [isExcised, Bool.and_eq_true] at gone
    have goes := isImport_of_isDead gone.2
    rw [Node.kind_mk, (mem_mentions.1 h).1] at goes
    simp at goes
  rw [itemEdits, if_neg stays]

-- The edits of one item do not reach into another one.
theorem itemEdits_beside (r : Rewriting) {lo : Nat} {items : List Node} {item : Node}
    (placed : ItemsPlaced r.module.text lo r.module.size items) (member : item ∈ items) :
    ∀ e ∈ items.flatMap r.itemEdits,
      e ∈ r.itemEdits item ∨ e.stop ≤ item.front ∨ item.stop ≤ e.start := by
  induction items generalizing lo with
  | nil => simp at member
  | cons a items ih =>
    intro e edit
    obtain ⟨-, here, below, rest⟩ := placed.placed
    rw [List.flatMap_cons, List.mem_append] at edit
    rcases List.mem_cons.1 member with rfl | later
    · rcases edit with own | other
      · exact Or.inl own
      · exact Or.inr (Or.inr ((r.itemEdits_row below placed.tail).row.bounds e other).1)
    · rcases edit with own | other
      · refine Or.inr (Or.inl ?_)
        rw [itemEdits] at own
        split at own
        · obtain rfl := List.mem_singleton.1 own
          exact ((importRange_before_rest placed).placed.bounds item later).1
        · have bounds := (r.ordered_row a here).row.bounds e own
          exact Nat.le_trans bounds.2.2 (rest.bounds item later).1
      · exact ih placed.tail later e other

-- The text of an item without edits stays as it is.
theorem itemEdits_apart (r : Rewriting) {lo : Nat} {items : List Node} {item : Node}
    (placed : ItemsPlaced r.module.text lo r.module.size items) (member : item ∈ items)
    (stays : r.itemEdits item = []) :
    ∀ e ∈ items.flatMap r.itemEdits, e.stop ≤ item.start ∨ item.stop ≤ e.start := by
  intro e edit
  rcases r.itemEdits_beside placed member e edit with own | before | behind
  · simp [stays] at own
  · exact Or.inl (Nat.le_trans before item.front_le_start)
  · exact Or.inr behind

-- A name that is mentioned in text that is left is in use.
theorem mem_allUses {m : Module} (placed : m.WellPlaced) {o : Options} {passes : Passes}
    {own : FunctionMap} {imported : ImportedFunctions} {s : String} {q : Node}
    (mention : q ∈ partMentions s m.items)
    (left : ∀ e ∈ (ofModule m o passes own imported).allEdits, ¬ e.Covers q) :
    s ∈ (ofModule m o passes own imported).allUses := by
  generalize rewriting : ofModule m o passes own imported = r at left ⊢
  have module : r.module = m := by rw [← rewriting]; rfl
  obtain ⟨item, here, inside⟩ := mem_partMentions.1 mention
  have single : ∀ c ∈ item.all, ∀ id, r.plan c = .stub id → c.args.length = 1 := by
    intro c found id stub
    exact single_of_stub placed (mem_allNodes.2 ⟨item, here, found⟩) (rewriting ▸ stub)
  rcases r.used_or_covered (placed.placed.placed item here) single inside with used | covered
  · rw [allUses, module]
    exact r.mem_partUses here rfl used
  · obtain ⟨e, edit, covers⟩ := covered
    have listed : e ∈ r.inOrder := by
      apply List.mem_flatMap.2
      exact ⟨item, module ▸ here, by rwa [r.itemEdits_of_mentions inside]⟩
    exact absurd covers (left e (r.allEdits_perm.mem_iff.2 listed))

end Rewriting

/-! ### No import is missed -/

/-- An import that declares a name stays, untouched by any edit, if a mention of the name is left
in the text. -/
theorem import_of_mention_stays {path : Path} {text : List Char} {m : Module}
    (parsed : Module.parse path text = .ok m) (unmarked : text.head? ≠ some byteOrderMark)
    (distinct : ((m.items.flatMap Imports.bindingsOf).map Binding.localName).Nodup)
    (o : Options) (passes : Passes) (own : FunctionMap) (imported : ImportedFunctions)
    {item q : Node} {b : Binding} (member : item ∈ m.items) (binds : b ∈ Imports.bindingsOf item)
    (mention : q ∈ Rewriting.partMentions b.localName m.items)
    (left : ∀ e ∈ (Rewriting.ofModule m o passes own imported).allEdits, ¬ e.Covers q) :
    ∀ e ∈ (Rewriting.ofModule m o passes own imported).allEdits,
      e.stop ≤ item.start ∨ item.stop ≤ e.start := by
  have placed := Module.wellPlaced_of_parse parsed unmarked
  have used := Rewriting.mem_allUses placed mention left
  have found := Rewriting.find?_import distinct member binds
  have kind : isImport item.kind = true := by
    unfold Imports.bindingsOf at binds
    split at binds
    · rfl
    · simp at binds
  have stays : (Rewriting.ofModule m o passes own imported).isExcised item = false := by
    have alive := (Rewriting.ofModule m o passes own imported).isDead_of_used found binds used
    simp [Rewriting.isExcised, alive]
  have untouched := Rewriting.itemEdits_import _ kind stays
  intro e edit
  have row : ItemsPlaced (Rewriting.ofModule m o passes own imported).module.text 0 m.size m.items :=
    placed
  exact Rewriting.itemEdits_apart _ row member untouched e
    ((Rewriting.allEdits_perm _).mem_iff.1 edit)

/-- A helper that is put inline and another one that is passed on. -/
def Sample.passedOn : Source :=
  .of path "import \x7b func, handle \x7d from \"serverfn\"\nexport const f = func(() => 1)\nh(handle)".toList
    (by decide +kernel)

theorem import_of_mention_stays_handle :
    let m := Sample.passedOn.module
    let r := Rewriting.ofModule m .standard ⟨false, false, true, true⟩ .empty .empty
    ∃ item ∈ m.items, ∃ b ∈ Imports.bindingsOf item, ∃ q ∈ Rewriting.partMentions b.localName m.items,
      (∀ e ∈ r.allEdits, ¬ e.Covers q) ∧ 0 < r.allEdits.length ∧
        ∀ e ∈ r.allEdits, e.stop ≤ item.start ∨ item.stop ≤ e.start := by
  intro m r
  obtain ⟨distinct, item, member, b, binds, q, mention, left, changed⟩ :
      ((m.items.flatMap Imports.bindingsOf).map Binding.localName).Nodup ∧
        ∃ item ∈ m.items, ∃ b ∈ Imports.bindingsOf item,
          ∃ q ∈ Rewriting.partMentions b.localName m.items,
            (∀ e ∈ r.allEdits, ¬ e.Covers q) ∧ 0 < r.allEdits.length := by
    decide +kernel
  exact ⟨item, member, b, binds, q, mention, left, changed,
    import_of_mention_stays Sample.passedOn.parsed Sample.passedOn.unmarked distinct .standard
      ⟨false, false, true, true⟩ .empty .empty member binds mention left⟩

end ServerLink
