import ServerLink.Proofs.CallSites
import ServerLink.Proofs.LeadingMark

/-!
Imports that go. Whatever counts as a use of a name is mentioned in text that no edit touches, so that
an import which is left is mentioned in text that is left.
-/

set_option autoImplicit false

namespace ServerLink

open Script Text

/-- The edit leaves the text of the tree itself: it stands outside the tree, or in one of its parts. -/
def Edit.Spares (e : Edit) (n : Node) : Prop :=
  e.stop ≤ n.start ∨ n.stop ≤ e.start ∨ ∃ p ∈ n.parts, p.front ≤ e.start ∧ e.stop ≤ p.stop

instance (e : Edit) (n : Node) : Decidable (e.Spares n) :=
  inferInstanceAs (Decidable (_ ∨ _ ∨ _))

namespace Rewriting

variable {r : Rewriting} {text : List Char} {s : String}

/-! ### What edits of a call leave -/

section Calls

variable {call callee args q : Node} {types : Option Node}

theorem mem_allNodes_of_mentions (given : args.kind = .arguments) (h : q ∈ mentions s args) :
    q ∈ allNodes args.parts := by
  obtain ⟨k, span, ps⟩ := args
  obtain rfl : k = .arguments := given
  obtain ⟨-, ⟨named, -⟩ | ⟨p, member, inside⟩⟩ := mem_mentions.1 h
  · simp [mentioned?] at named
  · exact mem_allNodes.2 ⟨p, member, mem_all_of_mentions inside⟩

theorem dispatchEdits_beside (shape : call.CallPlaced text callee types args) (id : String)
    (inside : q ∈ allNodes args.parts) :
    ∀ e ∈ r.dispatchEdits call id, e.stop ≤ q.start ∨ q.stop ≤ e.start := by
  intro e edit
  cases atHead : args.parts.head? with
  | none =>
    rw [List.head?_eq_none_iff.1 atHead] at inside
    simp [allNodes] at inside
  | some first =>
    obtain ⟨last, atEnd, between, -⟩ := argument_range shape atHead
    have extent := between.extent inside
    simp only [dispatchEdits, shape.arguments, atHead, atEnd, List.mem_cons, List.not_mem_nil,
      or_false] at edit
    cases edit with
    | inl opening => exact Or.inl (opening ▸ extent.1)
    | inr closing => exact Or.inr (closing ▸ extent.2)

theorem stubEdits_beside (shape : call.CallPlaced text callee types args) (id : String) {p : Node}
    (head : p ∈ callee :: types.toList) (inside : q ∈ p.all) :
    ∀ e ∈ r.stubEdits call id, q.stop ≤ e.start := by
  intro e edit
  have bounds := shape.head.bounds p head
  have extent := (shape.head.placed p head).extent inside
  have behind := shape.behind
  cases atHead : args.parts.head? with
  | none => simp [stubEdits, shape.arguments, atHead] at edit
  | some a =>
    have low := (argument_placed shape (List.mem_of_head? atHead)).2.1
    obtain rfl : e = ⟨a.argValue.start, a.argValue.stop, r.globals.stub id⟩ := by
      simpa [stubEdits, shape.arguments, atHead] using edit
    show q.stop ≤ a.argValue.start
    omega

-- What is mentioned in the parts of a call that stand is left by the call's own edits.
theorem ownEdits_beside (shape : call.CallPlaced text callee types args) (plan : CallPlan)
    {p : Node} (part : p ∈ call.parts) (stands : r.survives plan p.kind = true)
    (h : q ∈ mentions s p) :
    ∀ e ∈ r.ownEdits call plan, e.stop ≤ q.start ∨ q.stop ≤ e.start := by
  intro e edit
  cases plan with
  | keep => simp [ownEdits] at edit
  | stub id =>
    obtain ⟨development, other⟩ : r.passes.inlineHelpers = false ∧ p.kind ≠ .arguments := by
      simpa [survives] using stands
    have head : p ∈ callee :: types.toList := by
      rw [shape.parts, ← List.cons_append] at part
      cases List.mem_append.1 part with
      | inl head => exact head
      | inr last =>
        obtain rfl := List.mem_singleton.1 last
        exact absurd shape.given other
    have own : e ∈ r.stubEdits call id := by simpa [ownEdits, development] using edit
    exact Or.inr (stubEdits_beside shape id head (mem_all_of_mentions h) e own)
  | dispatch id =>
    have given : p.kind = .arguments := eq_of_beq stands
    obtain rfl := eq_of_arguments shape part given
    exact dispatchEdits_beside shape id (mem_allNodes_of_mentions given h) e edit
  | inlined code =>
    have given : p.kind = .arguments := eq_of_beq stands
    obtain rfl := eq_of_arguments shape part given
    have extent := shape.list.extent (mem_allNodes_of_mentions given h)
    have behind := shape.behind
    obtain rfl := List.mem_singleton.1 edit
    rw [calleeEdit_eq shape]
    apply Or.inl
    show (types.getD callee).stop ≤ q.start
    omega

end Calls

/-! ### Uses and what is left -/

theorem exists_of_partUses {stands : Kind → Bool} {ps : List Node} (used : s ∈ r.partUses stands ps) :
    ∃ p ∈ ps, stands p.kind = true ∧ s ∈ r.uses p := by
  induction ps with
  | nil => simp [partUses] at used
  | cons p ps ih =>
    rw [partUses, List.mem_append] at used
    cases used with
    | inl here =>
      by_cases stays : stands p.kind = true
      next => exact ⟨p, by simp, stays, by simpa [stays] using here⟩
      next => simp [stays] at here
    | inr later =>
      obtain ⟨q, member, stays, used⟩ := ih later
      exact ⟨q, List.mem_cons_of_mem _ member, stays, used⟩

-- A name that is in use is mentioned in text that no edit touches.
theorem spared_of_uses {n : Node} (placed : n.Placed text) (used : s ∈ r.uses n) :
    ∃ q ∈ mentions s n, ∀ e ∈ r.ordered n, e.Spares q := by
  induction n using Node.induct with
  | step k span ps ih =>
    by_cases import_ : isImport k = true
    next => simp [uses, import_] at used
    next =>
      have stays : isImport k = false := by simpa using import_
      rw [uses, if_neg import_, List.mem_append] at used
      cases used with
      | inl own =>
        have named : mentioned? k = some s := by simpa using own
        refine ⟨.mk k span ps, mem_mentions.2 ⟨stays, Or.inl ⟨named, rfl⟩⟩, fun e edit => ?_⟩
        -- a name has no edits but those of its parts
        have plain : k ≠ .call := by
          rintro rfl
          simp [mentioned?] at named
        rw [ordered, if_neg import_, r.plan_eq_keep plain] at edit
        obtain ⟨p, member, inside⟩ := mem_of_orderedParts (by simpa [leadEdits, trailEdits] using edit)
        have bounds := (r.ordered_row p (placed.parts.placed p member)).row.bounds e inside
        exact Or.inr (Or.inr ⟨p, member, bounds.1, bounds.2.2⟩)
      | inr below =>
        obtain ⟨p, member, stands, used⟩ := exists_of_partUses below
        have standing := placed.parts.placed p member
        obtain ⟨q, inside, left⟩ := ih p member standing used
        refine ⟨q, mem_mentions.2 ⟨stays, Or.inr ⟨p, member, inside⟩⟩, fun e edit => ?_⟩
        have extent := standing.extent (mem_all_of_mentions inside)
        rw [ordered, if_neg import_, List.mem_append, List.mem_append] at edit
        have own (here : e ∈ r.ownEdits (.mk k span ps) (r.plan (.mk k span ps))) : e.Spares q := by
          have call : k = .call := Decidable.byContradiction fun plain => by
            simp [r.plan_eq_keep plain, ownEdits] at here
          subst call
          obtain ⟨callee, types, args, shape⟩ := placed.call
          cases ownEdits_beside shape _ member stands inside e here with
          | inl before => exact Or.inl before
          | inr behind => exact Or.inr (Or.inl behind)
        rcases edit with (lead | other) | trail
        · exact own (ownEdits_eq r _ _ ▸ List.mem_append_left _ lead)
        · obtain ⟨p', member', edit'⟩ := mem_of_orderedParts other
          have bounds := (r.ordered_row p' (placed.parts.placed p' member')).row.bounds e edit'
          rcases placed.parts.apart member member' with rfl | before | behind
          · exact left e edit'
          · exact Or.inr (Or.inl (by omega))
          · exact Or.inl (by omega)
        · exact own (ownEdits_eq r _ _ ▸ List.mem_append_right _ trail)

theorem spared_of_allUses (placed : r.module.WellPlaced) (used : s ∈ r.allUses) :
    ∃ q ∈ partMentions s r.module.items, q.stop ≤ r.module.size ∧ ∀ e ∈ r.allEdits, e.Spares q := by
  obtain ⟨item, here, -, below⟩ := exists_of_partUses used
  have standing := placed.placed.placed item here
  obtain ⟨q, inside, left⟩ := spared_of_uses standing below
  have extent := standing.extent (mem_all_of_mentions inside)
  have bounds := placed.placed.bounds item here
  refine ⟨q, mem_partMentions.2 ⟨item, here, inside⟩, by omega, fun e edit => ?_⟩
  have listed := r.allEdits_perm.mem_iff.1 edit
  rcases r.itemEdits_beside placed here e listed with own | before | behind
  · rw [r.itemEdits_of_mentions inside] at own
    exact left e own
  · exact Or.inl (by omega)
  · exact Or.inr (Or.inl (by omega))

/-! ### Imports that are left -/

theorem isExcised_of_left (placed : r.module.WellPlaced) {item : Node} (member : item ∈ r.module.items)
    (left : ∀ e ∈ r.allEdits, ¬ e.Covers item) : r.isExcised item = false := by
  by_contra gone
  have goes : r.isExcised item = true := by simpa using gone
  have standing := placed.placed.placed item member
  have removal : r.importRemoval item ∈ r.inOrder :=
    List.mem_flatMap.2 ⟨item, member, by simp [itemEdits, goes]⟩
  apply left _ (r.allEdits_perm.mem_iff.2 removal)
  exact ⟨Nat.le_refl _, (@importRange_stop r.module.text item standing.cuts_stop).1⟩

variable {item : Node} {source : String} {typeOnly : Bool}

theorem used_of_left (kind : item.kind = .importDecl source typeOnly) (stubs : r.stubs.isEmpty = false)
    (some : importEntries item ≠ []) (stays : r.isExcised item = false) :
    ∃ entry ∈ importEntries item, ∃ s ∈ ownNames entry.parts, s ∈ r.allUses := by
  have alive : r.isDead r.allUses item = false := by
    simpa [isExcised, isNeeded, stubs] using stays
  have filled : (importEntries item).isEmpty = false := by simpa using some
  have used : ((importEntries item).flatMap fun e => ownNames e.parts).all
      (fun s => !r.allUses.contains s) = false := by
    by_contra all
    rw [Bool.not_eq_false] at all
    simp only [isDead, kind, all, stubs, filled, Bool.not_false, Bool.and_true, Bool.or_true,
      Bool.true_eq_false] at alive
  obtain ⟨s, declared, known⟩ := List.all_eq_false.1 used
  obtain ⟨entry, member, names⟩ := List.mem_flatMap.1 declared
  exact ⟨entry, member, s, names, by simpa using known⟩

-- With helpers inline a module keeps an import that brings helpers only for the sake of a helper.
theorem helper_of_left (kind : item.kind = .importDecl r.library.specifier false)
    (inline : r.passes.inlineHelpers = true)
    (known : r.imports.importsFrom r.library.specifier = true) (some : importEntries item ≠ [])
    (helpers : (importEntries item).all r.isHelperEntry = true) (stays : r.isExcised item = false) :
    ∃ b ∈ r.imports.bindings, r.isHelper b = true ∧ b.localName ∈ r.allUses := by
  have alive : r.isDead r.allUses item = false := by
    simpa [isExcised, isNeeded, inline, known] using stays
  have filled : (importEntries item).isEmpty = false := by simpa using some
  by_cases used : r.allUses.any (fun s => (r.imports.find? s).any r.isHelper) = true
  next =>
    obtain ⟨s, inUse, helper⟩ := List.any_eq_true.1 used
    cases found : r.imports.find? s with
    | none => simp [found] at helper
    | some b =>
      have name : b.localName = s := by simpa using List.find?_some found
      exact ⟨b, List.mem_of_find?_eq_some found, by simpa [found] using helper, name ▸ inUse⟩
  next =>
    have gone : (!r.allUses.any fun s => (r.imports.find? s).any r.isHelper) = true := by
      simpa using used
    simp [isDead, kind, inline, gone, helpers, filled] at alive

end Rewriting

/-! ### What becomes of imports -/

theorem Module.binding_of_entry {path : Path} {text : List Char} {m : Module}
    (parsed : Module.parse path text = .ok m) {item entry : Node} {source : String} {typeOnly : Bool}
    (member : item ∈ m.items) (kind : item.kind = .importDecl source typeOnly)
    (listed : entry ∈ Rewriting.importEntries item) :
    ∃ b ∈ Imports.bindingsOf item, b.source = source ∧ ownNames entry.parts = [b.localName] := by
  obtain ⟨part, spec⟩ := List.mem_filter.1 listed
  obtain ⟨imported, entryTypeOnly, entryKind⟩ : ∃ imported entryTypeOnly,
      entry.kind = .importSpec imported entryTypeOnly := by
    split at spec
    · rename_i imported entryTypeOnly known
      exact ⟨imported, entryTypeOnly, known⟩
    · simp at spec
  obtain ⟨b, bound⟩ := (Module.named_of_parse parsed item member).bound source typeOnly kind entry part
    imported entryTypeOnly entryKind
  obtain ⟨from', -, names⟩ := Rewriting.entry_of_bindingOf bound
  refine ⟨b, ?_, from', names⟩
  obtain ⟨k, span, entries⟩ := item
  obtain rfl : k = .importDecl source typeOnly := kind
  exact List.mem_filterMap.2 ⟨entry, part, bound⟩

-- The name is mentioned, outside imports, in text that the edits leave.
def Module.Mentions (m : Module) (edits : List Edit) (s : String) : Prop :=
  ∃ q ∈ Rewriting.partMentions s m.items, ∀ e ∈ edits, e.Spares q

/-- How the module is rewritten, unless it is replaced as a whole. -/
def moduleRewriting (o : Options) (t : FileTree) (r : Registry) (side : Side) (m : Module)
    (own : FunctionMap) : Rewriting :=
  let passes := o.passes side !own.isEmpty
  .ofModule m o passes own
    (if passes.callSites then importedFunctions t r o.extensions m.path m.imports own else .empty)

section Edits

variable {path : Path} {text : List Char} {m : Module} {o : Options} {t : FileTree} {r : Registry}
  {side : Side} {own : FunctionMap}

theorem moduleEdits_of_replaced (whole : o.replaces side own = true) :
    moduleEdits o t r side m own = [⟨0, m.size, own.stubModule o.globals⟩] := by
  simp [moduleEdits_eq, treeEdits, wholeEdits, whole]

-- Edits that do not replace the module as a whole are those of its rewriting, and what is put in at
-- the end.
theorem moduleEdits_of_rewriting (rewritten : o.replaces side own = false) :
    (∀ e ∈ (moduleRewriting o t r side m own).allEdits, e ∈ moduleEdits o t r side m own) ∧
      ∀ e ∈ moduleEdits o t r side m own, e ∈ (moduleRewriting o t r side m own).allEdits ∨
        m.size ≤ e.start := by
  have trees : treeEdits o t r side m own = (moduleRewriting o t r side m own).allEdits := by
    simp only [treeEdits, rewritten, Bool.false_eq_true, if_false]
    rfl
  rw [moduleEdits_eq, trees]
  refine ⟨fun e edit => List.mem_append_left _ edit, fun e edit => ?_⟩
  cases List.mem_append.1 edit with
  | inl tree => exact Or.inl tree
  | inr whole =>
    simp only [wholeEdits, rewritten, Bool.false_eq_true, if_false] at whole
    exact Or.inr (Nat.le_of_eq (registrationEdit_at_end e whole).1.symm)

variable {item : Node} {source : String} {typeOnly : Bool}

theorem covered_of_replaced (placed : m.WellPlaced) (whole : o.replaces side own = true)
    (member : item ∈ m.items) : ¬ ∀ e ∈ moduleEdits o t r side m own, ¬ e.Covers item := by
  intro left
  apply left ⟨0, m.size, own.stubModule o.globals⟩
  · simp [moduleEdits_of_replaced whole]
  · exact ⟨Nat.zero_le _, (placed.placed.bounds item member).2⟩

theorem mentions_of_use (placed : m.WellPlaced) (rewritten : o.replaces side own = false) {s : String}
    (used : s ∈ (moduleRewriting o t r side m own).allUses) :
    m.Mentions (moduleEdits o t r side m own) s := by
  obtain ⟨q, mention, inside, spared⟩ := Rewriting.spared_of_allUses placed used
  refine ⟨q, mention, fun e edit => ?_⟩
  cases (moduleEdits_of_rewriting rewritten).2 e edit with
  | inl tree => exact spared e tree
  | inr behind => exact Or.inr (Or.inl (Nat.le_trans inside behind))

theorem kept_of_left (placed : m.WellPlaced) (rewritten : o.replaces side own = false)
    (member : item ∈ m.items) (left : ∀ e ∈ moduleEdits o t r side m own, ¬ e.Covers item) :
    (moduleRewriting o t r side m own).isExcised item = false :=
  Rewriting.isExcised_of_left placed member fun e edit =>
    left e ((moduleEdits_of_rewriting rewritten).1 e edit)

theorem mentioned_of_left (parsed : Module.parse path text = .ok m) (placed : m.WellPlaced)
    (rewritten : o.replaces side own = false) (member : item ∈ m.items)
    (kind : item.kind = .importDecl source typeOnly)
    (stubs : (moduleRewriting o t r side m own).stubs.isEmpty = false)
    (some : Rewriting.importEntries item ≠ [])
    (left : ∀ e ∈ moduleEdits o t r side m own, ¬ e.Covers item) :
    ∃ b ∈ Imports.bindingsOf item, m.Mentions (moduleEdits o t r side m own) b.localName := by
  have stays := kept_of_left placed rewritten member left
  obtain ⟨entry, inside, s, names, used⟩ := Rewriting.used_of_left kind stubs some stays
  obtain ⟨b, binds, -, only⟩ := Module.binding_of_entry parsed member kind inside
  rw [only] at names
  obtain rfl := List.mem_singleton.1 names
  exact ⟨b, binds, mentions_of_use placed rewritten used⟩

theorem helper_mentioned_of_left (parsed : Module.parse path text = .ok m) (placed : m.WellPlaced)
    (distinct : ((m.items.flatMap Imports.bindingsOf).map Binding.localName).Nodup)
    (rewritten : o.replaces side own = false) (member : item ∈ m.items)
    (kind : item.kind = .importDecl o.library.specifier false) (production : o.production = true)
    (some : Rewriting.importEntries item ≠ [])
    (helpers : (Rewriting.importEntries item).all
      (moduleRewriting o t r side m own).isHelperEntry = true)
    (left : ∀ e ∈ moduleEdits o t r side m own, ¬ e.Covers item) :
    ∃ b ∈ m.imports.bindings, (moduleRewriting o t r side m own).isHelper b = true ∧
      m.Mentions (moduleEdits o t r side m own) b.localName := by
  have stays := kept_of_left placed rewritten member left
  have known : m.imports.importsFrom o.library.specifier = true := by
    obtain ⟨entry, inside⟩ := List.exists_mem_of_ne_nil _ some
    obtain ⟨b, binds, from', -⟩ := Module.binding_of_entry parsed member kind inside
    have bound : b ∈ m.imports.bindings := by
      rw [Rewriting.bindings_of_distinct distinct]
      exact List.mem_flatMap.2 ⟨item, member, binds⟩
    exact List.any_eq_true.2 ⟨b, bound, by simp [from']⟩
  obtain ⟨b, bound, helper, used⟩ :=
    Rewriting.helper_of_left kind production known some helpers stays
  exact ⟨b, bound, helper, mentions_of_use placed rewritten used⟩

theorem bare_untouched (placed : m.WellPlaced) (rewritten : o.replaces side own = false)
    (member : item ∈ m.items) (kind : item.kind = .importDecl source typeOnly)
    (bare : Rewriting.importEntries item = []) :
    ∀ e ∈ moduleEdits o t r side m own, e.stop ≤ item.start ∨ item.stop ≤ e.start := by
  intro e edit
  let made := moduleRewriting o t r side m own
  have stays : made.isExcised item = false := by
    simp [Rewriting.isExcised, Rewriting.isDead, kind, bare]
  have untouched := made.itemEdits_import (by rw [kind]; rfl) stays
  cases (moduleEdits_of_rewriting rewritten).2 e edit with
  | inl tree =>
    exact made.itemEdits_apart placed member untouched e (made.allEdits_perm.mem_iff.1 tree)
  | inr behind => exact Or.inr (Nat.le_trans (placed.placed.bounds item member).2 behind)

end Edits

/-- The imports that are left are in use. When a call became a stub, each import with entries that is
left brings a name which is mentioned in text that is left; in production an import from the library
that brings nothing but helpers is left only if text that is left mentions a helper. Imports without
entries are never touched, unless stubs take the place of the whole module. -/
theorem excised_imports {path : Path} {text : List Char} {m : Module}
    (parsed : Module.parse path text = .ok m) (unmarked : text.head? ≠ some byteOrderMark)
    (distinct : ((m.items.flatMap Imports.bindingsOf).map Binding.localName).Nodup)
    (o : Options) (t : FileTree) (r : Registry) (side : Side) (own : FunctionMap) {item : Node}
    (member : item ∈ m.items) {source : String} {typeOnly : Bool}
    (kind : item.kind = .importDecl source typeOnly) :
    let made := moduleRewriting o t r side m own
    let edits := moduleEdits o t r side m own
    let left := ∀ e ∈ edits, ¬ e.Covers item
    (∀ call ∈ allNodes m.items, ∀ id, made.plan call = .stub id →
      Rewriting.importEntries item ≠ [] → left →
        ∃ b ∈ Imports.bindingsOf item, m.Mentions edits b.localName) ∧
    (o.production = true → source = o.library.specifier → typeOnly = false →
      Rewriting.importEntries item ≠ [] →
      (Rewriting.importEntries item).all made.isHelperEntry = true → left →
        ∃ b ∈ m.imports.bindings, made.isHelper b = true ∧ m.Mentions edits b.localName) ∧
    (Rewriting.importEntries item = [] →
      o.replaces side own = true ∧ edits = [⟨0, m.size, own.stubModule o.globals⟩] ∨
        ∀ e ∈ edits, e.stop ≤ item.start ∨ item.stop ≤ e.start) := by
  have placed : m.WellPlaced := Module.wellPlaced_of_parse parsed unmarked
  intro made edits left
  cases whole : o.replaces side own with
  | true =>
    have nothing : ¬ left := covered_of_replaced placed whole member
    refine ⟨fun _ _ _ _ _ stays => absurd stays nothing,
      fun _ _ _ _ _ stays => absurd stays nothing, fun _ => Or.inl ?_⟩
    exact ⟨rfl, moduleEdits_of_replaced whole⟩
  | false =>
    refine ⟨?_, ?_, ?_⟩
    · intro call _ id stub some stays
      have stubs : made.stubs.isEmpty = false := Rewriting.stubs_of_plan stub
      exact mentioned_of_left parsed placed whole member kind stubs some stays
    · rintro production rfl rfl some helpers stays
      exact helper_mentioned_of_left parsed placed distinct whole member kind production some helpers
        stays
    · intro bare
      exact Or.inr (bare_untouched placed whole member kind bare)

-- One import is only for the body of the function, one for more, and one has no entries.
def Sample.importing : Source :=
  .of path ("import \x7b func \x7d from \"serverfn\"\nimport db from \"db\"\nimport log from \"log\"\n" ++
    "import \"setup\"\nexport const f = func(() => db(log))\nlog(f)").toList
    (by decide +kernel)

/-- The first is taken out, the second is left and mentioned, and the third is not touched. -/
theorem excised_imports_importing :
    let m := Sample.importing.module
    let own := (Discovery.mk .standard none).scan m ⟨"/p"⟩
    let edits := moduleEdits .standard .empty (.empty ⟨"/p"⟩) .client m own
    (∃ item ∈ m.items, item.kind = .importDecl "db" false ∧ ∃ e ∈ edits, e.Covers item) ∧
      (∃ item ∈ m.items, item.kind = .importDecl "log" false ∧ (∀ e ∈ edits, ¬ e.Covers item) ∧
        ∃ b ∈ Imports.bindingsOf item, m.Mentions edits b.localName) ∧
      ∃ item ∈ m.items, item.kind = .importDecl "setup" false ∧
        ∀ e ∈ edits, e.stop ≤ item.start ∨ item.stop ≤ e.start := by
  intro m own edits
  obtain ⟨distinct, ⟨call, inside, stub⟩, gone, ⟨used, member, kind, entries, left⟩,
      bare, member', kind', none⟩ :
      ((m.items.flatMap Imports.bindingsOf).map Binding.localName).Nodup ∧
        (∃ call ∈ allNodes m.items, (moduleRewriting .standard .empty (.empty ⟨"/p"⟩) .client m own).plan
          call = .stub "f@a.ts:5") ∧
        (∃ item ∈ m.items, item.kind = .importDecl "db" false ∧ ∃ e ∈ edits, e.Covers item) ∧
        (∃ item ∈ m.items, item.kind = .importDecl "log" false ∧
          (Rewriting.importEntries item).isEmpty = false ∧ ∀ e ∈ edits, ¬ e.Covers item) ∧
        ∃ item ∈ m.items, item.kind = .importDecl "setup" false ∧
          (Rewriting.importEntries item).isEmpty = true := by
    decide +kernel
  have each {item : Node} (member : item ∈ m.items) {source : String}
      (kind : item.kind = .importDecl source false) := excised_imports Sample.importing.parsed
    Sample.importing.unmarked distinct .standard .empty (.empty ⟨"/p"⟩) .client own member kind
  refine ⟨gone, ⟨used, member, kind, left, ?_⟩, bare, member', kind', ?_⟩
  · exact (each member kind).1 call inside _ stub (by simpa using entries) left
  · cases (each member' kind').2.2 (by simpa using none) with
    | inl whole => simp [Options.replaces, Options.standard] at whole
    | inr untouched => exact untouched

end ServerLink
