import ServerLink.Proofs.Bodies

/-!
What a client gets of two modules that agree outside the bodies of their own server functions: the
same code.
-/

set_option autoImplicit false

namespace ServerLink

open Script Text

namespace AgreeOutside

variable {ss : List Stretch} {o : Options} {own : FunctionMap} {m m' : Module}

theorem items_match (same : AgreeOutside ss o own m m') :
    List.Forall₂ (Node.Matches ss) (m.items.map (hollowItem m.imports o.library own))
      (m'.items.map (hollowItem m'.imports o.library own)) := same.items.forall₂

-- Both import the same.
theorem imports (same : AgreeOutside ss o own m m') : m.imports.unplaced = m'.imports.unplaced := by
  have whole (m : Module) : Imports.ofItems (m.items.map (hollowItem m.imports o.library own)) =
      m.imports := by
    simp only [Imports.ofItems, Module.imports, List.flatMap_map, bindingsOf_hollowItem]
  have items := Imports.matches_ofItems same.items_match
  rwa [whole, whole] at items

theorem topVariables_match {m n : Node} (h : m.Matches ss n) :
    List.Forall₂ (Node.Matches ss) (Rewriting.topVariables m) (Rewriting.topVariables n) := by
  obtain ⟨k, span, ps⟩ := m
  obtain ⟨k', span', qs⟩ := n
  obtain rfl : k = k' := h.kind_eq
  have parts : List.Forall₂ (Node.Matches ss) ps qs := h.parts
  cases k with
  | «variables» hoisted => exact parts
  | exportDecl =>
    cases parts with
    | nil => exact .nil
    | @cons p q ps qs first rest =>
      obtain ⟨k₁, span₁, ds⟩ := p
      obtain ⟨k₂, span₂, es⟩ := q
      obtain rfl : k₁ = k₂ := first.kind_eq
      cases k₁ with
      | «variables» hoisted => exact first.parts
      | _ => exact .nil
  | _ => exact .nil

-- Calls that become stubs do so in both modules.
theorem stubOf?_match {is is' : Imports} (library : LibraryNames) (own : FunctionMap) {m n : Node}
    (h : m.Matches ss n) (imports : is.unplaced = is'.unplaced) :
    Option.Rel (fun a b => Counterpart ss a.1 b.1 ∧ a.2 = b.2)
      (Rewriting.stubOf? is library own m) (Rewriting.stubOf? is' library own n) := by
  have isCallOf (p q : Node) (same : p.Matches ss q) :
      is.isCallOf library.specifier library.marker p =
        is'.isCallOf library.specifier library.marker q := by
    obtain ⟨k, span, ps⟩ := p
    obtain ⟨k', span', qs⟩ := q
    obtain rfl : k = k' := same.kind_eq
    have parts : List.Forall₂ (Node.Matches ss) ps qs := same.parts
    cases k with
    | call =>
      cases parts with
      | nil => rfl
      | cons callee rest =>
        simp only [Imports.isCallOf]
        rw [← Imports.export?_unplaced, imports, Imports.export?_unplaced,
          Imports.matches_export? callee]
    | _ => rfl
  obtain ⟨k, span, ps⟩ := m
  obtain ⟨k', span', qs⟩ := n
  obtain rfl : k = k' := h.kind_eq
  have parts : List.Forall₂ (Node.Matches ss) ps qs := h.parts
  cases k with
  | declarator =>
    cases parts with
    | nil => exact .none
    | @cons p q ps qs first rest =>
      obtain ⟨k₁, span₁, ds⟩ := p
      obtain ⟨k₂, span₂, es⟩ := q
      obtain rfl : k₁ = k₂ := first.kind_eq
      cases k₁ with
      | bind name outer =>
        cases rest with
        | nil => exact .none
        | @cons value value' ps qs second rest =>
          simp only [Rewriting.stubOf?, (matches_args second).length_eq, isCallOf _ _ second]
          split
          · cases Rewriting.ownId? own name with
            | none => exact .none
            | some id => exact .some ⟨second.start, rfl⟩
          · exact .none
      | _ => exact .none
  | _ => exact .none

theorem filterMap_topVariables (is : Imports) (library : LibraryNames) (own : FunctionMap)
    (items : List Node) :
    ((items.map (hollowItem is library own)).flatMap Rewriting.topVariables).filterMap
        (Rewriting.stubOf? is library own) =
      (items.flatMap Rewriting.topVariables).filterMap (Rewriting.stubOf? is library own) := by
  induction items with
  | nil => rfl
  | cons item items ih =>
    have kept : Rewriting.stubOf? is library own ∘ hollowDeclarator is library own =
        Rewriting.stubOf? is library own := funext stubOf?_hollowDeclarator
    simp only [List.map_cons, List.flatMap_cons, List.filterMap_append, ih, topVariables_hollowItem,
      List.filterMap_map, kept]

-- The same calls become stubs, each at the counterpart of the other.
theorem stubsOf_match (same : AgreeOutside ss o own m m') :
    List.Forall₂ (fun a b => Counterpart ss a.1 b.1 ∧ a.2 = b.2)
      (Rewriting.stubsOf m o.library own) (Rewriting.stubsOf m' o.library own) := by
  simp only [Rewriting.stubsOf, ← filterMap_topVariables _ o.library own m.items,
    ← filterMap_topVariables _ o.library own m'.items]
  have items := same.items_match
  generalize m.items.map _ = ps at items
  generalize m'.items.map _ = qs at items
  have tops : List.Forall₂ (Node.Matches ss) (ps.flatMap Rewriting.topVariables)
      (qs.flatMap Rewriting.topVariables) := by
    induction items with
    | nil => exact .nil
    | cons first rest ih => exact List.rel_append (topVariables_match first) ih
  generalize ps.flatMap Rewriting.topVariables = xs at tops
  generalize qs.flatMap Rewriting.topVariables = ys at tops
  induction tops with
  | nil => exact .nil
  | @cons p q ps qs first rest ih =>
    have stub := stubOf?_match o.library own first same.imports
    simp only [List.filterMap_cons]
    generalize Rewriting.stubOf? m.imports o.library own p = a at stub
    generalize Rewriting.stubOf? m'.imports o.library own q = b at stub
    cases stub with
    | none => exact ih
    | some both => exact .cons both ih

-- Both modules are rewritten alike.
theorem rewriting (same : AgreeOutside ss o own m m') (passes : Passes)
    (imported : ImportedFunctions) :
    Rewriting.Alike ss (Rewriting.ofModule m o passes own imported)
      (Rewriting.ofModule m' o passes own imported) where
  library := rfl
  globals := rfl
  passes := rfl
  imported := rfl
  imports := same.imports
  stubs := by
    simp only [Rewriting.ofModule]
    split
    · exact same.stubsOf_match
    · exact .nil

theorem pairs_match (same : AgreeOutside ss o own m m') :
    List.Forall₂ (fun i i' => (hollowItem m.imports o.library own i).Matches ss
      (hollowItem m'.imports o.library own i')) m.items m'.items :=
  List.forall₂_map_right_iff.1 (List.forall₂_map_left_iff.1 same.items_match)

-- The same names are mentioned in what stands of both modules.
theorem allUses (same : AgreeOutside ss o own m m') (imported : ImportedFunctions) :
    (Rewriting.ofModule m o (o.passes .client !own.isEmpty) own imported).allUses =
      (Rewriting.ofModule m' o (o.passes .client !own.isEmpty) own imported).allUses := by
  have alike := same.rewriting (o.passes .client !own.isEmpty) imported
  have mentions (n : Module) (items : List Node) (inside : ∀ i ∈ items, i ∈ n.items) :
      (Rewriting.ofModule n o (o.passes .client !own.isEmpty) own imported).partUses (fun _ => true)
          (items.map (hollowItem n.imports o.library own)) =
        (Rewriting.ofModule n o (o.passes .client !own.isEmpty) own imported).partUses
          (fun _ => true) items := by
    induction items with
    | nil => rfl
    | cons item items ih =>
      have stubs := Rewriting.hollowItem_stubs _ fun d top =>
        Rewriting.hasStub_of_client o own imported
          (inside item (by simp)) top
      simp only [List.map_cons, Rewriting.partUses, stubs.2,
        ih fun i member => inside i (List.mem_cons_of_mem _ member)]
  have left := mentions m m.items fun _ member => member
  have right := mentions m' m'.items fun _ member => member
  simp only [Rewriting.allUses]
  exact left.symm.trans ((alike.partUses same.items_match _).trans right)

theorem isExcised (same : AgreeOutside ss o own m m') (imported : ImportedFunctions) {i i' : Node}
    (h : (hollowItem m.imports o.library own i).Matches ss
      (hollowItem m'.imports o.library own i')) :
    (Rewriting.ofModule m o (o.passes .client !own.isEmpty) own imported).isExcised i =
      (Rewriting.ofModule m' o (o.passes .client !own.isEmpty) own imported).isExcised i' := by
  have alike := same.rewriting (o.passes .client !own.isEmpty) imported
  have hollow (r : Rewriting) (is : Imports) (uses : List String) (item : Node) :
      r.isDead uses (hollowItem is o.library own item) = r.isDead uses item := by
    unfold hollowItem
    split <;> rfl
  have dead := alike.isDead h
  simp only [hollow] at dead
  simp only [Rewriting.isExcised, alike.isNeeded, alike.passes, alike.stubs_isEmpty,
    same.allUses imported, dead]

theorem hollowItem_of_import {is : Imports} {library : LibraryNames} {item : Node}
    (h : isImport item.kind = true) : hollowItem is library own item = item := by
  unfold hollowItem
  split
  · simp [isImport] at h
  · simp [isImport] at h
  · rfl

-- The edits of an item are the same in both modules, at counterparts.
theorem itemEdits (same : AgreeOutside ss o own m m') (placed : m.WellPlaced)
    (placed' : m'.WellPlaced) (imported : ImportedFunctions) {i i' : Node} (here : i ∈ m.items)
    (here' : i' ∈ m'.items)
    (h : (hollowItem m.imports o.library own i).Matches ss
      (hollowItem m'.imports o.library own i')) :
    List.Forall₂ (Edit.Alike ss)
      ((Rewriting.ofModule m o (o.passes .client !own.isEmpty) own imported).itemEdits i)
      ((Rewriting.ofModule m' o (o.passes .client !own.isEmpty) own imported).itemEdits i') := by
  have alike := same.rewriting (o.passes .client !own.isEmpty) imported
  have excised := same.isExcised imported h
  simp only [Rewriting.itemEdits, excised]
  split
  · rename_i gone'
    have gone := excised.trans gone'
    have import' := Rewriting.isImport_of_isDead (Bool.and_eq_true_iff.1 gone').2
    have import₀ := Rewriting.isImport_of_isDead (Bool.and_eq_true_iff.1 gone).2
    rw [hollowItem_of_import import', hollowItem_of_import import₀] at h
    have clear := Rewriting.bodies_clear placed BodyAt.left_solid same.leftBodies here gone
    have clear' := Rewriting.bodies_clear placed' BodyAt.right_solid same.rightBodies here' gone'
    rw [same.left] at clear
    rw [same.right] at clear'
    have stop := Rewriting.importRange_counterpart h.stop clear clear'
    rw [← same.left, ← same.right] at stop
    exact .cons ⟨h.start, stop, rfl⟩ .nil
  · have left := Rewriting.hollowItem_stubs _ fun d top =>
      Rewriting.hasStub_of_client o own imported here top
    have right := Rewriting.hollowItem_stubs _ fun d top =>
      Rewriting.hasStub_of_client o own imported here' top
    rw [← left.1, ← right.1]
    exact alike.ordered h

-- The edits of both modules are the same at counterparts.
theorem inOrder (same : AgreeOutside ss o own m m') (placed : m.WellPlaced)
    (placed' : m'.WellPlaced) (imported : ImportedFunctions) :
    List.Forall₂ (Edit.Alike ss)
      (Rewriting.ofModule m o (o.passes .client !own.isEmpty) own imported).inOrder
      (Rewriting.ofModule m' o (o.passes .client !own.isEmpty) own imported).inOrder := by
  have pairs := same.pairs_match
  have each (items items' : List Node) (inside : ∀ i ∈ items, i ∈ m.items)
      (inside' : ∀ i ∈ items', i ∈ m'.items)
      (pairs : List.Forall₂ (fun i i' => (hollowItem m.imports o.library own i).Matches ss
        (hollowItem m'.imports o.library own i')) items items') :
      List.Forall₂ (Edit.Alike ss)
        (items.flatMap (Rewriting.ofModule m o (o.passes .client !own.isEmpty) own imported).itemEdits)
        (items'.flatMap
          (Rewriting.ofModule m' o (o.passes .client !own.isEmpty) own imported).itemEdits) := by
    induction pairs with
    | nil => exact .nil
    | cons first rest ih =>
      exact List.rel_append
        (same.itemEdits placed placed' imported (inside _ (by simp)) (inside' _ (by simp)) first)
        (ih (fun i member => inside i (List.mem_cons_of_mem _ member))
          fun i member => inside' i (List.mem_cons_of_mem _ member))
  exact each m.items m'.items (fun _ member => member) (fun _ member => member) pairs

theorem importedFunctions (same : AgreeOutside ss o own m m') (t : FileTree) (r : Registry) :
    ServerLink.importedFunctions t r o.extensions m.path m.imports own =
      ServerLink.importedFunctions t r o.extensions m'.path m'.imports own := by
  have found (p : Path) (is : Imports) := ofImports_unplaced is (fun source =>
    ((t.resolve? p source o.extensions).filter fun q => !q.same p).bind r.get?) own
  simp only [ServerLink.importedFunctions]
  rw [found, found m'.path m'.imports, same.path, same.imports]

-- What both modules become when their edits are carried out.
theorem applied (same : AgreeOutside ss o own m m') (placed : m.WellPlaced)
    (placed' : m'.WellPlaced) (imported : ImportedFunctions) (name name' : Option String) :
    (applyEdits m.text
        (Rewriting.ofModule m o (o.passes .client !own.isEmpty) own imported).allEdits name).map
        (fun a => (a.output?.map Output.code, a.code m.text)) =
      (applyEdits m'.text
        (Rewriting.ofModule m' o (o.passes .client !own.isEmpty) own imported).allEdits name').map
        (fun a => (a.output?.map Output.code, a.code m'.text)) := by
  generalize left : Rewriting.ofModule m o (o.passes .client !own.isEmpty) own imported = r
  generalize right : Rewriting.ofModule m' o (o.passes .client !own.isEmpty) own imported = r'
  have module : r.module = m := by rw [← left]; rfl
  have module' : r'.module = m' := by rw [← right]; rfl
  have row := r.inOrder_row (module ▸ placed)
  have row' := r'.inOrder_row (module' ▸ placed')
  have alike : List.Forall₂ (Edit.Alike ss) r.inOrder r'.inOrder := by
    rw [← left, ← right]
    exact same.inOrder placed placed' imported
  rw [module] at row
  rw [module'] at row'
  obtain ⟨a, carried, code, still⟩ :=
    applyEdits_of_row name row.row.ascending row.fits r.allEdits_perm
  obtain ⟨a', carried', code', still'⟩ :=
    applyEdits_of_row name' row'.row.ascending row'.fits r'.allEdits_perm
  have spliced : splice m.text 0 (byteLength m.text) r.inOrder =
      splice m'.text 0 (byteLength m'.text) r'.inOrder := by
    rw [same.left, same.right]
    refine splice_eq_of_alike alike (.zero ss) (.size ss) ?_ ?_
    · rw [← same.left]
      exact row.row
    · intro start stop body
      obtain ⟨f, literal, first, last⟩ := same.leftBodies start stop body
      obtain ⟨id, stub⟩ := Rewriting.stub_mem_inOrder imported literal
      rw [left] at stub
      have width := BodyAt.left_solid start stop body
      exact Or.inr (Or.inr ⟨_, stub, first, by simp only; omega⟩)
  have idle : r.allEdits = [] ↔ r'.allEdits = [] := by
    have empty {r : Rewriting} : r.allEdits = [] ↔ r.inOrder = [] :=
      ⟨fun none => List.nil_perm.1 (none ▸ r.allEdits_perm),
        fun none => List.perm_nil.1 (none ▸ r.allEdits_perm)⟩
    rw [empty, empty, ← List.length_eq_zero_iff, ← List.length_eq_zero_iff, alike.length_eq]
  have codes : a.code m.text = a'.code m'.text := by rw [code, code', spliced]
  rw [carried, carried']
  cases a with
  | unchanged =>
    obtain rfl : a' = .unchanged := still'.2 (idle.1 (still.1 rfl))
    simp only [Except.map, codes]
  | changed out =>
    cases a' with
    | unchanged => exact absurd (still.2 (idle.2 (still'.1 rfl))) (by simp)
    | changed out' =>
      simp only [Applied.code] at codes
      simp only [Except.map, Applied.output?, Option.map_some, Applied.code, codes]

end AgreeOutside

theorem transformModule_client {o : Options} (marker : o.detection = .marker) (t : FileTree)
    (r : Registry) {m : Module} {own : FunctionMap} (scanned : ownFunctions o r m = .ok own) :
    transformModule o t r .client m =
      applyEdits m.text (Rewriting.ofModule m o (o.passes .client !own.isEmpty) own
        (importedFunctions t r o.extensions m.path m.imports own)).allEdits
        (if o.sourceMaps then some m.mapName else none) := by
  have sites : (o.passes .client !own.isEmpty).callSites = true := rfl
  have registers : (o.passes .client !own.isEmpty).registration = false := rfl
  have edits : moduleEdits o t r .client m own =
      (Rewriting.ofModule m o (o.passes .client !own.isEmpty) own
        (importedFunctions t r o.extensions m.path m.imports own)).allEdits := by
    simp [moduleEdits, marker, sites, registers]
  rw [transformModule, scanned, ← edits]
  rfl

theorem ownFunctions_of_scan {o : Options} (marker : o.detection = .marker) {r : Registry}
    {m : Module} {own : FunctionMap} (scanned : (Discovery.mk o none).scan m r.root = own)
    (recorded : r.get? m.path = none ∨ r.get? m.path = some own) :
    ownFunctions o r m = .ok own := by
  have discovery : Discovery.ofOptions o = .ok ⟨o, none⟩ := by
    simp [Discovery.ofOptions, marker]
  rcases recorded with absent | present
  · simp [ownFunctions, absent, discovery, Except.map, scanned]
  · simp [ownFunctions, present]

/-- Modules that agree outside the bodies of their own server functions, and of which a search finds
the same functions, are the same to a client. -/
theorem AgreeOutside.transformModule_eq {o : Options} (marker : o.detection = .marker)
    (t : FileTree) (r : Registry) {own : FunctionMap} {ss : List Stretch} {m m' : Module}
    (placed : m.WellPlaced) (placed' : m'.WellPlaced) (same : AgreeOutside ss o own m m')
    (scanned : (Discovery.mk o none).scan m r.root = own)
    (scanned' : (Discovery.mk o none).scan m' r.root = own)
    (recorded : r.get? m.path = none ∨ r.get? m.path = some own) :
    (transformModule o t r .client m).map (fun a => (a.output?.map Output.code, a.code m.text)) =
      (transformModule o t r .client m').map
        (fun a => (a.output?.map Output.code, a.code m'.text)) := by
  have own₁ := ownFunctions_of_scan marker scanned recorded
  have own₂ := ownFunctions_of_scan marker scanned' (same.path ▸ recorded)
  rw [transformModule_client marker t r own₁, transformModule_client marker t r own₂,
    ← same.importedFunctions t r]
  exact same.applied placed placed' _ _ _

end ServerLink
