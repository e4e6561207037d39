import ServerLink.Proofs.Hollow

/-!
Server bodies and client code. Two modules that agree but for the bodies of their own server
functions are the same module to a client: every body lies in the place of a stub, and nothing
else that a client's code depends on can see it.
-/

set_option autoImplicit false

namespace ServerLink

open Script Text

/-- The function literals of a module's own server functions. -/
def ownLiterals (o : Options) (own : FunctionMap) (m : Module) : List Node :=
  (m.items.flatMap Rewriting.topVariables).filterMap (recordedLiteral? m.imports o.library own)

/-- Modules of one path whose texts agree but for bodies, each of which stands inside a literal of
one of the module's own server functions. -/
structure TextsAgree (ss : List Stretch) (o : Options) (own : FunctionMap) (m m' : Module) :
    Prop where
  path : m.path = m'.path
  left : m.text = leftText ss
  right : m'.text = rightText ss
  leftBodies : ∀ start stop, BodyAt Stretch.left ss start stop →
    ∃ f ∈ ownLiterals o own m, f.start ≤ start ∧ stop ≤ f.stop
  rightBodies : ∀ start stop, BodyAt Stretch.right ss start stop →
    ∃ f ∈ ownLiterals o own m', f.start ≤ start ∧ stop ≤ f.stop

/-- Modules whose trees match too, but for the literals. -/
structure AgreeOutside (ss : List Stretch) (o : Options) (own : FunctionMap) (m m' : Module) :
    Prop extends TextsAgree ss o own m m' where
  items : AllMatch ss (m.items.map (hollowItem m.imports o.library own))
    (m'.items.map (hollowItem m'.imports o.library own))

theorem textsAgree_iff {ss : List Stretch} {o : Options} {own : FunctionMap} {m m' : Module} :
    TextsAgree ss o own m m' ↔ m.path = m'.path ∧ m.text = leftText ss ∧ m'.text = rightText ss ∧
      (∀ range ∈ bodyRanges Stretch.left ss 0,
        ∃ f ∈ ownLiterals o own m, f.start ≤ range.1 ∧ range.2 ≤ f.stop) ∧
      ∀ range ∈ bodyRanges Stretch.right ss 0,
        ∃ f ∈ ownLiterals o own m', f.start ≤ range.1 ∧ range.2 ≤ f.stop := by
  exact ⟨fun h => ⟨h.path, h.left, h.right, forall_body_iff.1 h.leftBodies,
      forall_body_iff.1 h.rightBodies⟩,
    fun ⟨path, left, right, leftBodies, rightBodies⟩ =>
      ⟨path, left, right, forall_body_iff.2 leftBodies, forall_body_iff.2 rightBodies⟩⟩

instance (ss : List Stretch) (o : Options) (own : FunctionMap) (m m' : Module) :
    Decidable (TextsAgree ss o own m m') :=
  decidable_of_iff _ textsAgree_iff.symm

instance (ss : List Stretch) (o : Options) (own : FunctionMap) (m m' : Module) :
    Decidable (AgreeOutside ss o own m m') :=
  decidable_of_iff (TextsAgree ss o own m m' ∧
    AllMatch ss (m.items.map (hollowItem m.imports o.library own))
      (m'.items.map (hollowItem m'.imports o.library own)))
    ⟨fun ⟨texts, items⟩ => ⟨texts, items⟩, fun h => ⟨h.toTextsAgree, h.items⟩⟩

theorem ofImports_unplaced (is : Imports) (functionsOf : String → Option FunctionMap)
    (own : FunctionMap) :
    ImportedFunctions.ofImports is (fun b => functionsOf b.source) own =
      .ofImports is.unplaced (fun b => functionsOf b.source) own := by
  simp only [ImportedFunctions.ofImports, Imports.unplaced, List.flatMap_map]
  rfl

namespace Rewriting

/-! ### Items -/

theorem any_isHelper_unplaced (r : Rewriting) (is : Imports) (name : String) :
    (is.unplaced.find? name).any r.isHelper = (is.find? name).any r.isHelper := by
  rw [Imports.find?_unplaced]
  cases is.find? name <;> rfl

def isImportSpec : Kind → Bool
  | .importSpec _ _ => true
  | _ => false

namespace Alike

variable {ss : List Stretch} {r r' : Rewriting}

theorem stubs_isEmpty (alike : Alike ss r r') : r.stubs.isEmpty = r'.stubs.isEmpty := by
  have stubs := alike.stubs
  generalize r.stubs = ps at stubs
  generalize r'.stubs = qs at stubs
  cases stubs <;> rfl

theorem isHelper (alike : Alike ss r r') : r.isHelper = r'.isHelper := by
  funext b
  simp only [Rewriting.isHelper, alike.library]

-- Imports that match are of use to both or to neither.
theorem isDead (alike : Alike ss r r') {m n : Node} (h : m.Matches ss n) (uses : List String) :
    r.isDead uses m = r'.isDead uses n := by
  have entries : List.Forall₂ (Node.Matches ss) (importEntries m) (importEntries n) :=
    matches_filter isImportSpec h.parts
  have names : (importEntries m).flatMap (fun e => ownNames e.parts) =
      (importEntries n).flatMap fun e => ownNames e.parts := by
    simp only [List.flatMap_def,
      matches_map (g := fun e => ownNames e.parts) entries fun p q same => matches_ownNames same.parts]
  have helpers : (importEntries m).all r.isHelperEntry = (importEntries n).all r'.isHelperEntry := by
    have each := matches_map (f := r.isHelperEntry) (g := r'.isHelperEntry) entries
      fun p q same => by simp only [isHelperEntry, same.kind_eq, alike.library]
    have all := congrArg (List.all · id) each
    simpa [List.all_map] using all
  have none : (importEntries m).isEmpty = (importEntries n).isEmpty := by
    generalize importEntries m = ps at entries
    generalize importEntries n = qs at entries
    cases entries <;> rfl
  have bound (s : String) :
      (r.imports.find? s).any r.isHelper = (r'.imports.find? s).any r'.isHelper := by
    rw [← r.any_isHelper_unplaced, ← r'.any_isHelper_unplaced, alike.imports, alike.isHelper]
  simp only [Rewriting.isDead, h.kind_eq, alike.passes, alike.library, names, helpers, none, bound,
    alike.stubs_isEmpty]

theorem isNeeded (alike : Alike ss r r') : r.isNeeded = r'.isNeeded := by
  have from' := Imports.importsFrom_unplaced r.imports r.library.specifier
  have other := Imports.importsFrom_unplaced r'.imports r.library.specifier
  rw [alike.imports] at from'
  simp only [Rewriting.isNeeded, alike.passes, alike.imported, alike.stubs_isEmpty, ← alike.library,
    ← from', ← other]

end Alike

/-! ### Line ends behind imports -/

/-- How many bytes a line feed takes, alone or behind a carriage return. -/
def feedWidth (cs : List Char) : Nat :=
  match cs with
  | '\r' :: '\n' :: _ => 2
  | '\n' :: _ => 1
  | _ => 0

theorem importRange_eq (text : List Char) (item : Node) :
    importRange text item = (item.start, item.stop + feedWidth (textFrom text item.stop)) := rfl

theorem feedWidth_cons {c : Char} {cs : List Char} (noFeed : c ≠ '\n')
    (noReturn : c = '\r' → cs.head? ≠ some '\n') : feedWidth (c :: cs) = 0 := by
  unfold feedWidth
  split
  · rename_i same
    simp only [List.cons.injEq] at same
    obtain ⟨rfl, rfl⟩ := same
    simp at noReturn
  · rename_i same
    simp only [List.cons.injEq] at same
    exact absurd same.1 noFeed
  · rfl

-- What is taken out behind imports ends at counterparts if no body stands there.
theorem importRange_counterpart {ss : List Stretch} {item item' : Node}
    (ends : Counterpart ss item.stop item'.stop)
    (left : ∀ start stop, BodyAt Stretch.left ss start stop →
      start < item.stop ∨ (importRange (leftText ss) item).2 ≤ start)
    (right : ∀ start stop, BodyAt Stretch.right ss start stop →
      start < item'.stop ∨ (importRange (rightText ss) item').2 ≤ start) :
    Counterpart ss (importRange (leftText ss) item).2 (importRange (rightText ss) item').2 := by
  obtain ⟨before, after, rfl, here, there⟩ := ends
  have restLeft : textFrom (leftText (before ++ after)) item.stop = leftText after := by
    rw [leftText_append, ← here, textFrom_byteLength]
  have restRight : textFrom (rightText (before ++ after)) item'.stop = rightText after := by
    rw [rightText_append, ← there, textFrom_byteLength]
  simp only [importRange_eq, restLeft, restRight] at left right ⊢
  have still (widthLeft : feedWidth (leftText after) = 0)
      (widthRight : feedWidth (rightText after) = 0) :
      Counterpart (before ++ after) (item.stop + feedWidth (leftText after))
        (item'.stop + feedWidth (rightText after)) := by
    rw [widthLeft, widthRight]
    exact ⟨before, after, rfl, here, there⟩
  have width : ('\n' : Char).utf8Size = 1 ∧ ('\r' : Char).utf8Size = 1 := by decide
  cases after with
  | nil => exact still rfl rfl
  | cons s after =>
    cases s with
    | body c cs d ds =>
      have bodyLeft := left _ _ ⟨before, c, cs, d, ds, after, rfl, rfl, rfl⟩
      have bodyRight := right _ _ ⟨before, c, cs, d, ds, after, rfl, rfl, rfl⟩
      simp only [leftText, rightText] at here there bodyLeft bodyRight still ⊢
      exact still (by omega) (by omega)
    | shared c =>
      by_cases feed : c = '\n'
      · subst feed
        refine ⟨before ++ [.shared '\n'], after, by simp, ?_, ?_⟩
        · simp [here, Stretch.left, feedWidth, width]
        · simp [there, Stretch.right, feedWidth, width]
      · by_cases back : c = '\r'
        · subst back
          cases after with
          | nil => exact still rfl rfl
          | cons s after =>
            cases s with
            | body c cs d ds =>
              have bodyLeft := left _ _
                ⟨before ++ [.shared '\r'], c, cs, d, ds, after, by simp, rfl, rfl⟩
              have bodyRight := right _ _
                ⟨before ++ [.shared '\r'], c, cs, d, ds, after, by simp, rfl, rfl⟩
              have two (xs : List Char) : feedWidth ('\r' :: xs) = 0 ∨ feedWidth ('\r' :: xs) = 2 := by
                unfold feedWidth
                split <;> simp_all
              have startLeft : byteLength ((before ++ [Stretch.shared '\r']).flatMap Stretch.left) =
                  item.stop + 1 := by
                simpa [Stretch.left, width, leftText] using here
              have startRight : byteLength ((before ++ [Stretch.shared '\r']).flatMap Stretch.right) =
                  item'.stop + 1 := by
                simpa [Stretch.right, width, rightText] using there
              have leftWidth := two (leftText (.body c cs d ds :: after))
              have rightWidth := two (rightText (.body c cs d ds :: after))
              simp only [leftText_cons, rightText_cons, Stretch.left, Stretch.right,
                List.cons_append, List.nil_append] at *
              exact still (by omega) (by omega)
            | shared d =>
              by_cases next : d = '\n'
              · subst next
                refine ⟨before ++ [.shared '\r', .shared '\n'], after, by simp, ?_, ?_⟩
                · simp [here, Stretch.left, feedWidth, width]
                · simp [there, Stretch.right, feedWidth, width]
              · refine still (feedWidth_cons (by decide) ?_) (feedWidth_cons (by decide) ?_)
                · simpa [Stretch.left] using next
                · simpa [Stretch.right] using next
        · exact still (feedWidth_cons feed (absurd · back)) (feedWidth_cons feed (absurd · back))

/-! ### Where the stubs are -/

-- The variables at the top of a module are in items that stay.
theorem mem_ordered_of_topVariables (r : Rewriting) {item d : Node} {e : Edit}
    (top : d ∈ topVariables item) (own : e ∈ r.ordered d) :
    e ∈ r.ordered item ∧ isImport item.kind = false := by
  unfold topVariables at top
  split at top
  · exact ⟨r.mem_ordered (by simp) rfl top own, rfl⟩
  · rename_i span hoisted place ds more
    have inner : e ∈ r.ordered (.mk (.variables hoisted) place ds) :=
      r.mem_ordered (by simp) rfl top own
    exact ⟨r.mem_ordered (by simp) rfl (by simp) inner, rfl⟩
  · simp at top

-- The literal of a variable is replaced by a stub.
theorem stub_mem_ordered (r : Rewriting) {is : Imports} {library : LibraryNames}
    {own : FunctionMap} {d f : Node} (known : r.HasStub is library own d)
    (recorded : recordedLiteral? is library own d = some f) :
    ∃ id, ⟨f.start, f.stop, r.globals.stub id⟩ ∈ r.ordered d := by
  obtain ⟨span, name, value, more, id, rfl, called, given, literal, found⟩ :=
    r.recorded_stub known recorded
  obtain ⟨place, callee, rest, rfl, -, -⟩ := isCallOf_callee called
  have plan : r.plan (.mk .call place (callee :: rest)) = .stub id := by
    simp only [Rewriting.plan, planCall, found]
  refine ⟨id, r.mem_ordered (by simp) rfl (p := .mk .call place (callee :: rest)) (by simp) ?_⟩
  simp only [ordered, isImport, plan, trailEdits, stubEdits, given, Bool.false_eq_true, if_false,
    List.head?_cons, argValue_of_isFunctionLiteral literal, List.mem_append]
  exact Or.inr (by simp)

-- A literal that is recorded is replaced by a stub.
theorem stub_mem_inOrder {m : Module} {o : Options} {own : FunctionMap}
    (imported : ImportedFunctions) {f : Node} (literal : f ∈ ownLiterals o own m) :
    ∃ id, ⟨f.start, f.stop, o.globals.stub id⟩ ∈
      (ofModule m o (o.passes .client !own.isEmpty) own imported).inOrder := by
  obtain ⟨d, top, recorded⟩ := List.mem_filterMap.1 literal
  obtain ⟨item, here, top⟩ := List.mem_flatMap.1 top
  have known := hasStub_of_client o own imported here top
  obtain ⟨id, edit⟩ := stub_mem_ordered _ known recorded
  obtain ⟨inside, stays⟩ := mem_ordered_of_topVariables _ top edit
  refine ⟨id, List.mem_flatMap.2 ⟨item, here, ?_⟩⟩
  have kept : ¬ (ofModule m o (o.passes .client !own.isEmpty) own imported).isExcised item = true := by
    intro gone
    simp only [isExcised, Bool.and_eq_true] at gone
    rw [isImport_of_isDead gone.2] at stays
    exact Bool.noConfusion stays
  rw [itemEdits, if_neg kept]
  exact inside

-- No body stands in what is taken out with an import: every body is in the place of a stub.
theorem bodies_clear {m : Module} (placed : m.WellPlaced) {o : Options} {own : FunctionMap}
    {imported : ImportedFunctions} {side : Stretch → List Char} {ss : List Stretch}
    (solid : ∀ start stop, BodyAt side ss start stop → start < stop)
    (bodies : ∀ start stop, BodyAt side ss start stop →
      ∃ f ∈ ownLiterals o own m, f.start ≤ start ∧ stop ≤ f.stop) {item : Node}
    (here : item ∈ m.items)
    (gone : (ofModule m o (o.passes .client !own.isEmpty) own imported).isExcised item = true) :
    ∀ start stop, BodyAt side ss start stop →
      start < item.stop ∨ (importRange m.text item).2 ≤ start := by
  intro start stop body
  have width := solid start stop body
  obtain ⟨f, literal, left, right⟩ := bodies start stop body
  obtain ⟨id, stub⟩ := stub_mem_inOrder imported literal
  generalize rewriting : ofModule m o (o.passes .client !own.isEmpty) own imported = r at gone stub
  have module : r.module = m := by rw [← rewriting]; rfl
  have row := r.inOrder_row (module ▸ placed)
  have removal : r.importRemoval item ∈ r.inOrder := by
    refine List.mem_flatMap.2 ⟨item, module ▸ here, ?_⟩
    simp [itemEdits, gone]
  have sound : item.start ≤ item.stop := (placed.placed.placed item here).start_le_stop
  have apart := row.row.apart.forall stub removal ?_
  · have range : (importRange m.text item).1 = item.start := rfl
    simp only [Edit.Apart, importRemoval, Edit.removal, module, range] at apart
    omega
  · -- a stub puts something in, and a removal does not
    intro same
    have empty := congrArg (String.toList ∘ Edit.content) same
    simp [GlobalNames.stub, importRemoval, Edit.removal] at empty

end Rewriting

end ServerLink
