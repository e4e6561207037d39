import ServerLink.Proofs.Outcomes
import ServerLink.Proofs.StubModule

/-!
A byte order mark at the start of a text. Spans do not count it, and neither do lines, so that the
module defines the same functions under the same identifiers, and its trees are edited at the same
offsets. What is edited elsewhere, at the end or as a whole, is edited as if there were no mark.
-/

set_option autoImplicit false

namespace ServerLink

open Text Script

/-- The module of the text with a byte order mark before it. -/
def Module.marked (m : Module) : Module := { m with text := byteOrderMark :: m.text }

/-! ### What the mark does not change -/

section Marked

variable {path : Path} {text : List Char} {m : Module}

@[simp] theorem Text.withoutMark_mark (text : List Char) :
    withoutMark (byteOrderMark :: text) = text := rfl

theorem Module.parse_marked (parsed : Module.parse path text = .ok m)
    (unmarked : text.head? ≠ some byteOrderMark) :
    Module.parse path (byteOrderMark :: text) = .ok m.marked := by
  have items (l : Language) : parseScript l (byteOrderMark :: text) = parseScript l text := by
    simp only [parseScript, withoutMark_mark, withoutMark_eq_self unmarked]
  unfold Module.parse at parsed ⊢
  rw [items]
  cases read : parseScript (.ofExtension path.extension) text with
  | none => simp [read] at parsed
  | some ns =>
    rw [read] at parsed
    obtain rfl := Except.ok.inj parsed
    rfl

theorem Module.lineOf_marked (unmarked : m.text.head? ≠ some byteOrderMark) (n : Node) :
    m.marked.lineOf n = m.lineOf n := by
  simp only [lineOf, marked, withoutMark_mark, withoutMark_eq_self unmarked]

theorem Discovery.scan_marked (d : Discovery) (unmarked : m.text.head? ≠ some byteOrderMark)
    (root : Path) : d.scan m.marked root = d.scan m root := by
  have line := Module.lineOf_marked unmarked
  have marks (declaration : Node) :
      markedCandidates d.options m.marked declaration = markedCandidates d.options m declaration := by
    simp only [markedCandidates, line]
    rfl
  have functions (declaration : Node) :
      functionCandidates d.options m.marked declaration = functionCandidates d.options m declaration := by
    simp only [functionCandidates, line]
    rfl
  simp only [Discovery.scan, Discovery.candidates, funext marks, funext functions]
  rfl

theorem ownFunctions_marked (o : Options) (r : Registry)
    (unmarked : m.text.head? ≠ some byteOrderMark) :
    ownFunctions o r m.marked = ownFunctions o r m := by
  simp only [ownFunctions, Discovery.scan_marked _ unmarked]
  rfl

end Marked

/-! ### Edits of trees -/

/-- What an edit puts in, and where it begins. -/
def Edit.put (e : Edit) : Nat × String := (e.start, e.content)

namespace Rewriting

variable (r : Rewriting) (m : Module)

-- How a tree is edited does not depend on the text.
theorem edits_of_module (n : Node) : { r with module := m }.edits n = r.edits n := by
  induction n using Node.induct with
  | step k span ps ih =>
    -- what is planned for a tree is the same by definition
    rw [edits, edits, partEdits_congr ih]
    rfl

theorem uses_of_module (n : Node) : { r with module := m }.uses n = r.uses n := by
  induction n using Node.induct with
  | step k span ps ih =>
    rw [uses, uses, partUses_congr ih]
    rfl

theorem partEdits_of_module (stands : Kind → Bool) (ps : List Node) :
    { r with module := m }.partEdits stands ps = r.partEdits stands ps :=
  partEdits_congr fun p _ => r.edits_of_module m p

-- With another text edits put in the same at the same offsets.
theorem allEdits_of_module (items : m.items = r.module.items) :
    { r with module := m }.allEdits.map Edit.put = r.allEdits.map Edit.put := by
  have needed : { r with module := m }.isNeeded = r.isNeeded := rfl
  have uses : { r with module := m }.allUses = r.allUses := by
    simp only [allUses, items]
    exact partUses_congr fun p _ => r.uses_of_module m p
  -- an import is removed with the line feed behind it, for which the text is looked at
  have removals : { r with module := m }.importRemovals.map Edit.put =
      r.importRemovals.map Edit.put := by
    simp only [importRemovals, uses, items, List.map_map]
    rfl
  unfold allEdits
  rw [needed]
  split
  · simp only [List.map_append, partEdits_of_module, items]
    congr 1
    split
    · exact removals
    · rfl
  · rfl

end Rewriting

def Options.replaces (o : Options) (side : Side) (own : FunctionMap) : Bool :=
  (o.passes side (!own.isEmpty)).clientStubs && match o.detection with
    | .filePattern _ => true
    | .marker => false

/-- The edits of a module where trees stand in its text. -/
def treeEdits (o : Options) (t : FileTree) (r : Registry) (side : Side) (m : Module)
    (own : FunctionMap) : List Edit :=
  let passes := o.passes side (!own.isEmpty)
  let imported :=
    if passes.callSites then importedFunctions t r o.extensions m.path m.imports own else .empty
  if o.replaces side own then [] else (Rewriting.ofModule m o passes own imported).allEdits

/-- The edits that put in code for the module as a whole: for all of it, or at its end. -/
def wholeEdits (o : Options) (side : Side) (m : Module) (own : FunctionMap) : List Edit :=
  if o.replaces side own then [⟨0, m.size, own.stubModule o.globals⟩]
  else if (o.passes side (!own.isEmpty)).registration then own.registrationEdit o.globals m.size
  else []

section

variable (o : Options) (t : FileTree) (r : Registry) (side : Side) (m : Module) (own : FunctionMap)

theorem moduleEdits_eq :
    moduleEdits o t r side m own = treeEdits o t r side m own ++ wholeEdits o side m own := by
  let passes := o.passes side (!own.isEmpty)
  let imported :=
    if passes.callSites then importedFunctions t r o.extensions m.path m.imports own else .empty
  have parts : moduleEdits o t r side m own =
      if o.replaces side own then [⟨0, m.size, own.stubModule o.globals⟩]
      else (Rewriting.ofModule m o passes own imported).allEdits
        ++ (if passes.registration then own.registrationEdit o.globals m.size else []) := rfl
  rw [parts, treeEdits, wholeEdits]
  cases o.replaces side own <;> rfl

-- In development the server's module has functions registered and nothing else.
theorem treeEdits_server (development : o.development = true) :
    treeEdits o t r .server m own = [] := by
  -- no calls are sent from the server and no stubs made for it; helpers stay in development
  have idle (imported : ImportedFunctions) :
      (Rewriting.ofModule m o (o.passes .server !own.isEmpty) own imported).isNeeded = false := by
    simp [Rewriting.isNeeded, Rewriting.ofModule, Options.passes, Options.production, development]
  unfold treeEdits
  split
  · rfl
  · simp only [Rewriting.allEdits, idle, Bool.false_eq_true, if_false]

theorem treeEdits_marked :
    (treeEdits o t r side m.marked own).map Edit.put = (treeEdits o t r side m own).map Edit.put := by
  unfold treeEdits
  cases o.replaces side own with
  | true => rfl
  | false =>
    exact (Rewriting.ofModule m o (o.passes side !own.isEmpty) own _).allEdits_of_module m.marked rfl

end

/-! ### What becomes of the text -/

/-- The same comes of a text and of another, up to a mark before the second's code. -/
inductive Applied.SameUpToMark : Except Failure Applied → Except Failure Applied → Prop
  | failed (cause : Failure) : SameUpToMark (.error cause) (.error cause)
  | unchanged : SameUpToMark (.ok .unchanged) (.ok .unchanged)
  | changed {out out' : Output} (code : out'.code = out.code ∨ out'.code = byteOrderMark :: out.code) :
      SameUpToMark (.ok (.changed out)) (.ok (.changed out'))

instance : (a b : Except Failure Applied) → Decidable (Applied.SameUpToMark a b)
  | .error cause, .error cause' =>
      decidable_of_iff (cause = cause') ⟨fun | rfl => .failed cause, fun | .failed _ => rfl⟩
  | .ok .unchanged, .ok .unchanged => .isTrue .unchanged
  | .ok (.changed out), .ok (.changed out') =>
      decidable_of_iff (out'.code = out.code ∨ out'.code = byteOrderMark :: out.code)
        ⟨.changed, fun | .changed code => code⟩
  | .error _, .ok _ => .isFalse nofun
  | .ok .unchanged, .error _ => .isFalse nofun
  | .ok .unchanged, .ok (.changed _) => .isFalse nofun
  | .ok (.changed _), .error _ => .isFalse nofun
  | .ok (.changed _), .ok .unchanged => .isFalse nofun

theorem applyEdits_at_end (text : List Char) (content : String) (name : Option String) :
    ∃ out, applyEdits text [.insertion (byteLength text) content] name = .ok (.changed out) ∧
      out.code = text ++ content.toList := by
  have put : ∃ out, applyEdits text ([] ++ [.insertion (byteLength text) content]) name =
      .ok (.changed out) ∧
        out.code = splice text 0 (byteLength text) (Edit.sorted []) ++ content.toList :=
    applyEdits_insertion name (by simp) (by simp) .nil
  simpa [Edit.sorted, splice] using put

theorem applyEdits_wholeEdits (o : Options) (side : Side) (m : Module) (own : FunctionMap)
    (name : Option String) :
    Applied.SameUpToMark (applyEdits m.text (wholeEdits o side m own) name)
      (applyEdits m.marked.text (wholeEdits o side m.marked own) name) := by
  unfold wholeEdits
  split
  · -- the mark goes with the text that is replaced
    obtain ⟨out, carried, code⟩ := applyEdits_whole m.text (own.stubModule o.globals) name
    obtain ⟨out', carried', code'⟩ :=
      applyEdits_whole m.marked.text (own.stubModule o.globals) name
    rw [Module.size, Module.size, carried, carried']
    exact .changed (Or.inl (code'.trans code.symm))
  split
  · cases none : own.isEmpty with
    | true =>
      simp only [FunctionMap.registrationEdit, none, if_true]
      exact .unchanged
    | false =>
      -- the end of the text does count the mark
      simp only [FunctionMap.registrationEdit, none, Bool.false_eq_true, if_false]
      obtain ⟨out, carried, code⟩ := applyEdits_at_end m.text (own.registration o.globals) name
      obtain ⟨out', carried', code'⟩ :=
        applyEdits_at_end m.marked.text (own.registration o.globals) name
      rw [Module.size, Module.size, carried, carried']
      have marked : out'.code = byteOrderMark :: out.code := by
        rw [code', code]
        rfl
      exact .changed (Or.inr marked)
  · exact .unchanged

/-- A module's functions are the same with a byte order mark before its text, and edits of trees
begin at the same offsets, which do not count the mark. If no trees are edited, the same comes of
both texts. -/
theorem transformed_mark {path : Path} {text : List Char} {m : Module}
    (parsed : Module.parse path text = .ok m) (unmarked : text.head? ≠ some byteOrderMark)
    (o : Options) (t : FileTree) (r : Registry) (side : Side) :
    Module.parse path (byteOrderMark :: text) = .ok m.marked ∧
      ownFunctions o r m.marked = ownFunctions o r m ∧
      (∀ own, (treeEdits o t r side m.marked own).map Edit.put =
        (treeEdits o t r side m own).map Edit.put) ∧
      ((∀ own, ownFunctions o r m = .ok own → treeEdits o t r side m own = []) →
        Applied.SameUpToMark (transformModule o t r side m)
          (transformModule o t r side m.marked)) := by
  have known : ownFunctions o r m.marked = ownFunctions o r m :=
    ownFunctions_marked o r (by rwa [Module.parse_text parsed])
  refine ⟨Module.parse_marked parsed unmarked, known, treeEdits_marked o t r side m, ?_⟩
  intro untouched
  unfold transformModule
  rw [known]
  cases found : ownFunctions o r m with
  | error cause => exact .failed cause
  | ok own =>
    have none := untouched own found
    have none' : treeEdits o t r side m.marked own = [] := by
      have same := treeEdits_marked o t r side m own
      rwa [none, List.map_nil, List.map_eq_nil_iff] at same
    simp only [bind, Except.bind, moduleEdits_eq, none, none', List.nil_append]
    exact applyEdits_wholeEdits o side m own _

/-- The server gets a file with a mark as it gets the file without one, but the client, for which a
tree is edited, gets other code. -/
theorem transformed_mark_nested :
    let made (side : Side) (m : Module) :=
      transformModule .standard .empty (.empty ⟨"/p"⟩) side m
    let m := Sample.nested.module
    Module.parse Sample.path (byteOrderMark :: Sample.nested.text) = .ok m.marked ∧
      Applied.SameUpToMark (made .server m) (made .server m.marked) ∧
      (made .server m.marked).map (Applied.code m.marked.text) =
        .ok (byteOrderMark :: Sample.nested.text
          ++ (Sample.functions.registration .standard).toList) ∧
      ¬ Applied.SameUpToMark (made .client m) (made .client m.marked) := by
  intro made m
  obtain ⟨parsed, -, -, same⟩ := transformed_mark Sample.nested.parsed Sample.nested.unmarked
    .standard .empty (.empty ⟨"/p"⟩) .server
  exact ⟨parsed, same fun own _ => treeEdits_server _ _ _ _ _ rfl, by decide +kernel⟩

end ServerLink
