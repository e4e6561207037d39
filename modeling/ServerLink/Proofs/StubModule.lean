import ServerLink.Proofs.Exports
import ServerLink.Proofs.Outcomes
import ServerLink.Proofs.Spelling.Stubs

/-!
The client's module where functions are found by file. Its text is one statement for each function
that the search found, and is read back as one export for each, which sends all of its arguments
under the identifier of the function. That asks for keys that a constant can be called by: a list of
exports may give a function any other name, and then the text is no module.
-/

set_option autoImplicit false

namespace ServerLink

open Script Text

/-! ### The text -/

/-- The text of the statements that export the functions. -/
def exportText (g : GlobalNames) (fs : List ServerFunction) : List Char :=
  fs.flatMap fun f => exportLine g f ++ ['\n']

theorem toList_stubModule (m : FunctionMap) (g : GlobalNames) :
    (m.stubModule g).toList = exportText g m.values := by
  simp only [FunctionMap.stubModule, String.toList_join, List.flatMap_map, exportText]
  congr 1
  funext f
  delta exportLine
  simp only [String.toList_append, List.append_assoc]
  rfl

theorem exportText_cons (g : GlobalNames) (f : ServerFunction) (fs : List ServerFunction) :
    exportText g (f :: fs) = exportLine g f ++ '\n' :: exportText g fs := by
  simp [exportText]

-- Each statement ends a line, and with no carriage return.
theorem length_le_exportText (g : GlobalNames) (fs : List ServerFunction) :
    fs.length ≤ (exportText g fs).countP (· != '\r') := by
  induction fs with
  | nil => exact Nat.le_refl 0
  | cons f fs ih =>
    rw [exportText_cons, List.countP_append, List.countP_cons_of_pos (by decide), List.length_cons]
    omega

/-! ### Reading the text -/

/-- The name can be given to a constant. -/
def isDeclarable (name : String) : Bool := isName name && isFree name

variable {g : GlobalNames} {s : Setting} {c : Cursor}

/-- The cursor is where the statements begin, or behind the one before them. -/
def StartsExports (g : GlobalNames) (fs : List ServerFunction) (c : Cursor) : Prop :=
  ∃ o, c = .at ⟨exportText g fs, o⟩ ∨ c = .at ⟨'\n' :: exportText g fs, o⟩

theorem StartsExports.faces {f : ServerFunction} {fs : List ServerFunction}
    (starts : StartsExports g (f :: fs) c) (sends : isName g.dispatch = true)
    (named : isName f.exportedName = true) :
    c.Faces (exportTokens f.exportedName g.dispatch f.id) ('\n' :: exportText g fs) := by
  have written := written_export sends named (exportText g fs)
  obtain ⟨o, rfl | rfl⟩ := starts
  · rw [exportText_cons]
    exact (Cursor.Faces.of_written written o).1
  · rw [exportText_cons]
    apply Cursor.Faces.of_line written
    rw [exportLine_head]
    decide

-- The tree is what the statement of the function was read as, wherever it stands.
def IsExport (g : GlobalNames) (f : ServerFunction) (n : Node) : Prop :=
  ∃ c, n = exportNode c f.exportedName g.dispatch f.id

-- Each round reads one statement, up to the line end before the next one.
theorem run_exports {fs : List ServerFunction} (sends : isName g.dispatch = true)
    (named : ∀ f ∈ fs, isDeclarable f.exportedName = true) (room : 2 < s.budget) {k n : Nat}
    (rounds : fs.length < k) (starts : StartsExports g fs c) (items : List Node) :
    ∃ ns d, Parse.loopUpTo (fun items => do
      if ← Parse.isDone then pure (items, false)
      else
        let i ← Goal.read (n + 13) .moduleItem
        pure (i :: items, true)) k items s c = some (ns.reverse ++ items, d) ∧
      List.Forall₂ (IsExport g) fs ns := by
  obtain ⟨k, rfl⟩ : ∃ l, k = l + 1 := Nat.exists_eq_add_one.2 (by omega)
  induction fs generalizing c k items with
  | nil =>
    have done : c.token = .done := by obtain ⟨o, rfl | rfl⟩ := starts <;> rfl
    refine ⟨[], c, ?_, .nil⟩
    apply Parse.run_loopUpTo_last
    simp [Parse.run_steps, done]
  | cons f fs ih =>
    obtain ⟨here, later⟩ := List.forall_mem_cons.1 named
    obtain ⟨name, free⟩ := Bool.and_eq_true_iff.1 here
    have row := starts.faces sends name
    have first : c.token = .name "export" false := row.1
    have read := Parse.read_export (n := n) row free room
    have next : StartsExports g fs (c.skip 18) := by
      obtain ⟨o, ends⟩ := row.ends
      exact ⟨o, Or.inr ends⟩
    simp only [List.length_cons] at rounds
    obtain ⟨k, rfl⟩ : ∃ l, k = l + 1 := Nat.exists_eq_add_one.2 (by omega)
    let item := exportNode c f.exportedName g.dispatch f.id
    obtain ⟨ns, d, rest, shapes⟩ := ih later next (item :: items) k (by omega)
    refine ⟨item :: ns, d, ?_, .cons ⟨c, rfl⟩ shapes⟩
    rw [Parse.run_loopUpTo_more (b := item :: items) (d := c.skip 18), rest]
    · simp
    · simp [Parse.run_steps, first, read, item]

theorem anyStrayDefault_exports {fs : List ServerFunction} {ns : List Node}
    (shapes : List.Forall₂ (IsExport g) fs ns) : anyStrayDefault ns = false := by
  induction shapes with
  | nil => rfl
  | cons shape _ ih =>
    obtain ⟨c, rfl⟩ := shape
    rw [anyStrayDefault, ih]
    rfl

theorem parseScript_exportText (language : Language) (sends : isName g.dispatch = true)
    {fs : List ServerFunction} (filled : fs ≠ [])
    (named : ∀ f ∈ fs, isDeclarable f.exportedName = true) :
    ∃ ns, parseScript language (exportText g fs) = some ns ∧
      List.Forall₂ (IsExport g) fs ns := by
  let size := (exportText g fs).countP (· != '\r')
  have count : 0 < fs.length := List.length_pos_of_ne_nil filled
  have long : fs.length ≤ size := length_le_exportText g fs
  have first : (exportText g fs).head? = some 'e' := by
    cases fs with
    | nil => exact absurd rfl filled
    | cons f fs => rw [exportText_cons, exportLine_head]
  have unmarked : withoutMark (exportText g fs) = exportText g fs :=
    withoutMark_eq_self (by rw [first]; decide)
  have unshelled : skipShellLine ⟨exportText g fs, 0⟩ = ⟨exportText g fs, 0⟩ := by
    unfold skipShellLine
    split
    · rename_i shell
      rw [show exportText g fs = _ from shell] at first
      simp at first
    · rfl
  obtain ⟨n, depth⟩ : ∃ n, 64 * (size + 2) = n + 13 := ⟨64 * (size + 2) - 13, by omega⟩
  have room : 2 < (language.setting size).budget := by
    show 2 < size + 2
    omega
  obtain ⟨ns, d, read, shapes⟩ := run_exports (n := n) sends named room
    (show fs.length < size + 2 by omega) ⟨0, Or.inl rfl⟩ []
  have script : Parse.script (64 * (size + 2)) (language.setting size)
      (.at ⟨exportText g fs, 0⟩) = some (ns, d) := by
    simp only [Parse.script, Parse.run_steps, Parse.loop, depth]
    show Option.bind (Parse.loopUpTo _ (size + 2) [] (language.setting size) _) _ = _
    simp [read]
  refine ⟨ns, ?_, shapes⟩
  simp [parseScript, unmarked, unshelled, size, script, anyStrayDefault_exports shapes]

/-! ### What the statements mean -/

/-- The tree exports a constant under the name, a function that gathers its arguments and sends them
under the identifier, through a property of the global object. -/
inductive Sends (dispatch key id : String) : Node → Prop
  | intro (item declaration declarator name function params rest gathered call member object
      arguments text use : Span) :
      Sends dispatch key id
        (.mk .exportDecl item [.mk (.variables false) declaration [.mk .declarator declarator
          [.mk (.bind key true) name [],
           .mk .arrow function
            [.mk .params params [.mk .rest rest [.mk (.bind "args" false) gathered []]],
             .mk .call call
              [.mk (.member dispatch) member [.mk (.use "globalThis" true) object []],
               .mk .arguments arguments
                [.mk (.text id) text [], .mk (.use "args" false) use []]]]]]])

theorem Sends.valueExports {dispatch key id : String} {n : Node} (sent : Sends dispatch key id n) :
    valueExports n = [(key, key)] := by
  cases sent
  rfl

theorem Sends.lexicalNames {dispatch key id : String} {n : Node} (sent : Sends dispatch key id n) :
    n.lexicalNames = [key] := by
  cases sent
  rfl

-- At the top of a module every name but the gathered arguments is the module's own.
theorem sends_of_isExport {f : ServerFunction} {n : Node} (shape : IsExport g f n) :
    Sends g.dispatch f.exportedName f.id (n.resolve .none) := by
  obtain ⟨c, rfl⟩ := shape
  exact .intro _ _ _ _ _ _ _ _ _ _ _ _ _ _

-- The statements are read as a module, each as what it says.
theorem parse_exportText (sends : isName g.dispatch = true) {fs : List ServerFunction}
    (filled : fs ≠ []) (named : ∀ f ∈ fs, isDeclarable f.exportedName = true) (path : Path) :
    ∃ m, Module.parse path (exportText g fs) = .ok m ∧
      List.Forall₂ (fun f item => Sends g.dispatch f.exportedName f.id item) fs m.items := by
  obtain ⟨ns, read, shapes⟩ :=
    parseScript_exportText (.ofExtension path.extension) sends filled named
  refine ⟨⟨path, exportText g fs, resolveParts (.uniform .none) ns⟩, ?_, ?_⟩
  · simp [Module.parse, read]
  · rw [resolveParts_uniform, List.forall₂_map_right_iff]
    exact shapes.imp fun _ _ => sends_of_isExport

/-! ### The client's module -/

theorem applyEdits_whole (text : List Char) (content : String) (name : Option String) :
    ∃ out, applyEdits text [⟨0, byteLength text, content⟩] name = .ok (.changed out) ∧
      out.code = content.toList := by
  have fits : Edit.Fits text ⟨0, byteLength text, content⟩ :=
    ⟨Nat.zero_le _, isBoundary_zero text, isBoundary_byteLength text⟩
  have cut : splitAt? text (byteLength text) = some (text, []) := by
    simpa using splitAt?_byteLength text []
  refine ⟨_, by simp [applyEdits, Edit.sorted, Edit.firstFault, fits]; rfl, ?_⟩
  simp [pieces, joinPieces, Piece.text, slice, cut]

theorem entries_of_scan (d : Discovery) (m : Module) (root : Path) :
    (d.scan m root).entries = (d.scan m root).values.map fun f => (f.exportedName, f) := by
  have same : ∀ entry ∈ (d.scan m root).entries, (entry.2.exportedName, entry.2) = entry := by
    intro entry member
    rw [Discovery.scan_eq] at member
    obtain ⟨candidate, -, rfl⟩ := List.mem_map.1 (FunctionMap.mem_ofList member)
    rfl
  rw [FunctionMap.values, List.map_map]
  exact ((List.map_congr_left same).trans (List.map_id _)).symm

-- What a row gives of which each gives one thing that its counterpart tells.
theorem flatMap_of_forall₂ {α β γ : Type} {R : α → β → Prop} {give : β → List γ} {tell : α → γ}
    {as : List α} {bs : List β} (row : List.Forall₂ R as bs)
    (each : ∀ a b, R a b → give b = [tell a]) : bs.flatMap give = as.map tell := by
  induction row with
  | nil => rfl
  | cons first _ ih =>
    rw [List.flatMap_cons, List.map_cons, each _ _ first, ih, List.singleton_append]

/-- Where functions are found by file, the client's module exports exactly the keys of what a search
finds in the module, if each can be the name of a constant, and each is a function that sends its
arguments under the identifier of its entry. -/
theorem client_stubs_export_keys {o : Options} {pattern : String}
    (byFile : o.detection = .filePattern pattern) {d : Discovery}
    (searched : Discovery.ofOptions o = .ok d) (t : FileTree) {r : Registry} {m : Module}
    (known : ∀ own, r.get? m.path = some own → own = d.scan m r.root)
    (found : (d.scan m r.root).isEmpty = false)
    (named : ∀ entry ∈ (d.scan m r.root).entries, isDeclarable entry.1 = true)
    (global : "globalThis" ∉ (d.scan m r.root).entries.map Prod.fst)
    (sends : isName o.globals.dispatch = true) :
    ∃ out stubs, transformModule o t r .client m = .ok (.changed out) ∧
      Module.parse m.path out.code = .ok stubs ∧
      stubs.items.flatMap valueExports = (d.scan m r.root).entries.map (fun e => (e.1, e.1)) ∧
      List.Forall₂ (fun entry item => Sends o.globals.dispatch entry.1 entry.2.id item)
        (d.scan m r.root).entries stubs.items ∧
      "globalThis" ∉ stubs.items.flatMap Node.lexicalNames := by
  generalize scanned : d.scan m r.root = own at *
  have entries : own.entries = own.values.map fun f => (f.exportedName, f) :=
    scanned ▸ entries_of_scan d m r.root
  have functions : ownFunctions o r m = .ok own := by
    unfold ownFunctions
    cases entry : r.get? m.path with
    | none => simp [searched, Except.map, scanned]
    | some functions => simp [known functions entry]
  have edits : moduleEdits o t r .client m own =
      [⟨0, byteLength m.text, own.stubModule o.globals⟩] := by
    simp [moduleEdits, Options.passes, byFile, found, Module.size]
  obtain ⟨out, carried, code⟩ := applyEdits_whole m.text (own.stubModule o.globals)
    (if o.sourceMaps then some m.mapName else none)
  have filled : own.values ≠ [] := by
    intro none
    simp [FunctionMap.isEmpty, entries, none] at found
  have declarable : ∀ f ∈ own.values, isDeclarable f.exportedName = true := by
    intro f member
    exact named (f.exportedName, f) (entries ▸ List.mem_map.2 ⟨f, member, rfl⟩)
  obtain ⟨stubs, parsed, shapes⟩ := parse_exportText sends filled declarable m.path
  refine ⟨out, stubs, ?_, ?_, ?_, ?_, ?_⟩
  · rw [transformModule, functions]
    show applyEdits m.text (moduleEdits o t r .client m own) _ = _
    rw [edits, carried]
  · rw [code, toList_stubModule, parsed]
  · rw [entries, List.map_map]
    exact flatMap_of_forall₂ shapes fun _ _ sent => sent.valueExports
  · rw [entries, List.forall₂_map_left_iff]
    exact shapes
  · have declared : stubs.items.flatMap Node.lexicalNames = own.values.map (·.exportedName) :=
      flatMap_of_forall₂ shapes fun _ _ sent => sent.lexicalNames
    rw [entries, List.map_map] at global
    rw [declared]
    exact global

namespace Sample

/-- Functions are found in every file whose name ends in `.ts`. -/
def byFile : Options := { Options.standard with detection := .filePattern "\\.ts$" }

def discovery : Discovery := ⟨byFile, Pattern.compile? "\\.ts$"⟩

theorem discovery_searched : Discovery.ofOptions byFile = .ok discovery := by
  obtain ⟨e, compiled⟩ : ∃ e, Pattern.compile? "\\.ts$" = some e :=
    Option.isSome_iff_exists.1 (by decide +kernel)
  simp [Discovery.ofOptions, byFile, discovery, compiled]

/-- One function under two names. -/
def twice : Source :=
  .of path "function f() \x7b\x7d\nexport \x7b f as g, f as h \x7d".toList (by decide +kernel)

/-- A function under a name that no constant can have. -/
def nameless : Source :=
  .of path "function f() \x7b\x7d\nexport \x7b f as default \x7d".toList (by decide +kernel)

end Sample

/-- Both names are kept. A module whose function is its default is replaced by a text that is no
module. -/
theorem client_stubs_export_keys_twice :
    let m := Sample.twice.module
    let found := Sample.discovery.scan m ⟨"/p"⟩
    found.entries.map Prod.fst = ["g", "h"] ∧
    (∃ out stubs,
      transformModule Sample.byFile .empty (.empty ⟨"/p"⟩) .client m = .ok (.changed out) ∧
      Module.parse m.path out.code = .ok stubs ∧
      stubs.items.flatMap valueExports = found.entries.map (fun e => (e.1, e.1)) ∧
      List.Forall₂ (fun entry item => Sends Sample.byFile.globals.dispatch entry.1 entry.2.id item)
        found.entries stubs.items ∧
      "globalThis" ∉ stubs.items.flatMap Node.lexicalNames) ∧
    let n := Sample.nameless.module
    let stub :=
      "export const default = (...args) => globalThis.__SERVERFN_CALL__(\"f@a.ts:1\", args);\n"
    (Sample.discovery.scan n ⟨"/p"⟩).entries.map Prod.fst = ["default"] ∧
      (transformModule Sample.byFile .empty (.empty ⟨"/p"⟩) .client n).map
        (Applied.code n.text) = .ok stub.toList ∧
      (Module.parse n.path stub.toList).toOption.isNone = true := by
  intro m found
  have keys : found.entries.map Prod.fst = ["g", "h"] := by decide +kernel
  refine ⟨keys, ?_, by decide +kernel⟩
  apply client_stubs_export_keys rfl Sample.discovery_searched .empty
  · intro own entry
    simp [Registry.empty, Registry.get?] at entry
  · show found.entries.isEmpty = false
    rw [← List.isEmpty_map, keys]
    rfl
  · intro entry member
    have known : entry.1 ∈ ["g", "h"] := keys ▸ List.mem_map_of_mem member
    have declarable : ∀ key ∈ ["g", "h"], isDeclarable key = true := by decide
    exact declarable entry.1 known
  · show "globalThis" ∉ found.entries.map Prod.fst
    rw [keys]
    decide
  · decide

end ServerLink
