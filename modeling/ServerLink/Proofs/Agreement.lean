import ServerLink.Proofs.Outcomes
import ServerLink.Proofs.Registration

/-!
Agreement of both sides. Every identifier under which a client sends a call is that of a function
which the server registers under it, when the file of the function is made ready for the server.
-/

set_option autoImplicit false

namespace ServerLink

open Script Text

variable {o : Options} {d : Discovery} {t : FileTree} {root : Path} {r : Registry}

-- The server's edits of a module that stands in its text can be carried out.
theorem Module.WellPlaced.serverEdits_sound {m : Module} (placed : m.WellPlaced) (o : Options)
    (own : FunctionMap) :
    (∀ e ∈ serverEdits o m own, e.start < e.stop) ∧ (∀ e ∈ serverEdits o m own, e.Fits m.text) ∧
      (serverEdits o m own).Pairwise Edit.Apart := by
  let rewriting := Rewriting.ofModule m o (o.passes .server !own.isEmpty) own .empty
  have row : RowIn m.text 0 m.size rewriting.inOrder := rewriting.inOrder_row placed
  have found : (serverEdits o m own).Perm rewriting.inOrder := rewriting.allEdits_perm
  refine ⟨fun e member => ?_, fun e member => row.fits e (found.mem_iff.1 member),
    (found.pairwise_iff fun h => h.symm).2 row.row.apart⟩
  exact (row.row.bounds e (found.mem_iff.1 member)).2.1

-- A module whose functions are known is registered when it is made ready for the server.
theorem registered_of_known {q : Path} {text : List Char} {m : Module} {own : FunctionMap}
    {f : ServerFunction} (canonical : t.canonical q = .ok q)
    (parsed : Module.parse q text = .ok m) (unmarked : text.head? ≠ some byteOrderMark)
    (known : ownFunctions o r m = .ok own) (member : f ∈ own.values) :
    ∃ out, transformFile o t r .server q text = .ok (.changed out) ∧
      Registers o.globals f out.code := by
  obtain ⟨solid, fits, apart⟩ :=
    (Module.wellPlaced_of_parse parsed unmarked).serverEdits_sound o own
  rw [Module.parse_text parsed] at fits
  exact (registered_iff canonical parsed known member solid).2 ⟨fits, apart⟩

/-- The server registers the function that is found where it comes from. -/
def RegisteredAtSource (o : Options) (t : FileTree) (r : Registry) (f : ServerFunction) : Prop :=
  ∃ source, t.read f.sourceFile = .ok source ∧ (source.head? ≠ some byteOrderMark →
    ∃ out, transformFile o t r .server f.sourceFile source = .ok (.changed out) ∧
      Registers o.globals f out.code)

-- A function of the registry is registered in its file, which is one of the registry's.
theorem registered_of_recorded (valid : t.Valid) (built : d.build t root = .ok r) {q : Path}
    {functions : FunctionMap} {f : ServerFunction} (found : r.get? q = some functions)
    (member : f ∈ functions.values) :
    r.get? f.sourceFile = some functions ∧ RegisteredAtSource o t r f := by
  obtain ⟨p, here, -⟩ := Registry.mem_of_get? found
  obtain ⟨text, m, canonical, read, parsed, rfl, recorded, -⟩ :=
    Discovery.recorded_file valid built here
  have source : f.sourceFile = p := by
    rw [Discovery.sourceFile_of_scan member, Module.parse_path parsed]
  have known : ownFunctions o r m = .ok (d.scan m r.root) := by
    simp [ownFunctions, Module.parse_path parsed, recorded]
  rw [source]
  exact ⟨recorded, text, source ▸ read, fun unmarked =>
    source ▸ registered_of_known canonical parsed unmarked known member⟩

-- What is read by any path is read by its canonical path, which is its own canonical path.
theorem FileTree.Valid.read_canonical (valid : t.Valid) {p q : Path} {text : List Char}
    (read : t.read p = .ok text) (canonical : t.canonical p = .ok q) :
    t.canonical q = .ok q ∧ t.read q = .ok text := by
  obtain ⟨place, content, located, entry, again⟩ := valid.exists_of_read read
  obtain rfl : pathOf place = q := by
    simpa [FileTree.canonical, located, Except.map] using canonical
  exact ⟨valid.canonical_pathOf entry, again⟩

/-- The identifiers that a client's code holds are those of functions of the registry, or of the
module's own; and the server registers each of these functions under its identifier. -/
theorem dispatched_functions_registered (searched : Discovery.ofOptions o = .ok d)
    (valid : t.Valid) (built : d.build t root = .ok r) {p q : Path} {text : List Char}
    (read : t.read p = .ok text) (canonical : t.canonical p = .ok q) {m : Module}
    (parsed : Module.parse q text = .ok m) {own : FunctionMap}
    (known : ownFunctions o r m = .ok own) :
    (∀ e ∈ moduleEdits o t r .client m own,
      SendsUnder o.globals (dispatchedIds o t r m own) e.content) ∧
    ∀ id ∈ dispatchedIds o t r m own, ∃ f, f.id = id ∧
      ((∃ functions, r.get? f.sourceFile = some functions ∧ f ∈ functions.values) ∨
        (f.sourceFile = q ∧ f ∈ own.values)) ∧
      RegisteredAtSource o t r f := by
  refine ⟨moduleEdits_send o t r m own, fun id sent => ?_⟩
  have recorded {f : ServerFunction} {p : Path} {functions : FunctionMap}
      (found : r.get? p = some functions) (member : f ∈ functions.values) :
      ((∃ functions, r.get? f.sourceFile = some functions ∧ f ∈ functions.values) ∨
        (f.sourceFile = q ∧ f ∈ own.values)) ∧ RegisteredAtSource o t r f := by
    obtain ⟨here, registered⟩ := registered_of_recorded (o := o) valid built found member
    exact ⟨Or.inl ⟨functions, here, member⟩, registered⟩
  obtain ⟨f, same, member | ⟨p, functions, found, member⟩⟩ := function_of_dispatchedIds sent
  · refine ⟨f, same, ?_⟩
    cases found : r.get? m.path with
    | some functions =>
      obtain rfl : functions = own := by simpa [ownFunctions, found] using known
      exact recorded found member
    | none =>
      -- the file is not in the registry and is searched on the spot
      obtain rfl : d.scan m r.root = own := by
        simpa [ownFunctions, found, searched, Except.map] using known
      have source : f.sourceFile = q := by
        rw [Discovery.sourceFile_of_scan member, Module.parse_path parsed]
      obtain ⟨itself, again⟩ := valid.read_canonical read canonical
      refine ⟨Or.inr ⟨source, member⟩, text, source ▸ again, fun unmarked => ?_⟩
      exact source ▸ registered_of_known itself parsed unmarked known member
  · exact ⟨f, same, recorded found member⟩

namespace Sample

/-- A directory with one file. -/
def project : FileTree := ⟨[(["p"], .directory), (["p", "a.ts"], .file (String.ofList nested.text).toUTF8)]⟩

theorem project_valid : project.Valid :=
  FileTree.valid_of_isValid (by decide +kernel)

theorem project_entry :
    project.entryAt? ["p", "a.ts"] = some (.file (String.ofList nested.text).toUTF8) := rfl

theorem project_read : project.read path = .ok nested.text :=
  project_valid.read_text project_entry

theorem project_canonical : project.canonical path = .ok path :=
  project_valid.canonical_pathOf project_entry

/-- The functions of the file. -/
def functions : FunctionMap := (Discovery.mk .standard none).scan nested.module ⟨"/p"⟩

def registry : Registry := (Registry.empty ⟨"/p"⟩).insert path functions

theorem project_computed :
    project.sources .standard ["p"] = [path] ∧ registry.get? path = some functions ∧
      "f@a.ts:2" ∈ dispatchedIds .standard project registry nested.module functions := by
  decide +kernel

theorem project_built : (Discovery.mk .standard none).build project ⟨"/p"⟩ = .ok registry := by
  have located : project.locate ⟨"/p"⟩ = .ok ["p"] := by
    have steps : FileTree.stepsOf ⟨"/p"⟩ = ["", "p"] := by decide
    have top : project.entryAt? ["p"] = some .directory := rfl
    have root : project.entryAt? [] = some .directory := rfl
    simp [FileTree.locate, FileTree.walk, FileTree.walk.go, steps, top, root, Path.isAbsolute]
  have parsed : Module.parse path nested.text = .ok nested.module := nested.parsed
  have scanned : (Discovery.mk .standard none).scanFile project ⟨"/p"⟩ path = functions := by
    simp only [Discovery.scanFile, project_read, bind, Except.bind, parsed, functions]
  simp only [Discovery.build, located, project_computed.1, List.foldl_cons, List.foldl_nil]
  exact congrArg _ (congrArg _ scanned)

theorem registry_known : ownFunctions .standard registry nested.module = .ok functions := by
  have placed : nested.module.path = path := Module.parse_path nested.parsed
  simp only [ownFunctions, placed, project_computed.2.1]

end Sample

theorem dispatched_functions_registered_stub :
    "f@a.ts:2" ∈ dispatchedIds .standard Sample.project Sample.registry Sample.nested.module
        Sample.functions ∧
      ∃ f, f.id = "f@a.ts:2" ∧ RegisteredAtSource .standard Sample.project Sample.registry f := by
  have sent := Sample.project_computed.2.2
  obtain ⟨f, same, -, registered⟩ := (dispatched_functions_registered rfl Sample.project_valid
    Sample.project_built Sample.project_read Sample.project_canonical Sample.nested.parsed
    Sample.registry_known).2 _ sent
  exact ⟨sent, f, same, registered⟩

end ServerLink
