import ServerLink.Proofs.Agreement
import ServerLink.Proofs.Candidates

/-!
What a search of a project finds. The registry has an entry for exactly the files below the root
that are candidates, can be read, are modules and define functions; what one file holds decides
about no entry but its own.
-/

set_option autoImplicit false

namespace ServerLink

/-! ### Looking up what was recorded -/

namespace Registry

theorem find?_insertFile (p q : Path) (m : FunctionMap) (files : List (Path × FunctionMap)) :
    ((insertFile p m files).find? fun file => file.1.same q).map Prod.snd =
      if p.same q then some m else (files.find? fun file => file.1.same q).map Prod.snd := by
  induction files with
  | nil => by_cases same : p.same q = true <;> simp [insertFile, same]
  | cons file files ih =>
    obtain ⟨k, n⟩ := file
    by_cases known : p.same k = true
    · -- the entry stands in the place of one for the same path
      have either : k.same q = p.same q := by
        have components : p.components = k.components := by simpa [Path.same] using known
        simp [Path.same, components]
      by_cases same : p.same q = true <;>
        simp [insertFile, known, either, same]
    · by_cases before : p.lt k = true
      · by_cases same : p.same q = true <;>
          simp [insertFile, known, before, List.find?_cons, same]
      · by_cases here : k.same q = true
        · have other : p.same q = false := by
            have components : k.components = q.components := by simpa [Path.same] using here
            simpa [Path.same, components] using known
          simp [insertFile, known, before, here, other]
        · simpa [insertFile, known, before, List.find?_cons, here] using ih

-- A lookup finds what was recorded last for the path, however the path is spelled.
theorem get?_insert (r : Registry) (p q : Path) (m : FunctionMap) :
    (r.insert p m).get? q =
      if p.same q then (if m.isEmpty then none else some m) else r.get? q := by
  by_cases empty : m.isEmpty = true
  · have either (file : Path × FunctionMap) :
        (!file.1.same p && file.1.same q) = (file.1.same q && !p.same q) := by
      by_cases here : file.1.same q = true
      · have components : file.1.components = q.components := by simpa [Path.same] using here
        simp [Path.same, components, eq_comm]
      · simp [here]
    by_cases same : p.same q = true <;>
      simp [insert, get?, empty, List.find?_filter, either, same]
  · simp only [insert, get?, empty, if_false, Bool.false_eq_true]
    exact find?_insertFile p q m r.files

/-- What is found after files were recorded one by one: the functions of the path, if it is one of
these files. -/
theorem get?_foldl (found : Path → FunctionMap) {ps : List Path} {q : Path}
    (apart : ∀ p ∈ ps, p.same q = true → p = q) (r : Registry) :
    (ps.foldl (fun r p => r.insert p (found p)) r).get? q =
      if q ∈ ps then (if (found q).isEmpty then none else some (found q)) else r.get? q := by
  induction ps generalizing r with
  | nil => simp
  | cons p ps ih =>
    have later : ∀ p ∈ ps, p.same q = true → p = q :=
      fun p member => apart p (List.mem_cons_of_mem _ member)
    -- nothing that is recorded later is for another spelling of the path
    rw [List.foldl_cons, ih later, get?_insert]
    by_cases member : q ∈ ps
    · simp [member]
    · by_cases same : p.same q = true
      · obtain rfl := apart p (by simp) same
        simp [same]
      · have other : q ≠ p := by
          rintro rfl
          exact same (by simp [Path.same])
        simp [member, same, other]

end Registry

/-! ### Entries and files -/

namespace Discovery

/-- The file is a module in which these functions are found, and there are some. -/
def Defines (d : Discovery) (t : FileTree) (root q : Path) (functions : FunctionMap) : Prop :=
  ∃ text m, t.read q = .ok text ∧ Module.parse q text = .ok m ∧ d.scan m root = functions ∧
    functions.isEmpty = false

theorem defines_iff {d : Discovery} {t : FileTree} {root q : Path} {functions : FunctionMap} :
    d.Defines t root q functions ↔
      d.scanFile t root q = functions ∧ functions.isEmpty = false := by
  constructor
  · rintro ⟨text, m, read, parsed, scanned, some⟩
    refine ⟨?_, some⟩
    simp [scanFile, read, parsed, bind, Except.bind, scanned]
  · rintro ⟨scanned, some⟩
    unfold scanFile at scanned
    cases read : t.read q with
    | error cause =>
      obtain rfl : FunctionMap.empty = functions := by
        simpa [read, bind, Except.bind] using scanned
      exact absurd some (by decide)
    | ok text =>
      cases parsed : Module.parse q text with
      | error cause =>
        obtain rfl : FunctionMap.empty = functions := by
          simpa [read, parsed, bind, Except.bind] using scanned
        exact absurd some (by decide)
      | ok m =>
        have found : d.scan m root = functions := by
          simpa [read, parsed, bind, Except.bind] using scanned
        exact ⟨text, m, read, parsed, found, some⟩

variable {d : Discovery} {t : FileTree} {root : Path} {place : List String} {r : Registry}

theorem build_eq (located : t.locate root = .ok place) :
    d.build t root = .ok ((t.sources d.options place).foldl
      (fun r file => r.insert file (d.scanFile t (FileTree.pathOf place) file))
      (.empty (FileTree.pathOf place))) := by
  simp [build, located]

theorem root_of_built (located : t.locate root = .ok place) (built : d.build t root = .ok r) :
    r.root = FileTree.pathOf place := by
  have fold (ps : List Path) (s : Registry) : (ps.foldl (fun r file => r.insert file
      (d.scanFile t (FileTree.pathOf place) file)) s).root = s.root := by
    induction ps generalizing s with
    | nil => rfl
    | cons p ps ih => simp [ih]
  rw [build_eq located] at built
  obtain rfl := Except.ok.inj built
  exact fold _ _

-- The entries are those of the files that the walk comes upon.
theorem mem_files_iff (valid : t.Valid) (located : t.locate root = .ok place)
    (built : d.build t root = .ok r) {q : Path} {functions : FunctionMap} :
    (q, functions) ∈ r.files ↔
      q ∈ t.sources d.options place ∧ d.Defines t r.root q functions := by
  have get {q : Path} (file : IsFilePath t q) : r.get? q =
      if q ∈ t.sources d.options place then
        (if (d.scanFile t r.root q).isEmpty then none else some (d.scanFile t r.root q))
      else none := by
    rw [root_of_built located built]
    rw [build_eq located] at built
    obtain rfl := Except.ok.inj built
    refine Registry.get?_foldl _ (fun p member same => ?_) _
    exact (isFilePath_of_sources valid member).eq_of_same valid file same
  rw [defines_iff]
  constructor
  · intro known
    obtain ⟨file, scanned, some⟩ := build_files valid built _ known
    have found : r.get? q = Option.some functions := by
      obtain ⟨-, -, -, -, -, -, recorded, -⟩ := recorded_file valid built known
      exact recorded
    rw [get file] at found
    split at found
    · next walked => exact ⟨walked, scanned.symm, some⟩
    · simp at found
  · rintro ⟨walked, rfl, some⟩
    have file := isFilePath_of_sources valid walked
    have found : r.get? q = Option.some (d.scanFile t r.root q) := by
      simp [get file, walked, some]
    obtain ⟨p, known, same⟩ := Registry.mem_of_get? found
    have itself : p = q := (build_files valid built _ known).1.eq_of_same valid file same
    exact itself ▸ known

end Discovery

/-! ### Candidates and files -/

section Tree

variable {t : FileTree}

theorem FileTree.Valid.isFile_pathOf (valid : t.Valid) {place : List String} {content : ByteArray}
    (found : t.entryAt? place = some (.file content)) : t.isFile (FileTree.pathOf place) = true := by
  simp [FileTree.isFile, FileTree.entry?, valid.locate_pathOf found, found]

-- A canonical path of a file is the path of the file's place.
theorem FileTree.place_of_canonical {q : Path} (canonical : t.canonical q = .ok q)
    (file : t.isFile q = true) : ∃ place content, q = FileTree.pathOf place ∧
      t.locate q = .ok place ∧ t.entryAt? place = some (.file content) := by
  unfold FileTree.isFile FileTree.entry? at file
  cases located : t.locate q with
  | error cause => simp [located] at file
  | ok place =>
    have path : FileTree.pathOf place = q := by
      simpa [FileTree.canonical, located, Except.map] using canonical
    simp only [located] at file
    split at file
    · next content found => exact ⟨place, content, path.symm, rfl, found⟩
    · simp at file

/-- The walk and the test of single paths agree: what the walk comes upon are the files below the
root that are candidates. -/
theorem mem_sources_iff (valid : t.Valid) {place : List String}
    (proper : ∀ name ∈ place, FileTree.IsName name) {s : Session} {r : Registry}
    (built : s.registry = some r) (root : r.root = FileTree.pathOf place) {q : Path} :
    q ∈ t.sources s.options place ↔ t.canonical q = .ok q ∧ t.isFile q = true ∧
      (q.below? r.root).isSome = true ∧ s.isCandidate q = true := by
  rw [valid.mem_sources, root]
  constructor
  · rintro ⟨names, content, found, rfl, source, open'⟩
    have all := valid.names_of_file found
    have below : ∀ name ∈ names, FileTree.IsName name :=
      fun name member => all name (List.mem_append_right _ member)
    refine ⟨valid.canonical_pathOf found, valid.isFile_pathOf found, ?_, ?_⟩
    · exact (FileTree.isSome_below?_pathOf proper all).2 (List.prefix_append _ _)
    · rw [FileTree.isCandidate_pathOf proper built root below]
      simpa [source] using open'
  · rintro ⟨canonical, file, inside, candidate⟩
    obtain ⟨other, content, rfl, -, found⟩ := FileTree.place_of_canonical canonical file
    have all := valid.names_of_file found
    obtain ⟨names, rfl⟩ := (FileTree.isSome_below?_pathOf proper all).1 inside
    have below : ∀ name ∈ names, FileTree.IsName name :=
      fun name member => all name (List.mem_append_right _ member)
    rw [FileTree.isCandidate_pathOf proper built root below] at candidate
    simp only [Bool.and_eq_true, Bool.not_eq_true', List.any_eq_false] at candidate
    exact ⟨names, content, found, rfl, candidate.1, by simpa using candidate.2⟩

end Tree

/-! ### The registry of a tree -/

/-- The trees are the same apart from what the file at a place holds. -/
structure FileTree.SameBut (t t' : FileTree) (file : List String) : Prop where
  others : ∀ place, place ≠ file → t'.entryAt? place = t.entryAt? place
  before : ∃ content, t.entryAt? file = some (.file content)
  after : ∃ content, t'.entryAt? file = some (.file content)

theorem FileTree.SameBut.shape {t t' : FileTree} {file : List String}
    (same : FileTree.SameBut t t' file) : FileTree.SameShape t t' := by
  intro place
  by_cases here : place = file
  · subst here
    obtain ⟨content, before⟩ := same.before
    obtain ⟨content', after⟩ := same.after
    exact Or.inr ⟨content, content', before, after⟩
  · exact Or.inl (same.others place here)

theorem FileTree.SameBut.symm {t t' : FileTree} {file : List String}
    (same : FileTree.SameBut t t' file) : FileTree.SameBut t' t file where
  others place other := (same.others place other).symm
  before := same.after
  after := same.before

-- What one file holds does not change what is read from another.
theorem FileTree.SameBut.read_eq {t t' : FileTree} {file place : List String} {content : ByteArray}
    (same : FileTree.SameBut t t' file) (valid : t.Valid)
    (found : t.entryAt? place = some (.file content)) (other : place ≠ file) :
    t'.read (FileTree.pathOf place) = t.read (FileTree.pathOf place) := by
  simp only [FileTree.read, same.shape.locate_eq, valid.locate_pathOf found,
    same.others place other]

variable {o : Options} {d : Discovery} {t : FileTree} {root : Path} {place : List String}

theorem Discovery.options_of_searched (searched : Discovery.ofOptions o = .ok d) : d.options = o := by
  unfold Discovery.ofOptions at searched
  split at searched
  · obtain rfl := Except.ok.inj searched
    rfl
  · split at searched
    · obtain rfl := Except.ok.inj searched
      rfl
    · simp at searched

-- Entries of other files do not change with what one file holds.
theorem files_of_sameBut (valid : t.Valid) (located : t.locate root = .ok place) {r : Registry}
    (built : d.build t root = .ok r) {t' : FileTree} {file : List String} {r' : Registry}
    (valid' : t'.Valid) (same : FileTree.SameBut t t' file) (built' : d.build t' root = .ok r')
    {q : Path} (other : q ≠ FileTree.pathOf file) {functions : FunctionMap}
    (known : (q, functions) ∈ r.files) : (q, functions) ∈ r'.files := by
  have located' : t'.locate root = .ok place := by rw [same.shape.locate_eq, located]
  rw [Discovery.mem_files_iff valid located built, valid.mem_sources] at known
  obtain ⟨⟨names, content, found, rfl, source, open'⟩, text, m, read, rest⟩ := known
  have apart : place ++ names ≠ file := fun here => other (by rw [here])
  rw [Discovery.mem_files_iff valid' located' built', valid'.mem_sources,
    Discovery.root_of_built located' built', ← Discovery.root_of_built located built]
  refine ⟨⟨names, content, ?_, rfl, source, open'⟩, text, m, ?_, rest⟩
  · rw [same.others _ apart, found]
  · rw [same.read_eq valid found apart, read]

-- What is found for a path, however it is spelled, is what is recorded.
theorem get?_iff_mem_files (valid : t.Valid) {r : Registry} (built : d.build t root = .ok r) {q : Path}
    {functions : FunctionMap} :
    r.get? q = some functions ↔ ∃ p, p.same q = true ∧ (p, functions) ∈ r.files := by
  constructor
  · intro found
    obtain ⟨p, known, same⟩ := Registry.mem_of_get? found
    exact ⟨p, same, known⟩
  · rintro ⟨p, same, known⟩
    obtain ⟨-, -, -, -, -, -, found, -⟩ := Discovery.recorded_file valid built known
    have components : p.components = q.components := by simpa [Path.same] using same
    simpa [Registry.get?, Path.same, components] using found

/-- A file that is as it was when the registry was built has the same functions, whether they are
looked up or searched for. -/
theorem ownFunctions_of_unmodified (searched : Discovery.ofOptions o = .ok d) (valid : t.Valid)
    {r : Registry} (built : d.build t root = .ok r) {q : Path} {text : List Char} {m : Module}
    (canonical : t.canonical q = .ok q) (read : t.read q = .ok text)
    (parsed : Module.parse q text = .ok m) : ownFunctions o r m = .ok (d.scan m r.root) := by
  cases found : r.get? m.path with
  | none => simp [ownFunctions, found, searched, Except.map]
  | some functions =>
    obtain ⟨p, same, known⟩ := (get?_iff_mem_files valid built).1 found
    obtain ⟨place, content, located, entry, -⟩ := valid.exists_of_read read
    have itself : q = FileTree.pathOf place := by
      simpa [FileTree.canonical, located, Except.map, eq_comm] using canonical
    have file : Discovery.IsFilePath t q := ⟨place, content, itself, entry⟩
    rw [Module.parse_path parsed] at same
    obtain rfl := (Discovery.build_files valid built _ known).1.eq_of_same valid file same
    obtain ⟨text', m', -, read', parsed', scanned, -⟩ := Discovery.recorded_file valid built known
    obtain rfl : text = text' := Except.ok.inj (read.symm.trans read')
    obtain rfl : m = m' := Except.ok.inj (parsed.symm.trans parsed')
    simp [ownFunctions, found, scanned]

/-- The registry of a tree has entries for exactly the files below the root, by their canonical
paths, that are candidates and modules with functions, and holds these functions. Names above the
root exclude nothing, and no file changes the entry of another. -/
theorem registry_of_tree (searched : Discovery.ofOptions o = .ok d) (valid : t.Valid)
    (located : t.locate root = .ok place) :
    ∃ r, d.build t root = .ok r ∧ r.root = FileTree.pathOf place ∧
      (∀ s : Session, s.options = o → s.registry = some r →
        (∀ q functions, (q, functions) ∈ r.files ↔
          t.canonical q = .ok q ∧ t.isFile q = true ∧ (q.below? r.root).isSome = true ∧
            s.isCandidate q = true ∧ d.Defines t r.root q functions) ∧
        ∀ names, (∀ name ∈ names, FileTree.IsName name) →
          s.isCandidate (FileTree.pathOf (place ++ names)) =
            (o.hasSourceExtension (FileTree.pathOf (place ++ names)) &&
              !names.dropLast.any o.isExcludedName)) ∧
      (∀ q functions, r.get? q = some functions ↔
        ∃ p, p.same q = true ∧ (p, functions) ∈ r.files) ∧
      (∀ t' file, t'.Valid → FileTree.SameBut t t' file → ∃ r', d.build t' root = .ok r' ∧
        ∀ q functions, q ≠ FileTree.pathOf file →
          ((q, functions) ∈ r'.files ↔ (q, functions) ∈ r.files)) ∧
      ∀ q text m, t.canonical q = .ok q → t.read q = .ok text → Module.parse q text = .ok m →
        ownFunctions o r m = .ok (d.scan m r.root) := by
  have proper := FileTree.names_of_locate located
  obtain ⟨r, built⟩ : ∃ r, d.build t root = .ok r := ⟨_, Discovery.build_eq located⟩
  have top := Discovery.root_of_built located built
  refine ⟨r, built, top, ?_, fun _ _ => get?_iff_mem_files valid built, ?_, ?_⟩
  · rintro s rfl known
    refine ⟨fun q functions => ?_, fun names below =>
      FileTree.isCandidate_pathOf proper known top below⟩
    rw [Discovery.mem_files_iff valid located built, Discovery.options_of_searched searched,
      mem_sources_iff valid proper known top]
    simp only [and_assoc]
  · intro t' file valid' same
    -- the other tree is searched at the same place, and each holds what the other one does
    have located' : t'.locate root = .ok place := by rw [same.shape.locate_eq, located]
    refine ⟨_, Discovery.build_eq located', fun q functions other => ?_⟩
    constructor
    · exact files_of_sameBut valid' located' (Discovery.build_eq located') valid same.symm built other
    · exact files_of_sameBut valid located built valid' same (Discovery.build_eq located') other
  · intro q text m canonical read parsed
    exact ownFunctions_of_unmodified searched valid built canonical read parsed

namespace Sample

/-- A project whose own directory has an excluded name, with one module in it, the same module in
an excluded directory below, and a link to the first. -/
def searchedTree : FileTree := ⟨[
  (["build"], .directory),
  (["build", "a.ts"], .file (String.ofList nested.text).toUTF8),
  (["build", "dist"], .directory),
  (["build", "dist", "a.ts"], .file (String.ofList nested.text).toUTF8),
  (["build", "c.ts"], .link ⟨"a.ts"⟩)]⟩

def searchedModule : Source := .of ⟨"/build/a.ts"⟩ nested.text (by decide +kernel)

def searchedFunctions : FunctionMap :=
  (Discovery.mk .standard none).scan searchedModule.module ⟨"/build"⟩

theorem searchedTree_valid : searchedTree.Valid :=
  FileTree.valid_of_isValid (by decide +kernel)

theorem searchedTree_located : searchedTree.locate ⟨"/build"⟩ = .ok ["build"] := by
  have steps : FileTree.stepsOf ⟨"/build"⟩ = ["", "build"] := by decide
  have top : searchedTree.entryAt? ["build"] = some .directory := rfl
  have root : searchedTree.entryAt? [] = some .directory := rfl
  simp [FileTree.locate, FileTree.walk, FileTree.walk.go, steps, top, root, Path.isAbsolute]

theorem searchedTree_file : searchedTree.entryAt? ["build", "a.ts"] =
    some (.file (String.ofList nested.text).toUTF8) := rfl

-- The link leads to the file.
theorem searchedTree_link : searchedTree.canonical ⟨"/build/c.ts"⟩ = .ok ⟨"/build/a.ts"⟩ := by
  have steps : FileTree.stepsOf ⟨"/build/c.ts"⟩ = ["", "build", "c.ts"] := by decide
  have target : FileTree.stepsOf ⟨"a.ts"⟩ = ["a.ts"] := by decide
  have top : searchedTree.entryAt? ["build"] = some .directory := rfl
  have root : searchedTree.entryAt? [] = some .directory := rfl
  have link : searchedTree.entryAt? ["build", "c.ts"] = some (.link ⟨"a.ts"⟩) := rfl
  have file := searchedTree_file
  have path : FileTree.pathOf ["build", "a.ts"] = ⟨"/build/a.ts"⟩ := by decide
  simp [FileTree.canonical, FileTree.locate, FileTree.linkLimit, FileTree.walk, FileTree.walk.go,
    steps, target, top, root, link, file, Path.isAbsolute, Except.map, path]

theorem searchedTree_defines : (Discovery.mk .standard none).Defines searchedTree ⟨"/build"⟩
    ⟨"/build/a.ts"⟩ searchedFunctions := by
  have read : searchedTree.read ⟨"/build/a.ts"⟩ = .ok nested.text :=
    searchedTree_valid.read_text searchedTree_file
  exact ⟨nested.text, searchedModule.module, read, searchedModule.parsed, rfl, by decide +kernel⟩

end Sample

theorem registry_of_tree_excluded :
    Sample.searchedTree.Valid ∧ Sample.searchedTree.locate ⟨"/build"⟩ = .ok ["build"] ∧
      ∃ r, (Discovery.mk .standard none).build Sample.searchedTree ⟨"/build"⟩ = .ok r ∧
        (⟨"/build/a.ts"⟩, Sample.searchedFunctions) ∈ r.files ∧
        (∀ functions, (⟨"/build/dist/a.ts"⟩, functions) ∉ r.files) ∧
        ∀ functions, (⟨"/build/c.ts"⟩, functions) ∉ r.files := by
  obtain ⟨r, built, root, exact', -⟩ := registry_of_tree (o := .standard) rfl
    Sample.searchedTree_valid Sample.searchedTree_located
  obtain ⟨entries, candidates⟩ := exact' ⟨.standard, some r, none, [], ""⟩ rfl rfl
  have top : r.root = ⟨"/build"⟩ := root
  refine ⟨Sample.searchedTree_valid, Sample.searchedTree_located, r, built, ?_, ?_, ?_⟩
  · have defines := Sample.searchedTree_defines
    rw [← top] at defines
    refine (entries _ _).2 ⟨?_, ?_, ?_, ?_, defines⟩
    · exact Sample.searchedTree_valid.canonical_pathOf Sample.searchedTree_file
    · exact Sample.searchedTree_valid.isFile_pathOf Sample.searchedTree_file
    · rw [top]
      decide
    · exact (candidates ["a.ts"] (by decide)).trans (by decide)
  · intro functions known
    have candidate := ((entries _ _).1 known).2.2.2.1
    have excluded := (candidates ["dist", "a.ts"] (by decide)).trans (by decide : _ = false)
    exact absurd (candidate.symm.trans excluded) (by decide)
  · intro functions known
    have canonical := ((entries _ _).1 known).1
    rw [Sample.searchedTree_link] at canonical
    exact absurd (Except.ok.inj canonical) (by decide)

end ServerLink
