import ServerLink.Proofs.Walk

/-!
What a search records. Every file of the registry is a file of the tree, known by its canonical
path, with the functions that its text defines; and every function knows the file it is from.
-/

set_option autoImplicit false

namespace ServerLink

open Script

/-! ### Functions and where they are from -/

namespace FunctionMap

theorem mem_insertSorted {key : String} {f : ServerFunction}
    {entries : List (String × ServerFunction)} {entry : String × ServerFunction}
    (member : entry ∈ insertSorted key f entries) : entry = (key, f) ∨ entry ∈ entries := by
  induction entries with
  | nil => exact Or.inl (by simpa [insertSorted] using member)
  | cons e rest ih =>
    obtain ⟨k, g⟩ := e
    simp only [insertSorted] at member
    split at member
    · simpa using member
    · split at member
      · rcases List.mem_cons.1 member with new | old
        · exact Or.inl new
        · exact Or.inr (List.mem_cons_of_mem _ old)
      · rcases List.mem_cons.1 member with old | later
        · exact Or.inr (by simp [old])
        · rcases ih later with new | old
          · exact Or.inl new
          · exact Or.inr (List.mem_cons_of_mem _ old)

theorem mem_ofList {entries : List (String × ServerFunction)} {entry : String × ServerFunction}
    (member : entry ∈ (ofList entries).entries) : entry ∈ entries := by
  have fold (m : FunctionMap) (es : List (String × ServerFunction))
      (member : entry ∈ (es.foldl (fun m e => m.insert e.1 e.2) m).entries) :
      entry ∈ m.entries ∨ entry ∈ es := by
    induction es generalizing m with
    | nil => exact Or.inl member
    | cons e es ih =>
      rcases ih (m.insert e.1 e.2) member with inside | later
      · rcases mem_insertSorted inside with rfl | old
        · exact Or.inr (by simp)
        · exact Or.inl old
      · exact Or.inr (List.mem_cons_of_mem _ later)
  rcases fold empty entries member with nothing | found
  · simp [empty] at nothing
  · exact found

end FunctionMap

theorem Discovery.sourceFile_of_scan {d : Discovery} {m : Module} {root : Path} {f : ServerFunction}
    (member : f ∈ (d.scan m root).values) : f.sourceFile = m.path := by
  obtain ⟨⟨key, g⟩, here, rfl⟩ := List.mem_map.1 member
  obtain ⟨⟨exported, c⟩, -, same⟩ := List.mem_map.1 (FunctionMap.mem_ofList here)
  have fields := (Prod.mk.inj same).2
  rw [← fields]

theorem Module.of_parse {path : Path} {text : List Char} {m : Module}
    (parsed : Module.parse path text = .ok m) : m.path = path ∧ m.text = text := by
  unfold Module.parse at parsed
  split at parsed
  · cases parsed
    exact ⟨rfl, rfl⟩
  · simp at parsed

/-! ### Files of the registry -/

namespace Registry

theorem mem_of_get? {r : Registry} {p : Path} {m : FunctionMap} (found : r.get? p = some m) :
    ∃ q, (q, m) ∈ r.files ∧ q.same p = true := by
  obtain ⟨⟨q, n⟩, here, rfl⟩ := Option.map_eq_some_iff.1 found
  have same := List.find?_some here
  exact ⟨q, List.mem_of_find?_eq_some here, by simpa using same⟩

-- What all files of a registry satisfy stays so when a file is recorded that satisfies it too.
theorem insert_files {P : Path → FunctionMap → Prop} {r : Registry} {p : Path} {m : FunctionMap}
    (files : ∀ file ∈ r.files, P file.1 file.2)
    (new : m.isEmpty = false → ∀ q, q = p ∨ (∃ n, (q, n) ∈ r.files) ∧ p.same q = true → P q m) :
    ∀ file ∈ (r.insert p m).files, P file.1 file.2 := by
  intro file member
  by_cases empty : m.isEmpty = true
  · simp only [insert, empty, if_true, List.mem_filter] at member
    exact files file member.1
  · have some : m.isEmpty = false := by simpa using empty
    simp only [insert, some, Bool.false_eq_true, if_false] at member
    have step (fs : List (Path × FunctionMap)) (inside : ∀ file ∈ fs, file ∈ r.files)
        (member : file ∈ insertFile p m fs) : P file.1 file.2 := by
      induction fs with
      | nil =>
        obtain rfl : file = (p, m) := by simpa [insertFile] using member
        exact new some p (Or.inl rfl)
      | cons f fs ih =>
        obtain ⟨q, n⟩ := f
        have rest : ∀ file ∈ fs, file ∈ r.files :=
          fun g later => inside g (List.mem_cons_of_mem _ later)
        simp only [insertFile] at member
        split at member
        · rename_i same
          rcases List.mem_cons.1 member with rfl | later
          · exact new some q (Or.inr ⟨⟨n, inside (q, n) (by simp)⟩, same⟩)
          · exact files file (rest file later)
        · split at member
          · rcases List.mem_cons.1 member with rfl | later
            · exact new some p (Or.inl rfl)
            · exact files file (inside file later)
          · rcases List.mem_cons.1 member with rfl | later
            · exact files _ (inside _ (by simp))
            · exact ih rest later
    exact step r.files (fun _ here => here) member

@[simp] theorem root_insert (r : Registry) (p : Path) (m : FunctionMap) :
    (r.insert p m).root = r.root := by
  unfold insert
  split <;> rfl

end Registry

namespace Discovery

/-- The path is the canonical one of a file of the tree. -/
def IsFilePath (t : FileTree) (p : Path) : Prop :=
  ∃ place content, p = FileTree.pathOf place ∧ t.entryAt? place = some (.file content)

theorem IsFilePath.eq_of_same {t : FileTree} (valid : t.Valid) {p q : Path}
    (left : IsFilePath t p) (right : IsFilePath t q) (same : p.same q = true) : p = q := by
  obtain ⟨place, content, rfl, found⟩ := left
  obtain ⟨other, content', rfl, found'⟩ := right
  rw [FileTree.pathOf_same (valid.names_of_file found) (FileTree.Valid.ne_nil_of_file found)
    (valid.names_of_file found') (FileTree.Valid.ne_nil_of_file found') same]

theorem isFilePath_of_sources {t : FileTree} (valid : t.Valid) {o : Options} {place : List String}
    {p : Path} (member : p ∈ t.sources o place) : IsFilePath t p := by
  obtain ⟨names, content, found, path, -⟩ := (valid.mem_sources o).1 member
  exact ⟨_, content, path, found⟩

/-- The files of a registry that a search built: each is a file of the tree with the functions
that were found in it. -/
theorem build_files {d : Discovery} {t : FileTree} (valid : t.Valid) {root : Path} {r : Registry}
    (built : d.build t root = .ok r) :
    ∀ file ∈ r.files, IsFilePath t file.1 ∧ file.2 = d.scanFile t r.root file.1 ∧
      file.2.isEmpty = false := by
  unfold build at built
  split at built
  · simp at built
  · rename_i place located
    simp only [Except.ok.injEq] at built
    have fold (ps : List Path) (sources : ∀ p ∈ ps, IsFilePath t p) (s : Registry)
        (rooted : s.root = FileTree.pathOf place)
        (files : ∀ file ∈ s.files, IsFilePath t file.1 ∧
          file.2 = d.scanFile t (FileTree.pathOf place) file.1 ∧ file.2.isEmpty = false) :
        (∀ file ∈ (ps.foldl (fun r file => r.insert file
            (d.scanFile t (FileTree.pathOf place) file)) s).files, IsFilePath t file.1 ∧
          file.2 = d.scanFile t (FileTree.pathOf place) file.1 ∧ file.2.isEmpty = false) ∧
        (ps.foldl (fun r file => r.insert file
            (d.scanFile t (FileTree.pathOf place) file)) s).root = FileTree.pathOf place := by
      induction ps generalizing s with
      | nil => exact ⟨files, rooted⟩
      | cons p ps ih =>
        have here := sources p (by simp)
        refine ih (fun q later => sources q (List.mem_cons_of_mem _ later)) _ (by simpa using rooted) ?_
        refine Registry.insert_files (P := fun q m => IsFilePath t q ∧
          m = d.scanFile t (FileTree.pathOf place) q ∧ m.isEmpty = false) files ?_
        rintro some q (rfl | ⟨⟨n, known⟩, same⟩)
        · exact ⟨here, rfl, some⟩
        · obtain rfl := here.eq_of_same valid (files _ known).1 same
          exact ⟨here, rfl, some⟩
    have whole := fold (t.sources d.options place) (fun p => isFilePath_of_sources valid)
      (.empty (FileTree.pathOf place)) rfl (by simp [Registry.empty])
    rw [built] at whole
    obtain ⟨files, rooted⟩ := whole
    rw [rooted]
    exact files

/-- What is known of a file of the registry: it can be read and is a module, and the registry holds
the functions that are found in it. -/
theorem recorded_file {d : Discovery} {t : FileTree} (valid : t.Valid) {root : Path} {r : Registry}
    (built : d.build t root = .ok r) {q : Path} {functions : FunctionMap}
    (known : (q, functions) ∈ r.files) :
    ∃ text m, t.canonical q = .ok q ∧ t.read q = .ok text ∧ Module.parse q text = .ok m ∧
      functions = d.scan m r.root ∧ r.get? q = some functions ∧ functions.isEmpty = false := by
  have files := build_files valid built
  obtain ⟨⟨place, content, rfl, found⟩, scanned, some⟩ := files _ known
  have canonical := valid.canonical_pathOf found
  simp only at scanned some
  have readable : ∃ text m, t.read (FileTree.pathOf place) = .ok text ∧
      Module.parse (FileTree.pathOf place) text = .ok m ∧ functions = d.scan m r.root := by
    rw [scanFile] at scanned
    split at scanned
    · rename_i m read
      cases text : t.read (FileTree.pathOf place) with
      | error cause => simp [text, bind, Except.bind] at read
      | ok cs => exact ⟨cs, m, rfl, by simpa [text, bind, Except.bind] using read, scanned⟩
    · rw [scanned] at some
      simp [FunctionMap.isEmpty, FunctionMap.empty] at some
  obtain ⟨text, m, read, parsed, scan⟩ := readable
  have get : r.get? (FileTree.pathOf place) = Option.some functions := by
    have itself : (FileTree.pathOf place).same (FileTree.pathOf place) = true := by
      simp [Path.same]
    obtain ⟨other, present⟩ : ∃ other, r.get? (FileTree.pathOf place) = Option.some other := by
      refine Option.isSome_iff_exists.1 ?_
      simp only [Registry.get?, Option.isSome_map, List.find?_isSome]
      exact ⟨_, known, itself⟩
    obtain ⟨q, recorded, same⟩ := Registry.mem_of_get? present
    obtain ⟨file, scanned', -⟩ := files _ recorded
    obtain rfl := file.eq_of_same valid ⟨place, content, rfl, found⟩ same
    rw [present, scanned, ← scanned']
  exact ⟨text, m, canonical, read, parsed, scan, get, some⟩

end Discovery

end ServerLink
