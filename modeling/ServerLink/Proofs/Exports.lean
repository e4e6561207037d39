import ServerLink.Proofs.OwnFunctions

/-!
What a module exports and what a search finds in it. A search finds every name under which a
declaration of the right shape is exported where it stands, or listed if it is not; and whatever it
finds is exported and declared, types apart.
-/

set_option autoImplicit false

namespace ServerLink

open Script Text

/-! ### Values a module declares -/

-- What an item declares, be it exported where it stands or not.
def topDeclaration (item : Node) : Node := (exported? item).getD item

/-- The names that a declaration gives to values that it spells out: variables with a value, and
functions with a body. -/
def boundNames (declaration : Node) : List String :=
  match declaration with
  | .mk .functionDecl _ ps => if ps.any (·.kind == .body) then ownNames ps else []
  | d => (namedValues d).map Prod.fst

-- Functions that are only said to exist, or of which one way to call them is said.
def signatureNames (declaration : Node) : List String :=
  match declaration with
  | .mk .functionDecl _ ps => if ps.any (·.kind == .body) then [] else ownNames ps
  | _ => []

/-! ### Values a module exports -/

-- An entry exports a value of the module, unless it says `type`.
def listedValue? : Node → Option (String × String)
  | .mk (.exportSpec exported false) _ (.mk (.use name _) _ _ :: _) => some (exported, name)
  | _ => none

def listedType? : Node → Option (String × String)
  | .mk (.exportSpec exported true) _ (.mk (.use name _) _ _ :: _) => some (exported, name)
  | _ => none

-- The entries of lists that export something of the module itself, and not only types.
def listEntries : Node → List Node
  | .mk (.exportList none false) _ entries => entries
  | _ => []

def listedValues (item : Node) : List (String × String) :=
  (listEntries item).filterMap listedValue?

def inlineValues (item : Node) : List (String × String) :=
  match exported? item with
  | some d => (boundNames d).map fun s => (s, s)
  | none => []

/-- The names under which an item exports values, with the names they have in the module. -/
def valueExports (item : Node) : List (String × String) :=
  inlineValues item ++ listedValues item

/-- The names that an item exports of what is gone once the types are: entries of types, and
functions without a body. -/
def erasedExports (item : Node) : List (String × String) :=
  (match exported? item with
    | some d => (signatureNames d).map fun s => (s, s)
    | none => []) ++ (listEntries item).filterMap listedType?

theorem listEntries_eq_nil {item : Node}
    (other : ∀ span entries, item ≠ .mk (.exportList none false) span entries) :
    listEntries item = [] := by
  unfold listEntries
  split
  · exact absurd rfl (other _ _)
  · rfl

theorem listedExports_eq (items : List Node) :
    listedExports items = items.flatMap fun item => (listEntries item).filterMap fun e =>
      (listedValue? e).or (listedType? e) := by
  unfold listedExports
  congr 1
  funext item
  split
  next span entries =>
    show List.filterMap _ entries = List.filterMap _ entries
    congr 1
    funext e
    -- An entry is one of a value or of a type, and either way the list has it.
    split
    · rename_i exported typeOnly _ name _ _ _ _
      cases typeOnly <;> rfl
    · rename_i other
      unfold listedValue? listedType?
      split <;> try split
      all_goals first | rfl | exact absurd rfl (other _ _ _ _ _ _ _ _)
  next other =>
    rw [listEntries_eq_nil other]
    rfl

theorem listedValues_subset {items : List Node} {pair : String × String}
    (listed : pair ∈ items.flatMap listedValues) : pair ∈ listedExports items := by
  rw [listedExports_eq]
  obtain ⟨item, member, entry⟩ := List.mem_flatMap.1 listed
  obtain ⟨e, inside, value⟩ := List.mem_filterMap.1 entry
  apply List.mem_flatMap.2
  exact ⟨item, member, List.mem_filterMap.2 ⟨e, inside, by simp [value]⟩⟩

-- What the lists export is a value, or erased.
theorem mem_listedExports {items : List Node} {pair : String × String}
    (listed : pair ∈ listedExports items) :
    pair ∈ items.flatMap valueExports ∨ pair ∈ items.flatMap erasedExports := by
  rw [listedExports_eq] at listed
  obtain ⟨item, member, entry⟩ := List.mem_flatMap.1 listed
  obtain ⟨e, inside, known⟩ := List.mem_filterMap.1 entry
  cases Option.or_eq_some_iff.1 known with
  | inl value =>
    have here : pair ∈ listedValues item := List.mem_filterMap.2 ⟨e, inside, value⟩
    exact Or.inl (List.mem_flatMap.2 ⟨item, member, List.mem_append_right _ here⟩)
  | inr type =>
    have here := List.mem_filterMap.2 ⟨e, inside, type.2⟩
    exact Or.inr (List.mem_flatMap.2 ⟨item, member, List.mem_append_right _ here⟩)

/-! ### Maps of functions -/

namespace FunctionMap

theorem get?_foldl_insert (entries : List (String × ServerFunction)) (m : FunctionMap)
    (key : String) :
    (entries.foldl (fun m entry => m.insert entry.1 entry.2) m).get? key =
      ((entries.reverse.find? (·.1 == key)).map Prod.snd).or (m.get? key) := by
  induction entries generalizing m with
  | nil => simp
  | cons entry rest ih =>
    rw [List.foldl_cons, ih, List.reverse_cons, List.find?_append]
    by_cases here : entry.1 = key
    next =>
      subst here
      cases rest.reverse.find? (·.1 == entry.1) <;> simp
    next =>
      have other : key ≠ entry.1 := Ne.symm here
      have missed : (entry.1 == key) = false := by simpa using here
      rw [get?_insert_ne m other, List.find?_cons_of_neg (by simp [missed])]
      simp

theorem get?_ofList (entries : List (String × ServerFunction)) (key : String) :
    (ofList entries).get? key = (entries.reverse.find? (·.1 == key)).map Prod.snd := by
  have nothing : empty.get? key = none := rfl
  rw [ofList, get?_foldl_insert, nothing, Option.or_none]

theorem get?_ofList_some {entries : List (String × ServerFunction)} {key : String}
    {f : ServerFunction} (found : (ofList entries).get? key = some f) : (key, f) ∈ entries := by
  rw [get?_ofList] at found
  obtain ⟨⟨k, g⟩, here, rfl⟩ := Option.map_eq_some_iff.1 found
  have same : k = key := by simpa using List.find?_some here
  subst same
  exact List.mem_reverse.1 (List.mem_of_find?_eq_some here)

theorem exists_get?_ofList {entries : List (String × ServerFunction)} {key : String}
    {f : ServerFunction} (member : (key, f) ∈ entries) : ∃ g, (ofList entries).get? key = some g := by
  rw [get?_ofList]
  apply Option.isSome_iff_exists.1
  rw [Option.isSome_map, List.find?_isSome]
  exact ⟨(key, f), List.mem_reverse.2 member, by simp⟩

theorem get?_of_values {entries : List (String × ServerFunction)} {f : ServerFunction}
    (member : f ∈ (ofList entries).values) : ∃ key, (key, f) ∈ entries := by
  obtain ⟨⟨key, g⟩, here, rfl⟩ := List.mem_map.1 member
  exact ⟨key, mem_ofList here⟩

end FunctionMap

/-! ### Candidates -/

namespace Discovery

variable {d : Discovery} {m : Module} {root : Path} {items : List Node} {c : Candidate}

/-- The candidates among what is declared, by the way functions are found. -/
def shape (d : Discovery) (m : Module) : Node → List Candidate :=
  match d.pattern with
  | none => markedCandidates d.options m
  | some _ => functionCandidates d.options m

/-- The module is searched: functions are found by their marker, or its path matches. -/
def searches (d : Discovery) (m : Module) (root : Path) : Bool :=
  match d.pattern with
  | none => true
  | some p => p.matches (Path.idPath root m.path).toList

-- What is recorded of a candidate that is exported.
def record (m : Module) (root : Path) (exported : String) (c : Candidate) : ServerFunction where
  id := functionId c.name (Path.idPath root m.path) c.line
  sourceFile := m.path
  exportedName := exported
  localName := c.name
  requiresContext := c.requiresContext

theorem mem_exportedCandidates {shape : Node → List Candidate} {exported : String}
    (found : (exported, c) ∈ exportedCandidates items shape) :
    (∃ item ∈ items, ∃ decl, exported? item = some decl ∧ c ∈ shape decl ∧ exported = c.name) ∨
      ((exported, c.name) ∈ listedExports items ∧ ∃ item ∈ items, c ∈ shape item) := by
  rw [exportedCandidates] at found
  cases List.mem_append.1 found with
  | inl declared =>
    obtain ⟨c', inside, pair⟩ := List.mem_map.1 declared
    obtain ⟨rfl, rfl⟩ := Prod.mk.inj pair
    obtain ⟨decl, behind, shaped⟩ := List.mem_flatMap.1 inside
    obtain ⟨item, member, inline⟩ := List.mem_filterMap.1 behind
    exact Or.inl ⟨item, member, decl, inline, shaped, rfl⟩
  | inr listed =>
    obtain ⟨⟨exported', name⟩, entry, known⟩ := List.mem_filterMap.1 listed
    obtain ⟨c', last, pair⟩ := Option.map_eq_some_iff.1 known
    obtain ⟨rfl, rfl⟩ := Prod.mk.inj pair
    have named : c'.name = name := by simpa using List.find?_some last
    subst named
    have plain := List.mem_reverse.1 (List.mem_of_find?_eq_some last)
    exact Or.inr ⟨entry, List.mem_flatMap.1 plain⟩

theorem exportedCandidates_inline {shape : Node → List Candidate} {item decl : Node}
    (member : item ∈ items) (inline : exported? item = some decl) (shaped : c ∈ shape decl) :
    (c.name, c) ∈ exportedCandidates items shape := by
  rw [exportedCandidates]
  apply List.mem_append_left
  apply List.mem_map.2
  exact ⟨c, List.mem_flatMap.2 ⟨decl, List.mem_filterMap.2 ⟨item, member, inline⟩, shaped⟩, rfl⟩

-- Of two candidates of one name a list means the later one, so that another may be found.
theorem exportedCandidates_listed {shape : Node → List Candidate} {item : Node} {exported : String}
    (member : item ∈ items) (shaped : c ∈ shape item)
    (listed : (exported, c.name) ∈ listedExports items) :
    ∃ c', c'.name = c.name ∧ (exported, c') ∈ exportedCandidates items shape := by
  have plain : c ∈ (items.flatMap shape).reverse :=
    List.mem_reverse.2 (List.mem_flatMap.2 ⟨item, member, shaped⟩)
  obtain ⟨c', last⟩ : ∃ c', (items.flatMap shape).reverse.find? (·.name == c.name) = some c' := by
    apply Option.isSome_iff_exists.1
    rw [List.find?_isSome]
    exact ⟨c, plain, by simp⟩
  have named : c'.name = c.name := by simpa using List.find?_some last
  refine ⟨c', named, ?_⟩
  rw [exportedCandidates]
  apply List.mem_append_right
  apply List.mem_filterMap.2
  exact ⟨(exported, c.name), listed, by simp [last]⟩

/-- A variable whose value is a call of the marker is of no use unless something is imported from
the library. -/
theorem importsFrom_of_marked {o : Options} {declaration : Node}
    (marked : c ∈ markedCandidates o m declaration) :
    m.imports.importsFrom o.library.specifier = true := by
  obtain ⟨_, _, _, _, _, _, _, value, _, called, _, _⟩ := variable_of_candidate marked
  have found (name : String) {b : Binding} (h : m.imports.value? o.library.specifier name = some b) :
      m.imports.importsFrom o.library.specifier = true := by
    obtain ⟨known, brings⟩ := Option.filter_eq_some_iff.1 h
    apply List.any_eq_true.2
    exact ⟨b, List.mem_of_find?_eq_some known, (Bool.and_eq_true_iff.1 brings).1⟩
  unfold Imports.isCallOf at called
  split at called
  · have named := eq_of_beq called
    unfold Imports.export? at named
    split at named
    · obtain ⟨b, h, -⟩ := Option.bind_eq_some_iff.1 named
      exact found _ h
    · obtain ⟨b, h, -⟩ := Option.map_eq_some_iff.1 named
      exact found _ (Option.filter_eq_some_iff.1 h).1
    · simp at named
  · simp at called

theorem shape_of_exported {item decl : Node} (inline : exported? item = some decl) :
    d.shape m item = [] := by
  unfold exported? at inline
  split at inline
  · cases pattern : d.pattern with
    | none => simp [shape, pattern, markedCandidates, namedValues]
    | some p => simp [shape, pattern, functionCandidates, namedValues]
  · simp at inline

theorem candidates_eq (searched : d.searches m root = true) :
    d.candidates m (Path.idPath root m.path) = exportedCandidates m.items (d.shape m) := by
  cases pattern : d.pattern with
  | some p =>
    have fits : p.matches (Path.idPath root m.path).toList = true := by
      simpa [searches, pattern] using searched
    simp [candidates, shape, pattern, fits]
  | none =>
    by_cases imported : m.imports.importsFrom d.options.library.specifier = true
    next => simp [candidates, shape, pattern, imported]
    next =>
      -- No declaration is marked, so that both sides are empty.
      have nothing : ∀ n, markedCandidates d.options m n = [] := by
        intro n
        apply List.eq_nil_iff_forall_not_mem.2
        exact fun c marked => imported (importsFrom_of_marked marked)
      have listless : exportedCandidates m.items (d.shape m) = [] := by
        apply List.eq_nil_iff_forall_not_mem.2
        rintro ⟨exported, c⟩ found
        cases mem_exportedCandidates found with
        | inl inline =>
          obtain ⟨_, _, decl, _, shaped, _⟩ := inline
          simp [shape, pattern, nothing] at shaped
        | inr listed =>
          obtain ⟨_, item, _, shaped⟩ := listed
          simp [shape, pattern, nothing] at shaped
      simp [candidates, pattern, imported, listless]

theorem candidates_of_unsearched (unsearched : d.searches m root = false) :
    d.candidates m (Path.idPath root m.path) = [] := by
  cases pattern : d.pattern with
  | none => simp [searches, pattern] at unsearched
  | some p =>
    have misses : p.matches (Path.idPath root m.path).toList = false := by
      simpa [searches, pattern] using unsearched
    simp [candidates, pattern, misses]

theorem scan_eq (d : Discovery) (m : Module) (root : Path) :
    d.scan m root = .ofList ((d.candidates m (Path.idPath root m.path)).map fun entry =>
      (entry.1, record m root entry.1 entry.2)) := rfl

-- What a search finds is the record of a candidate.
theorem candidate_of_values {f : ServerFunction} (member : f ∈ (d.scan m root).values) :
    ∃ c, f = record m root f.exportedName c ∧
      (f.exportedName, c) ∈ exportedCandidates m.items (d.shape m) := by
  rw [scan_eq] at member
  obtain ⟨key, recorded⟩ := FunctionMap.get?_of_values member
  obtain ⟨⟨exported, c⟩, found, same⟩ := List.mem_map.1 recorded
  obtain ⟨rfl, rfl⟩ := Prod.mk.inj same
  refine ⟨c, rfl, ?_⟩
  by_cases searched : d.searches m root = true
  next => exact candidates_eq searched ▸ found
  next =>
    rw [candidates_of_unsearched (by simpa using searched)] at found
    simp at found

theorem scan_get?_of_candidate (searched : d.searches m root = true) {exported : String}
    (found : (exported, c) ∈ exportedCandidates m.items (d.shape m)) :
    ∃ c', (exported, c') ∈ exportedCandidates m.items (d.shape m) ∧
      (d.scan m root).get? exported = some (record m root exported c') := by
  have recorded : (exported, record m root exported c) ∈
      (d.candidates m (Path.idPath root m.path)).map fun entry =>
        (entry.1, record m root entry.1 entry.2) := by
    rw [candidates_eq searched]
    exact List.mem_map.2 ⟨(exported, c), found, rfl⟩
  obtain ⟨g, known⟩ := FunctionMap.exists_get?_ofList recorded
  obtain ⟨⟨exported', c'⟩, found', same⟩ := List.mem_map.1 (FunctionMap.get?_ofList_some known)
  obtain ⟨rfl, rfl⟩ := Prod.mk.inj same
  exact ⟨c', candidates_eq searched ▸ found', by rw [scan_eq]; exact known⟩

/-! ### Every exported candidate is found -/

/-- A candidate of the module is exported under the name: its own where it is declared, or any that
a list gives to its own. -/
def Exports (d : Discovery) (m : Module) (exported : String) (c : Candidate) : Prop :=
  ∃ item ∈ m.items, c ∈ d.shape m (topDeclaration item) ∧
    ((exported? item).isSome ∧ exported = c.name ∨ (exported, c.name) ∈ listedExports m.items)

theorem exports_of_candidate {exported : String}
    (found : (exported, c) ∈ exportedCandidates m.items (d.shape m)) : d.Exports m exported c := by
  cases mem_exportedCandidates found with
  | inl declared =>
    obtain ⟨item, member, decl, inline, shaped, same⟩ := declared
    refine ⟨item, member, ?_, Or.inl ⟨by simp [inline], same⟩⟩
    simpa [topDeclaration, inline] using shaped
  | inr listed =>
    obtain ⟨entry, item, member, shaped⟩ := listed
    refine ⟨item, member, ?_, Or.inr entry⟩
    cases inline : exported? item with
    | none => simpa [topDeclaration, inline] using shaped
    | some decl => simp [shape_of_exported inline] at shaped

/-- A search finds every name that a module exports a candidate by: the name of one that is exported
where it is declared, and of one that is not all names that the lists give it, be they before or
behind it. The name is found with the line of a candidate that the module exports by it, which is
the candidate itself unless the module exports several by that name. -/
theorem scanned_exports (searched : d.searches m root = true) {item : Node} (member : item ∈ m.items)
    (shaped : c ∈ d.shape m (topDeclaration item)) {exported : String}
    (exports : (exported, c.name) ∈ inlineValues item ++ m.items.flatMap listedValues)
    (reached : exported? item = none ∨ exported = c.name) :
    (∃ c', d.Exports m exported c' ∧
      (d.scan m root).get? exported = some (record m root exported c')) ∧
    ((∀ c', d.Exports m exported c' → c' = c) →
      (d.scan m root).get? exported = some (record m root exported c)) := by
  have candidate : ∃ c', (exported, c') ∈ exportedCandidates m.items (d.shape m) := by
    cases inline : exported? item with
    | some decl =>
      have same : exported = c.name := by
        cases reached with
        | inl plain => simp [inline] at plain
        | inr same => exact same
      have here : c ∈ d.shape m decl := by simpa [topDeclaration, inline] using shaped
      exact ⟨c, same ▸ exportedCandidates_inline member inline here⟩
    | none =>
      have here : c ∈ d.shape m item := by simpa [topDeclaration, inline] using shaped
      have listed : (exported, c.name) ∈ m.items.flatMap listedValues := by
        cases List.mem_append.1 exports with
        | inl own => simp [inlineValues, inline] at own
        | inr listed => exact listed
      obtain ⟨c', -, found⟩ := exportedCandidates_listed member here (listedValues_subset listed)
      exact ⟨c', found⟩
  obtain ⟨c₁, found₁⟩ := candidate
  obtain ⟨c', found, known⟩ := scan_get?_of_candidate searched found₁
  have declared := exports_of_candidate found
  constructor
  · exact ⟨c', declared, known⟩
  · intro only
    rw [only c' declared] at known
    exact known

end Discovery

-- One function is listed before it is declared, the other after it was exported where it is
-- declared.
def Sample.relisted : Source :=
  .of path ("import \x7b func \x7d from \"serverfn\"\nexport \x7b h as k \x7d\n" ++
    "const h = func(() => 2)\nexport const f = func(() => 1)\nexport \x7b f as g \x7d").toList
    (by decide +kernel)

/-- The search finds `k`, which is `h`, but not `g`, by which `f` is exported once more. -/
theorem scanned_exports_relisted :
    let m := Sample.relisted.module
    let d : Discovery := ⟨.standard, none⟩
    (∃ c, d.Exports m "k" c ∧ (d.scan m ⟨"/p"⟩).get? "k" = some (Discovery.record m ⟨"/p"⟩ "k" c)) ∧
    ("f", "f") ∈ m.items.flatMap inlineValues ∧ ("g", "f") ∈ m.items.flatMap listedValues ∧
    (d.scan m ⟨"/p"⟩).get? "g" = none := by
  intro m d
  obtain ⟨⟨item, member, c, shaped, exports, plain⟩, missed⟩ :
      (∃ item ∈ m.items, ∃ c ∈ d.shape m (topDeclaration item),
        ("k", c.name) ∈ inlineValues item ++ m.items.flatMap listedValues ∧
          (exported? item).isNone = true) ∧
        ("f", "f") ∈ m.items.flatMap inlineValues ∧ ("g", "f") ∈ m.items.flatMap listedValues ∧
          (d.scan m ⟨"/p"⟩).get? "g" = none := by
    decide +kernel
  have searched : d.searches m ⟨"/p"⟩ = true := rfl
  have found := Discovery.scanned_exports searched member shaped exports
    (Or.inl (Option.isNone_iff_eq_none.1 plain))
  exact ⟨found.1, missed⟩

namespace Discovery

variable {d : Discovery} {m : Module} {root : Path} {c : Candidate}

/-! ### Whatever is found is exported -/

theorem bound_of_shape {declaration : Node} (shaped : c ∈ d.shape m declaration) :
    c.name ∈ boundNames declaration ∨ d.pattern.isSome ∧ c.name ∈ signatureNames declaration := by
  have value {named : String × Node × Node} (inside : named ∈ namedValues declaration) :
      named.1 ∈ boundNames declaration := by
    unfold boundNames
    split
    · simp [namedValues] at inside
    · exact List.mem_map_of_mem inside
  cases pattern : d.pattern with
  | none =>
    have marked : c ∈ markedCandidates d.options m declaration := by
      simpa [shape, pattern] using shaped
    obtain ⟨named, inside, known⟩ := List.mem_filterMap.1 marked
    have same : c.name = named.1 := by
      simp only at known
      repeat' split at known
      all_goals simp_all
      all_goals rw [← known]
    exact Or.inl (same ▸ value inside)
  | some p =>
    have shaped : c ∈ functionCandidates d.options m declaration := by
      simpa [shape, pattern] using shaped
    cases declaration with | mk kind span ps =>
    by_cases function : kind = .functionDecl
    next =>
      subst function
      obtain ⟨name, own, rfl⟩ := List.mem_map.1 shaped
      by_cases spelled : ps.any (·.kind == .body) = true
      next => exact Or.inl (by simpa [boundNames, spelled] using own)
      next => exact Or.inr ⟨rfl, by simpa [signatureNames, spelled] using own⟩
    next =>
      rw [functionCandidates.eq_2 _ _ _ (by simpa using function)] at shaped
      obtain ⟨named, inside, known⟩ := List.mem_filterMap.1 shaped
      have same : c.name = named.1 := by
        simp only at known
        split at known <;> simp at known
        rw [← known]
      exact Or.inl (same ▸ value inside)

/-- Whatever a search finds is exported by the module under its name as a value that the module
declares and spells out, unless all that says so is an entry of a type or a function without a
body, which are gone once the types are. -/
theorem scanned_values {f : ServerFunction} (member : f ∈ (d.scan m root).values)
    (exports : (f.exportedName, f.localName) ∈ m.items.flatMap erasedExports →
      (f.exportedName, f.localName) ∈ m.items.flatMap valueExports)
    (spelled : f.localName ∈ m.items.flatMap (signatureNames ∘ topDeclaration) →
      f.localName ∈ m.items.flatMap (boundNames ∘ topDeclaration)) :
    (f.exportedName, f.localName) ∈ m.items.flatMap valueExports ∧
      f.localName ∈ m.items.flatMap (boundNames ∘ topDeclaration) := by
  obtain ⟨c, recorded, found⟩ := candidate_of_values member
  have same : f.localName = c.name := by rw [recorded]; rfl
  rw [same] at exports spelled ⊢
  obtain ⟨item, within, shaped, named⟩ := exports_of_candidate found
  constructor
  · have either : (f.exportedName, c.name) ∈ m.items.flatMap valueExports ∨
        (f.exportedName, c.name) ∈ m.items.flatMap erasedExports := by
      cases named with
      | inr listed => exact mem_listedExports listed
      | inl inline =>
        obtain ⟨decl, known⟩ := Option.isSome_iff_exists.1 inline.1
        rw [inline.2]
        have declares : c ∈ d.shape m decl := by simpa [topDeclaration, known] using shaped
        cases bound_of_shape declares with
        | inl bound =>
          have here : (c.name, c.name) ∈ inlineValues item := by simpa [inlineValues, known] using bound
          exact Or.inl (List.mem_flatMap.2 ⟨item, within, List.mem_append_left _ here⟩)
        | inr signature =>
          have here : (c.name, c.name) ∈ erasedExports item := by
            simp [erasedExports, known, signature.2]
          exact Or.inr (List.mem_flatMap.2 ⟨item, within, here⟩)
    cases either with
    | inl value => exact value
    | inr erased => exact exports erased
  · cases bound_of_shape shaped with
    | inl bound => exact List.mem_flatMap.2 ⟨item, within, bound⟩
    | inr signature => exact spelled (List.mem_flatMap.2 ⟨item, within, signature.2⟩)

end Discovery

-- A value beside one that an entry says is a type.
def Sample.typed : Source :=
  .of path ("import \x7b func \x7d from \"serverfn\"\nconst f = func(() => 1)\n" ++
    "export \x7b f, type f as g \x7d").toList
    (by decide +kernel)

/-- The search finds `f`, which is a value, and `g` as well, which is none. -/
theorem scanned_values_typed :
    let m := Sample.typed.module
    let found := ((Discovery.mk .standard none).scan m ⟨"/p"⟩).values
    (∃ f ∈ found, f.exportedName = "f" ∧
      (f.exportedName, f.localName) ∈ m.items.flatMap valueExports ∧
        f.localName ∈ m.items.flatMap (boundNames ∘ topDeclaration)) ∧
    ∃ g ∈ found, (g.exportedName, g.localName) ∉ m.items.flatMap valueExports := by
  intro m found
  obtain ⟨⟨f, member, name, value, bound⟩, other⟩ :
      (∃ f ∈ found, f.exportedName = "f" ∧
        ((f.exportedName, f.localName) ∈ m.items.flatMap erasedExports →
          (f.exportedName, f.localName) ∈ m.items.flatMap valueExports) ∧
        (f.localName ∈ m.items.flatMap (signatureNames ∘ topDeclaration) →
          f.localName ∈ m.items.flatMap (boundNames ∘ topDeclaration))) ∧
        ∃ g ∈ found, (g.exportedName, g.localName) ∉ m.items.flatMap valueExports := by
    decide +kernel
  exact ⟨⟨f, member, name, Discovery.scanned_values member value bound⟩, other⟩

-- A function that is only said to exist is found by the name of its file.
def Sample.ambient : Source :=
  .of Sample.path "export declare function f(): void".toList (by decide +kernel)

example :
    let m := Sample.ambient.module
    let d : Discovery := ⟨.standard, Pattern.compile? "\\.ts$"⟩
    (d.scan m ⟨"/p"⟩).values.map (·.localName) = ["f"] ∧
      m.items.flatMap (boundNames ∘ topDeclaration) = [] := by
  decide +kernel

end ServerLink
