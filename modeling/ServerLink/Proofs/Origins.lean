import Mathlib.Data.String.Basic
import ServerLink.Proofs.LocalNames
import ServerLink.Proofs.Searches

/-!
Where the functions of a registry are declared. An identifier is read apart into a name, a file and a
line, so that functions of one identifier are declared under one name on one line of files whose
paths read alike; what a search finds by a name is traced back to the tree that declares it.
-/

set_option autoImplicit false

namespace ServerLink

open Script Text

/-! ### Entries in order -/

namespace FunctionMap

-- The keys of a map stand in increasing order, so that each stands there once.
def Ascending (entries : List (String × ServerFunction)) : Prop :=
  entries.Pairwise fun a b => a.1 < b.1

theorem ascending_insertSorted (key : String) (f : ServerFunction)
    {entries : List (String × ServerFunction)} (ascending : Ascending entries) :
    Ascending (insertSorted key f entries) := by
  induction entries with
  | nil => simp [insertSorted, Ascending]
  | cons entry rest ih =>
    obtain ⟨k, g⟩ := entry
    obtain ⟨first, others⟩ := List.pairwise_cons.1 ascending
    by_cases before : key < k
    next =>
      have all : ∀ e ∈ (k, g) :: rest, key < e.1 := by
        intro e member
        cases List.mem_cons.1 member with
        | inl here => exact here ▸ before
        | inr later => exact lt_trans before (first e later)
      rw [insertSorted, if_pos before]
      exact List.pairwise_cons.2 ⟨all, ascending⟩
    next =>
      by_cases same : key = k
      next =>
        rw [insertSorted, if_neg before, if_pos same]
        exact List.pairwise_cons.2 ⟨fun e member => same ▸ first e member, others⟩
      next =>
        have behind : k < key := lt_of_le_of_ne (not_lt.1 before) (Ne.symm same)
        have all : ∀ e ∈ insertSorted key f rest, k < e.1 := by
          intro e member
          cases mem_insertSorted member with
          | inl new => exact new ▸ behind
          | inr old => exact first e old
        rw [insertSorted, if_neg before, if_neg same]
        exact List.pairwise_cons.2 ⟨all, ih others⟩

theorem ascending_ofList (entries : List (String × ServerFunction)) :
    Ascending (ofList entries).entries := by
  have fold (es : List (String × ServerFunction)) (m : FunctionMap) (start : Ascending m.entries) :
      Ascending (es.foldl (fun m e => m.insert e.1 e.2) m).entries := by
    induction es generalizing m with
    | nil => exact start
    | cons e es ih => exact ih (m.insert e.1 e.2) (ascending_insertSorted e.1 e.2 start)
  exact fold entries empty List.Pairwise.nil

theorem lookup_of_mem {entries : List (String × ServerFunction)} (ascending : Ascending entries)
    {key : String} {f : ServerFunction} (member : (key, f) ∈ entries) :
    entries.lookup key = some f := by
  induction entries with
  | nil => simp at member
  | cons entry rest ih =>
    obtain ⟨k, g⟩ := entry
    obtain ⟨first, others⟩ := List.pairwise_cons.1 ascending
    cases List.mem_cons.1 member with
    | inl here =>
      obtain ⟨rfl, rfl⟩ := Prod.mk.inj here
      simp
    | inr later =>
      have other : (key == k) = false := beq_false_of_ne (ne_of_gt (first _ later))
      rw [List.lookup_cons, other]
      exact ih others later

end FunctionMap

/-! ### What declares a candidate -/

namespace Discovery

variable {d : Discovery} {m : Module} {root : Path} {n : Node} {c : Candidate}

-- The candidates of a declaration, each with the tree that declares it: of several variables the
-- one, or the whole declaration.
def traced (d : Discovery) (m : Module) (declaration : Node) : List (Node × Candidate) :=
  match declaration with
  | .mk (.variables hoisted) span ds =>
      ds.flatMap fun n => (d.shape m (.mk (.variables hoisted) span [n])).map fun c => (n, c)
  | n => (d.shape m n).map fun c => (n, c)

theorem shape_variables (hoisted : Bool) (span : Span) (ds : List Node) :
    d.shape m (.mk (.variables hoisted) span ds) =
      ds.flatMap fun n => d.shape m (.mk (.variables hoisted) span [n]) := by
  cases pattern : d.pattern with
  | none =>
    simp only [shape, pattern, markedCandidates, namedValues]
    induction ds with
    | nil => rfl
    | cons n ds ih =>
      rw [List.flatMap_cons, ← ih, ← List.filterMap_append, ← List.filterMap_append]
      rfl
  | some p =>
    have literals (ns : List Node) := functionCandidates.eq_2 d.options m
      (.mk (.variables hoisted) span ns) (by simp)
    simp only [shape, pattern, literals, namedValues]
    induction ds with
    | nil => rfl
    | cons n ds ih =>
      rw [List.flatMap_cons, ← ih, ← List.filterMap_append, ← List.filterMap_append]
      rfl

theorem traced_candidates (d : Discovery) (m : Module) (declaration : Node) :
    (d.traced m declaration).map Prod.snd = d.shape m declaration := by
  obtain ⟨k, span, ps⟩ := declaration
  cases k with
  | «variables» hoisted =>
    rw [shape_variables]
    simp [traced, List.map_flatMap, Function.comp_def]
  | _ => simp [traced, Function.comp_def]

theorem namedValue?_itself {name : String} {declarator value : Node}
    (known : namedValue? n = some (name, declarator, value)) : declarator = n := by
  unfold namedValue? at known
  split at known
  · exact (Prod.mk.inj (Prod.mk.inj (Option.some.inj known)).2).1.symm
  · simp at known

theorem line_of_variable {hoisted : Bool} {span : Span}
    (found : c ∈ d.shape m (.mk (.variables hoisted) span [n])) : c.line = m.lineOf n := by
  have line {g : String × Node × Node → Option Candidate}
      (keeps : ∀ name declarator value, g (name, declarator, value) = some c →
        c.line = m.lineOf declarator)
      (inside : c ∈ (namedValues (.mk (.variables hoisted) span [n])).filterMap g) :
      c.line = m.lineOf n := by
    obtain ⟨⟨name, declarator, value⟩, named, made⟩ := List.mem_filterMap.1 inside
    obtain ⟨n', here, known⟩ := List.mem_filterMap.1 named
    obtain rfl := List.mem_singleton.1 here
    rw [keeps name declarator value made, namedValue?_itself known]
  cases pattern : d.pattern with
  | none =>
    rw [shape, pattern] at found
    apply line ?_ found
    intro name declarator value made
    simp only at made
    repeat' split at made
    all_goals first | exact Option.some.inj made ▸ rfl | simp at made
  | some p =>
    rw [shape, pattern] at found
    apply line ?_ found
    intro name declarator value made
    simp only at made
    split at made
    all_goals first | exact Option.some.inj made ▸ rfl | simp at made

theorem line_of_traced {declaration : Node} (found : (n, c) ∈ d.traced m declaration) :
    c.line = m.lineOf n := by
  obtain ⟨k, span, ps⟩ := declaration
  cases k with
  | «variables» hoisted =>
    obtain ⟨n', -, inside⟩ := List.mem_flatMap.1 found
    obtain ⟨c', shaped, pair⟩ := List.mem_map.1 inside
    obtain ⟨rfl, rfl⟩ := Prod.mk.inj pair
    exact line_of_variable shaped
  | functionDecl =>
    obtain ⟨c', shaped, pair⟩ := List.mem_map.1 found
    obtain ⟨rfl, rfl⟩ := Prod.mk.inj pair
    cases pattern : d.pattern with
    | none => simp [shape, pattern, markedCandidates, namedValues] at shaped
    | some p =>
      rw [shape, pattern] at shaped
      obtain ⟨name, -, rfl⟩ := List.mem_map.1 shaped
      rfl
  | _ =>
    cases pattern : d.pattern <;>
      simp [traced, shape, pattern, markedCandidates, functionCandidates, namedValues] at found

/-! ### Names and the trees behind them -/

def inlineOrigins (d : Discovery) (m : Module) : List (Node × Candidate) :=
  (m.items.filterMap exported?).flatMap (d.traced m)

def plainOrigins (d : Discovery) (m : Module) : List (Node × Candidate) :=
  m.items.flatMap (d.traced m)

/-- What the names mean that a module exports candidates by: those of declarations that are exported
where they stand, then those that lists give. -/
def origins (d : Discovery) (m : Module) : List (String × Node × Candidate) :=
  (d.inlineOrigins m).map (fun origin => (origin.2.name, origin)) ++
    (listedExports m.items).filterMap fun (exported, name) =>
      ((d.plainOrigins m).reverse.find? (·.2.name == name)).map fun origin => (exported, origin)

-- The tree that is exported by a name. Of several, the last one that is exported so.
def origin? (d : Discovery) (m : Module) (exported : String) : Option (Node × Candidate) :=
  ((d.origins m).reverse.find? (·.1 == exported)).map Prod.snd

theorem origins_candidates (d : Discovery) (m : Module) :
    (d.origins m).map (fun origin => (origin.1, origin.2.2)) =
      exportedCandidates m.items (d.shape m) := by
  have candidates (items : List Node) :
      (items.flatMap (d.traced m)).map Prod.snd = items.flatMap (d.shape m) := by
    simp only [List.map_flatMap, traced_candidates]
  have last (name : String) : (m.items.flatMap (d.shape m)).reverse.find? (·.name == name) =
      ((d.plainOrigins m).reverse.find? (·.2.name == name)).map Prod.snd := by
    rw [← candidates, ← List.map_reverse, List.find?_map]
    rfl
  simp only [exportedCandidates, last]
  simp only [origins, inlineOrigins, ← candidates, List.map_append, List.map_map,
    List.map_filterMap, Option.map_map]
  rfl

-- What a search finds by a name is the record of what the name is traced back to.
theorem scan_get?_eq (searched : d.searches m root = true) (exported : String) :
    (d.scan m root).get? exported =
      (d.origin? m exported).map fun origin => record m root exported origin.2 := by
  have entries : (d.candidates m (Path.idPath root m.path)).map (fun entry =>
        (entry.1, record m root entry.1 entry.2)) =
      (d.origins m).map fun origin => (origin.1, record m root origin.1 origin.2.2) := by
    rw [candidates_eq searched, ← origins_candidates, List.map_map]
    rfl
  rw [scan_eq, entries, FunctionMap.get?_ofList, origin?, ← List.map_reverse, List.find?_map]
  simp only [Option.map_map, Function.comp_def]
  cases found : (d.origins m).reverse.find? (·.1 == exported) with
  | none => rfl
  | some origin =>
    have same : origin.1 = exported := by simpa using List.find?_some found
    simp only [Option.map_some, same]

theorem mem_origins_of_origin? {exported : String} (known : d.origin? m exported = some (n, c)) :
    (exported, n, c) ∈ d.origins m := by
  obtain ⟨⟨name, origin⟩, found, rfl⟩ := Option.map_eq_some_iff.1 known
  have same : name = exported := by simpa using List.find?_some found
  exact same ▸ List.mem_reverse.1 (List.mem_of_find?_eq_some found)

/-- A name is traced back to what is exported by it where it is declared, or to the last plain
declaration of the name a list gives to it. -/
theorem origin?_cases {exported : String} (known : d.origin? m exported = some (n, c)) :
    (exported = c.name ∧ (n, c) ∈ d.inlineOrigins m) ∨
      (d.plainOrigins m).reverse.find? (·.2.name == c.name) = some (n, c) := by
  cases List.mem_append.1 (mem_origins_of_origin? known) with
  | inl inline =>
    obtain ⟨origin, declared, pair⟩ := List.mem_map.1 inline
    obtain ⟨rfl, rfl⟩ := Prod.mk.inj pair
    exact Or.inl ⟨rfl, declared⟩
  | inr listed =>
    obtain ⟨⟨exported', name⟩, entry, found⟩ := List.mem_filterMap.1 listed
    obtain ⟨origin, last, pair⟩ := Option.map_eq_some_iff.1 found
    obtain ⟨rfl, rfl⟩ := Prod.mk.inj pair
    have same : c.name = name := by simpa using List.find?_some last
    subst same
    exact Or.inr last

theorem mem_plainOrigins_of_last {name : String}
    (last : (d.plainOrigins m).reverse.find? (·.2.name == name) = some (n, c)) :
    (n, c) ∈ d.plainOrigins m :=
  List.mem_reverse.1 (List.mem_of_find?_eq_some last)

/-- The trees declare one name on one line, one of them where it is exported and the other one apart
from exports. -/
def Redeclares (d : Discovery) (m : Module) (a b : Node × Candidate) : Prop :=
  a.2.name = b.2.name ∧ m.lineOf a.1 = m.lineOf b.1 ∧
    ((a ∈ d.inlineOrigins m ∧ b ∈ d.plainOrigins m) ∨
      (a ∈ d.plainOrigins m ∧ b ∈ d.inlineOrigins m))

theorem line_of_origin? {exported : String} (known : d.origin? m exported = some (n, c)) :
    c.line = m.lineOf n := by
  have traced : ∃ declaration, (n, c) ∈ d.traced m declaration := by
    cases origin?_cases known with
    | inl inline =>
      obtain ⟨declaration, -, found⟩ := List.mem_flatMap.1 inline.2
      exact ⟨declaration, found⟩
    | inr last =>
      obtain ⟨declaration, -, found⟩ := List.mem_flatMap.1 (mem_plainOrigins_of_last last)
      exact ⟨declaration, found⟩
  obtain ⟨declaration, found⟩ := traced
  exact line_of_traced found

/-- Of one name on one line a module exports one declaration, unless one is exported where it stands
and the other one by a list. -/
theorem origin?_unique {exported exported' : String} {n' : Node} {c' : Candidate}
    (known : d.origin? m exported = some (n, c)) (known' : d.origin? m exported' = some (n', c'))
    (name : c.name = c'.name) (line : c.line = c'.line) :
    (n, c) = (n', c') ∨ d.Redeclares m (n, c) (n', c') := by
  have lines : m.lineOf n = m.lineOf n' := by
    rw [← line_of_origin? known, ← line_of_origin? known', line]
  cases origin?_cases known with
  | inl inline =>
    cases origin?_cases known' with
    | inl inline' =>
      -- both are exported by the name that they are declared under
      rw [inline.1, name, ← inline'.1, known'] at known
      exact Or.inl (Option.some.inj known).symm
    | inr last' =>
      exact Or.inr ⟨name, lines, Or.inl ⟨inline.2, mem_plainOrigins_of_last last'⟩⟩
  | inr last =>
    cases origin?_cases known' with
    | inl inline' =>
      exact Or.inr ⟨name, lines, Or.inr ⟨mem_plainOrigins_of_last last, inline'.2⟩⟩
    | inr last' =>
      rw [name, last'] at last
      exact Or.inl (Option.some.inj last).symm

end Discovery

/-! ### Files that read alike -/

namespace Path

-- The text of a path with slashes in the place of backslashes.
def slashed (p : Path) : List Char := p.text.toList.map fun c => if c = '\\' then '/' else c

theorem dropPieces_names {place names : List String}
    (proper : ∀ name ∈ place ++ names, FileTree.IsName name) :
    dropPieces place.length ((place ++ names).map String.toList) = names.map String.toList := by
  induction place with
  | nil =>
    cases names with
    | nil => rfl
    | cons name names =>
      have step := (proper name (by simp)).componentOf
      simp [dropPieces, step]
  | cons name place ih =>
    have step := (proper name (by simp)).componentOf
    have rest := ih fun other member => proper other (List.mem_cons_of_mem _ member)
    simpa [dropPieces, step] using rest

theorem trimPieces_names {names : List String} (proper : ∀ name ∈ names, FileTree.IsName name) :
    trimPieces (names.map String.toList) = names.map String.toList := by
  have steps : ∀ piece ∈ (names.map String.toList).reverse, (componentOf piece).isNone = false := by
    intro piece member
    obtain ⟨name, here, rfl⟩ := List.mem_map.1 (List.mem_reverse.1 member)
    simp [(proper name here).componentOf]
  have kept : (names.map String.toList).reverse.dropWhile (fun p => (componentOf p).isNone) =
      (names.map String.toList).reverse := by
    cases pieces : (names.map String.toList).reverse with
    | nil => rfl
    | cons piece rest => exact List.dropWhile_cons_of_neg (by simp [steps piece (by simp [pieces])])
  rw [trimPieces, kept, List.reverse_reverse]

theorem slash_intercalate {pieces : List (List Char)} (some : pieces ≠ []) :
    '/' :: ['/'].intercalate pieces = pieces.flatMap fun piece => '/' :: piece := by
  induction pieces with
  | nil => exact absurd rfl some
  | cons piece rest ih =>
    cases rest with
    | nil => simp
    | cons next rest =>
      rw [List.intercalate_cons_cons, List.flatMap_cons, ← ih (by simp)]
      simp

end Path

section Spelled

open FileTree

variable {place names : List String} (proper : ∀ name ∈ place ++ names, IsName name)
  (inside : place ++ names ≠ [])

include proper inside

theorem below?_pathOf_text : (pathOf (place ++ names)).below? (pathOf place) =
    some ⟨String.ofList (['/'].intercalate (names.map String.toList))⟩ := by
  have above : ∀ name ∈ place, IsName name := fun name member =>
    proper name (List.mem_append_left _ member)
  have behind : ∀ name ∈ names, IsName name := fun name member =>
    proper name (List.mem_append_right _ member)
  have root : Path.isStep .root = false := rfl
  have steps : (((pathOf place).components.filter fun c => c != .root && c != .here)).length =
      place.length := by
    have named : (place.map Component.name).filter (fun c => c != .root && c != .here) =
        place.map .name := filter_isStep_names place
    rw [components_pathOf_names above, List.filter_cons_of_neg (by simp), named, List.length_map]
  have rest : Path.dropPieces place.length (Path.pieces (pathOf (place ++ names)).text.toList []) =
      names.map String.toList := by
    have empty : (Path.componentOf []).isNone = true := rfl
    rw [pieces_pathOf proper inside, Path.dropPieces.eq_def]
    simpa [empty] using Path.dropPieces_names proper
  have starts : (pathOf place).components.isPrefixOf (pathOf (place ++ names)).components = true := by
    rw [components_pathOf_names above, components_pathOf_names proper]
    simp [List.isPrefixOf_iff_prefix]
  have absolute : (pathOf place).components.isEmpty = false := by
    simp [components_pathOf_names above]
  simp only [Path.below?, starts, steps, rest, absolute, Path.trimPieces_names behind, if_true,
    Bool.false_and, Bool.false_eq_true, if_false]

-- Up to slashes a path below the root is told by the root and by what identifiers hold of it.
theorem slashed_pathOf :
    (pathOf (place ++ names)).slashed =
      (place.flatMap fun name => '/' :: name.toList).map (fun c => if c = '\\' then '/' else c) ++
        (let rest := (Path.idPath (pathOf place) (pathOf (place ++ names))).toList
        if rest = [] then [] else '/' :: rest) := by
  have text : (pathOf (place ++ names)).text.toList =
      (place ++ names).flatMap fun name => '/' :: name.toList := by
    rw [toList_pathOf, Path.slash_intercalate (by simpa using inside), List.flatMap_map]
  have rest : (Path.idPath (pathOf place) (pathOf (place ++ names))).toList =
      (['/'].intercalate (names.map String.toList)).map fun c => if c = '\\' then '/' else c := by
    simp [Path.idPath, below?_pathOf_text proper inside]
  rw [Path.slashed, text, List.flatMap_append, List.map_append, rest]
  cases names with
  | nil => simp
  | cons name names =>
    have filled : ['/'].intercalate ((name :: names).map String.toList) ≠ [] := by
      have first : name.toList ≠ [] := by simpa using (proper name (by simp)).nonempty
      cases names <;> simp [List.intercalate_cons_cons, first]
    have slash := @Path.slash_intercalate ((name :: names).map String.toList) (by simp)
    rw [List.flatMap_map] at slash
    simp only [List.map_eq_nil_iff, filled, if_false, ← slash]
    rfl

end Spelled

/-! ### Functions of one identifier -/

-- The entries of a registry, file by file.
def Registry.functions (r : Registry) : List ServerFunction :=
  r.files.flatMap fun file => file.2.values

namespace Discovery

variable {d : Discovery} {t : FileTree} {root : Path} {r : Registry} {f g : ServerFunction}

-- The function is what is recorded of this tree in this module, which its file holds.
structure Declares (d : Discovery) (t : FileTree) (root : Path) (f : ServerFunction) (m : Module)
    (n : Node) (c : Candidate) : Prop where
  parsed : ∃ text, t.read f.sourceFile = .ok text ∧ Module.parse f.sourceFile text = .ok m
  origin : d.origin? m f.exportedName = some (n, c)
  recorded : f = record m root f.exportedName c

/-- The functions are declared under one name on one line of files that read alike; in one file they
are of one declaration, or the file declares the name twice. -/
structure DeclaredAlike (d : Discovery) (t : FileTree) (root : Path) (f g : ServerFunction) :
    Prop where
  name : f.localName = g.localName
  file : Path.idPath root f.sourceFile = Path.idPath root g.sourceFile
  path : f.sourceFile.slashed = g.sourceFile.slashed
  declared : ∃ m n c m' n' c', d.Declares t root f m n c ∧ d.Declares t root g m' n' c' ∧
    m.lineOf n = m'.lineOf n' ∧ (f.sourceFile = g.sourceFile →
      m = m' ∧ ((n, c) = (n', c') ∨ d.Redeclares m (n, c) (n', c')))

theorem origin_of_values {m : Module} (own : f ∈ (d.scan m root).values) :
    ∃ n c, d.origin? m f.exportedName = some (n, c) ∧ f = record m root f.exportedName c := by
  obtain ⟨⟨key, g⟩, entry, rfl⟩ := List.mem_map.1 own
  obtain ⟨⟨exported, c⟩, found, same⟩ := List.mem_map.1 (FunctionMap.mem_ofList entry)
  obtain ⟨rfl, rfl⟩ := Prod.mk.inj same
  have got := FunctionMap.lookup_of_mem (FunctionMap.ascending_ofList _) entry
  by_cases searched : d.searches m root = true
  next =>
    have traced := scan_get?_eq searched exported
    rw [show (d.scan m root).get? exported = _ from got] at traced
    obtain ⟨⟨n, c'⟩, origin, same⟩ := Option.map_eq_some_iff.1 traced.symm
    exact ⟨n, c', origin, same.symm⟩
  next =>
    rw [candidates_of_unsearched (by simpa using searched)] at found
    simp at found

theorem declares_of_functions (valid : t.Valid) (built : d.build t root = .ok r)
    (member : f ∈ r.functions) :
    IsWord f.localName ∧ (∃ m n c, d.Declares t r.root f m n c) ∧
      ∀ place, t.locate root = .ok place → ∃ names, f.sourceFile = FileTree.pathOf (place ++ names) ∧
        (∀ name ∈ place ++ names, FileTree.IsName name) ∧ place ++ names ≠ [] := by
  obtain ⟨⟨q, functions⟩, known, own⟩ := List.mem_flatMap.1 member
  obtain ⟨text, m, -, read, parsed, rfl, -, -⟩ := recorded_file valid built known
  have source : f.sourceFile = q := by
    rw [sourceFile_of_scan own, Module.parse_path parsed]
  refine ⟨isWord_of_scan parsed own, ?_, fun place located => ?_⟩
  · obtain ⟨n, c, origin, same⟩ := origin_of_values own
    exact ⟨m, n, c, ⟨text, source ▸ read, source ▸ parsed⟩, origin, same⟩
  · have walked := ((mem_files_iff valid located built).1 known).1
    obtain ⟨names, content, found, rfl, -⟩ := (valid.mem_sources _).1 walked
    exact ⟨names, source, valid.names_of_file found, FileTree.Valid.ne_nil_of_file found⟩

theorem slashed_of_functions (valid : t.Valid) (built : d.build t root = .ok r)
    (left : f ∈ r.functions) (right : g ∈ r.functions)
    (same : Path.idPath r.root f.sourceFile = Path.idPath r.root g.sourceFile) :
    f.sourceFile.slashed = g.sourceFile.slashed := by
  cases located : t.locate root with
  | error cause => simp [build, located] at built
  | ok place =>
    obtain ⟨names, path, proper, inside⟩ := (declares_of_functions valid built left).2.2 place located
    obtain ⟨names', path', proper', inside'⟩ :=
      (declares_of_functions valid built right).2.2 place located
    rw [root_of_built located built, path, path'] at same
    rw [path, path', slashed_pathOf proper inside, slashed_pathOf proper' inside', same]

theorem declaredAlike_of_id (valid : t.Valid) (built : d.build t root = .ok r)
    (left : f ∈ r.functions) (right : g ∈ r.functions) (same : f.id = g.id) :
    d.DeclaredAlike t r.root f g := by
  obtain ⟨word, ⟨m, n, c, declares⟩, -⟩ := declares_of_functions valid built left
  obtain ⟨word', ⟨m', n', c', declares'⟩, -⟩ := declares_of_functions valid built right
  have file : m.path = f.sourceFile := (congrArg ServerFunction.sourceFile declares.recorded).symm
  have file' : m'.path = g.sourceFile :=
    (congrArg ServerFunction.sourceFile declares'.recorded).symm
  have local_ : f.localName = c.name := congrArg ServerFunction.localName declares.recorded
  have local' : g.localName = c'.name := congrArg ServerFunction.localName declares'.recorded
  have id : f.id = functionId f.localName (Path.idPath r.root f.sourceFile) c.line := by
    rw [local_, ← file]
    exact congrArg ServerFunction.id declares.recorded
  have id' : g.id = functionId g.localName (Path.idPath r.root g.sourceFile) c'.line := by
    rw [local', ← file']
    exact congrArg ServerFunction.id declares'.recorded
  rw [id, id'] at same
  obtain ⟨name, paths, lines⟩ := functionId_inj word word' same
  refine ⟨name, paths, slashed_of_functions valid built left right paths, m, n, c, m', n', c',
    declares, declares', ?_, fun one => ?_⟩
  · rw [← line_of_origin? declares.origin, lines, line_of_origin? declares'.origin]
  · obtain ⟨text, read, parsed⟩ := declares.parsed
    obtain ⟨text', read', parsed'⟩ := declares'.parsed
    rw [← one] at read' parsed'
    obtain rfl := Except.ok.inj (read.symm.trans read')
    obtain rfl := Except.ok.inj (parsed.symm.trans parsed')
    exact ⟨rfl, origin?_unique declares.origin declares'.origin (local_ ▸ local' ▸ name) lines⟩

/-- An identifier tells functions apart. Functions that share one are declared under one name on one
line of files whose paths read alike, and in one file they are of one declaration, unless the file
declares the name twice on that line, once where it exports it and once apart from exports. The
function that is found by the identifier of an entry is related so to the entry. -/
theorem functions_of_one_id (valid : t.Valid) (built : d.build t root = .ok r) :
    (∀ f ∈ r.functions, ∀ g ∈ r.functions, f.id = g.id → d.DeclaredAlike t r.root f g) ∧
      ∀ g ∈ r.functions, ∃ f ∈ r.functions, r.findById? g.id = some f ∧ f.id = g.id ∧
        d.DeclaredAlike t r.root f g := by
  refine ⟨fun f left g right same => declaredAlike_of_id valid built left right same,
    fun g known => ?_⟩
  obtain ⟨f, found⟩ : ∃ f, r.findById? g.id = some f := by
    apply Option.isSome_iff_exists.1
    rw [Registry.findById?, List.find?_isSome]
    exact ⟨g, known, by simp⟩
  have member : f ∈ r.functions := List.mem_of_find?_eq_some found
  have same : f.id = g.id := by simpa using List.find?_some found
  exact ⟨f, member, found, same, declaredAlike_of_id valid built member known same⟩

end Discovery

namespace Sample

-- A variable that is declared twice on one line, with an export of each.
def redeclared : Source :=
  .of path ("import \x7b func, type Context \x7d from \"serverfn\"\n" ++
    "export var f = func(() => 1); var f = func((c: Context) => 2); export \x7b f as g \x7d").toList
    (by decide +kernel)

def redeclaredProject : FileTree :=
  ⟨[(["p"], .directory), (["p", "a.ts"], .file (String.ofList redeclared.text).toUTF8)]⟩

def redeclaredRegistry : Registry :=
  (Registry.empty ⟨"/p"⟩).insert path ((Discovery.mk .standard none).scan redeclared.module ⟨"/p"⟩)

theorem redeclaredProject_valid : redeclaredProject.Valid :=
  FileTree.valid_of_isValid (by decide +kernel)

theorem redeclaredProject_built :
    (Discovery.mk .standard none).build redeclaredProject ⟨"/p"⟩ = .ok redeclaredRegistry := by
  have located : redeclaredProject.locate ⟨"/p"⟩ = .ok ["p"] := by
    have steps : FileTree.stepsOf ⟨"/p"⟩ = ["", "p"] := by decide
    have top : redeclaredProject.entryAt? ["p"] = some .directory := rfl
    have root : redeclaredProject.entryAt? [] = some .directory := rfl
    simp [FileTree.locate, FileTree.walk, FileTree.walk.go, steps, top, root, Path.isAbsolute]
  have entry : redeclaredProject.entryAt? ["p", "a.ts"] =
      some (.file (String.ofList redeclared.text).toUTF8) := rfl
  have read : redeclaredProject.read path = .ok redeclared.text :=
    redeclaredProject_valid.read_text entry
  have parsed : Module.parse path redeclared.text = .ok redeclared.module := redeclared.parsed
  have sources : redeclaredProject.sources .standard ["p"] = [path] := by decide +kernel
  have scanned : (Discovery.mk .standard none).scanFile redeclaredProject ⟨"/p"⟩ path =
      (Discovery.mk .standard none).scan redeclared.module ⟨"/p"⟩ := by
    simp only [Discovery.scanFile, read, bind, Except.bind, parsed]
  simp only [Discovery.build, located, sources, List.foldl_cons, List.foldl_nil]
  exact congrArg _ (congrArg _ scanned)

end Sample

theorem functions_of_one_id_redeclared :
    ∃ f ∈ Sample.redeclaredRegistry.functions, ∃ g ∈ Sample.redeclaredRegistry.functions,
      f ≠ g ∧ f.id = g.id ∧
        (Discovery.mk .standard none).DeclaredAlike Sample.redeclaredProject ⟨"/p"⟩ f g := by
  obtain ⟨f, left, g, right, apart, same⟩ : ∃ f ∈ Sample.redeclaredRegistry.functions,
      ∃ g ∈ Sample.redeclaredRegistry.functions, f ≠ g ∧ f.id = g.id := by
    decide +kernel
  have top : Sample.redeclaredRegistry.root = ⟨"/p"⟩ := Registry.root_insert _ _ _
  have alike := (Discovery.functions_of_one_id Sample.redeclaredProject_valid
    Sample.redeclaredProject_built).1 f left g right same
  exact ⟨f, left, g, right, apart, same, top ▸ alike⟩

/-- Two declarations of one file may share an identifier: only one of these functions wants the
context. -/
theorem one_id_of_two_declarations :
    let d : Discovery := ⟨.standard, none⟩
    d.build Sample.redeclaredProject ⟨"/p"⟩ = .ok Sample.redeclaredRegistry ∧
      ∃ f ∈ Sample.redeclaredRegistry.functions, ∃ g ∈ Sample.redeclaredRegistry.functions,
        f.id = g.id ∧ f.sourceFile = g.sourceFile ∧ f.requiresContext ≠ g.requiresContext ∧
          (d.origin? Sample.redeclared.module f.exportedName).map (·.1.start) ≠
            (d.origin? Sample.redeclared.module g.exportedName).map (·.1.start) :=
  ⟨Sample.redeclaredProject_built, by decide +kernel⟩

end ServerLink
