import ServerLink.Build

/-!
Places and their paths. In a tree whose entries have proper names and stand in directories, the
path of a place leads to that place and to no other; so a path is canonical when it is the path of
a place that holds a file.
-/

set_option autoImplicit false

namespace ServerLink

namespace Path

theorem pieces_name {name : List Char} (plain : '/' ∉ name) (acc : List Char) :
    pieces name acc = [acc.reverse ++ name] := by
  induction name generalizing acc with
  | nil => simp [pieces]
  | cons c cs ih =>
    simp only [List.mem_cons, not_or] at plain
    have other : c ≠ '/' := fun same => plain.1 same.symm
    simp [pieces, other, ih plain.2]

theorem pieces_slash {name : List Char} (plain : '/' ∉ name) (rest acc : List Char) :
    pieces (name ++ '/' :: rest) acc = (acc.reverse ++ name) :: pieces rest [] := by
  induction name generalizing acc with
  | nil => simp [pieces]
  | cons c cs ih =>
    simp only [List.mem_cons, not_or] at plain
    have other : c ≠ '/' := fun same => plain.1 same.symm
    simp [pieces, other, ih plain.2]

theorem not_mem_pieces {cs acc piece : List Char} (plain : '/' ∉ acc)
    (member : piece ∈ pieces cs acc) : '/' ∉ piece := by
  induction cs generalizing acc with
  | nil =>
    obtain rfl : piece = acc.reverse := by simpa [pieces] using member
    simpa using plain
  | cons c cs ih =>
    by_cases slash : c = '/'
    · simp only [pieces, slash, if_true, List.mem_cons] at member
      rcases member with rfl | later
      · simpa using plain
      · exact ih (by simp) later
    · simp only [pieces, slash, if_false] at member
      exact ih (by simp [plain, Ne.symm slash]) member

-- Names with slashes between them are the pieces of the text they make.
theorem pieces_intercalate {names : List (List Char)} (plain : ∀ name ∈ names, '/' ∉ name)
    (some : names ≠ []) : pieces (['/'].intercalate names) [] = names := by
  induction names with
  | nil => exact absurd rfl some
  | cons name names ih =>
    have first := plain name (by simp)
    cases names with
    | nil => simpa using pieces_name first []
    | cons next names =>
      have rest := ih (fun n member => plain n (List.mem_cons_of_mem _ member)) (by simp)
      rw [List.intercalate_cons_cons]
      have tail := pieces_slash first (['/'].intercalate (next :: names)) []
      simpa [rest] using tail

end Path

namespace FileTree

/-- The text can name something in a directory. -/
structure IsName (name : String) : Prop where
  nonempty : name ≠ ""
  here : name ≠ "."
  up : name ≠ ".."
  plain : '/' ∉ name.toList

/-- Every place has one entry, with proper names and in a directory. -/
structure Valid (t : FileTree) : Prop where
  unique : (t.entries.map Prod.fst).Nodup
  names : ∀ entry ∈ t.entries, ∀ name ∈ entry.1, IsName name
  parents : ∀ entry ∈ t.entries, ∀ above below, entry.1 = above ++ below → below ≠ [] →
    t.entryAt? above = some .directory

instance (name : String) : Decidable (IsName name) :=
  decidable_of_iff (name ≠ "" ∧ name ≠ "." ∧ name ≠ ".." ∧ '/' ∉ name.toList)
    ⟨fun ⟨nonempty, here, up, plain⟩ => ⟨nonempty, here, up, plain⟩,
      fun ⟨nonempty, here, up, plain⟩ => ⟨nonempty, here, up, plain⟩⟩

def isDirectoryAt (t : FileTree) (place : List String) : Bool :=
  match t.entryAt? place with
  | some .directory => true
  | _ => false

/-- Validity is a matter of the entries that there are, so it can be computed. -/
def isValid (t : FileTree) : Bool :=
  decide (t.entries.map Prod.fst).Nodup &&
    t.entries.all fun entry =>
      entry.1.all (fun name => decide (IsName name)) &&
        (List.range entry.1.length).all fun n => t.isDirectoryAt (entry.1.take n)

theorem valid_of_isValid {t : FileTree} (checked : t.isValid = true) : t.Valid := by
  simp only [isValid, Bool.and_eq_true, decide_eq_true_eq, List.all_eq_true, List.mem_range] at checked
  obtain ⟨unique, entries⟩ := checked
  refine ⟨unique, fun entry member => (entries entry member).1, ?_⟩
  intro entry member above below parts some
  have shorter : above.length < entry.1.length := by
    have := List.length_pos_iff.2 some
    rw [parts, List.length_append]
    omega
  have open' := (entries entry member).2 above.length shorter
  rw [parts, List.take_left, isDirectoryAt] at open'
  split at open'
  · next directory => exact directory
  · simp at open'

theorem toList_pathOf (place : List String) :
    (pathOf place).text.toList = '/' :: ['/'].intercalate (place.map String.toList) := by
  simp [pathOf, String.toList_intercalate]

theorem IsName.componentOf {name : String} (h : IsName name) :
    Path.componentOf name.toList = some (Component.name name) := by
  have nonempty : name.toList ≠ [] := by simpa using h.nonempty
  have dot : name.toList ≠ ['.'] := fun same => h.here (String.toList_inj.1 same)
  have dots : name.toList ≠ ['.', '.'] := fun same => h.up (String.toList_inj.1 same)
  simp [Path.componentOf, nonempty, dot, dots]

section Paths

variable {place : List String} (names : ∀ name ∈ place, IsName name) (inside : place ≠ [])

include names inside

theorem pieces_pathOf :
    Path.pieces (pathOf place).text.toList [] = [] :: place.map String.toList := by
  have plain : ∀ name ∈ place.map String.toList, '/' ∉ name := by
    intro name member
    obtain ⟨s, here, rfl⟩ := List.mem_map.1 member
    exact (names s here).plain
  have cut := Path.pieces_intercalate plain (by simpa using inside)
  simp [toList_pathOf, Path.pieces, cut]

-- The steps of the path of a place are its names.
theorem stepsOf_pathOf : stepsOf (pathOf place) = "" :: place := by
  simp [stepsOf, pieces_pathOf names inside]

-- The components of the path of a place are its names.
theorem components_pathOf : (pathOf place).components = .root :: place.map .name := by
  have head : (pathOf place).text.toList.head? = Option.some '/' := by simp [toList_pathOf]
  have named : (place.map String.toList).filterMap Path.componentOf = place.map .name := by
    clear head
    induction place with
    | nil => rfl
    | cons name place ih =>
      have first := (names name (by simp)).componentOf
      cases place with
      | nil => simp [first]
      | cons next place =>
        have rest := ih (fun n member => names n (List.mem_cons_of_mem _ member)) (by simp)
        rw [List.map_cons, List.filterMap_cons, first, rest]
        rfl
  have empty : Path.componentOf [] = none := rfl
  simp [Path.components, head, pieces_pathOf names inside, named, empty]

end Paths

-- Places with the same path are the same.
theorem pathOf_same {place other : List String} (names : ∀ name ∈ place, IsName name)
    (inside : place ≠ []) (names' : ∀ name ∈ other, IsName name) (inside' : other ≠ [])
    (same : (pathOf place).same (pathOf other) = true) : place = other := by
  simp only [Path.same, components_pathOf names inside, components_pathOf names' inside',
    beq_iff_eq, List.cons.injEq, true_and] at same
  exact (List.map_inj_right fun a b h => by simpa using h).1 same

/-! ### Following paths -/

-- Names that lead through directories lead where they say.
theorem go_names (t : FileTree) (links : Nat) {above below : List String}
    (names : ∀ name ∈ below, IsName name)
    (open' : ∀ xs ys, below = xs ++ ys → ys ≠ [] → t.entryAt? (above ++ xs) = some .directory)
    (ends : below ≠ [] → ∃ e, t.entryAt? (above ++ below) = some e ∧ ∀ target, e ≠ .link target) :
    walk.go t links above below = .ok (above ++ below) := by
  induction below generalizing above with
  | nil => simp [walk.go]
  | cons step below ih =>
    have name := names step (by simp)
    have directory : t.entryAt? above = some .directory := by
      simpa using open' [] (step :: below) rfl (by simp)
    have rest : walk.go t links (above ++ [step]) below = .ok (above ++ step :: below) := by
      have inner := @ih (above ++ [step])
        (fun n member => names n (List.mem_cons_of_mem _ member))
        (fun xs ys parts more => by
          simpa using open' (step :: xs) ys (by simp [parts]) more)
        (fun _ => by simpa using ends (by simp))
      simpa using inner
    have next : ∃ e, t.entryAt? (above ++ [step]) = some e ∧ ∀ target, e ≠ .link target := by
      cases below with
      | nil => simpa using ends (by simp)
      | cons other below =>
        exact ⟨.directory, by simpa using open' [step] (other :: below) rfl (by simp), by simp⟩
    obtain ⟨e, found, noLink⟩ := next
    have here : (step == "" || step == ".") = false := by
      simp [name.nonempty, name.here]
    have up : (step == "..") = false := by simp [name.up]
    cases e with
    | link target => exact absurd rfl (noLink target)
    | file content => simp [walk.go, directory, here, up, found, rest]
    | directory => simp [walk.go, directory, here, up, found, rest]

theorem not_slash_of_stepsOf {p : Path} {step : String} (member : step ∈ stepsOf p) :
    '/' ∉ step.toList := by
  obtain ⟨piece, here, rfl⟩ := List.mem_map.1 member
  simpa using Path.not_mem_pieces (by simp) here

-- Whatever is followed, what it leads to has a proper name at every step.
theorem names_of_walk (t : FileTree) {links : Nat} {place steps result : List String}
    (names : ∀ name ∈ place, IsName name) (plain : ∀ step ∈ steps, '/' ∉ step.toList)
    (walked : t.walk links place steps = .ok result) : ∀ name ∈ result, IsName name := by
  induction links generalizing place steps with
  | zero => simp [walk] at walked
  | succ links follow =>
    have go (steps : List String) : ∀ place, (∀ name ∈ place, IsName name) →
        (∀ step ∈ steps, '/' ∉ step.toList) → walk.go t links place steps = .ok result →
        ∀ name ∈ result, IsName name := by
      induction steps with
      | nil =>
        intro place names _ walked
        obtain rfl : place = result := by simpa [walk.go] using walked
        exact names
      | cons step rest ih =>
        intro place names plain walked
        have later : ∀ s ∈ rest, '/' ∉ s.toList := fun s h => plain s (List.mem_cons_of_mem _ h)
        unfold walk.go at walked
        split at walked
        · split at walked
          · exact ih place names later walked
          · next moves =>
            split at walked
            · exact ih _ (fun n h => names n (List.dropLast_subset _ h)) later walked
            · next forward =>
              have proper : IsName step := by
                simp only [Bool.or_eq_true, beq_iff_eq, not_or] at moves forward
                exact ⟨moves.1, moves.2, forward, plain step (by simp)⟩
              have names' : ∀ name ∈ place ++ [step], IsName name := by
                intro name member
                rcases List.mem_append.1 member with above | last
                · exact names name above
                · obtain rfl := List.mem_singleton.1 last
                  exact proper
              simp only at walked
              split at walked
              · simp at walked
              · next target found =>
                refine follow ?_ ?_ walked
                · split
                  · simp
                  · exact names
                · intro s member
                  rcases List.mem_append.1 member with linked | behind
                  · exact not_slash_of_stepsOf linked
                  · exact later s behind
              · exact ih _ names' later walked
        · simp at walked
    exact go steps place names plain (by simpa only [walk] using walked)

theorem names_of_locate {t : FileTree} {p : Path} {place : List String}
    (located : t.locate p = .ok place) : ∀ name ∈ place, IsName name := by
  unfold locate at located
  split at located
  · exact names_of_walk t (by simp) (fun step => not_slash_of_stepsOf) located
  · simp at located

/-- Two trees hold the same, except that files may hold other texts. -/
def SameShape (t t' : FileTree) : Prop :=
  ∀ place, t'.entryAt? place = t.entryAt? place ∨
    ∃ content content', t.entryAt? place = some (.file content) ∧
      t'.entryAt? place = some (.file content')

-- What files hold does not change where a path leads.
theorem SameShape.walk_eq {t t' : FileTree} (same : SameShape t t') (links : Nat)
    (place steps : List String) : t'.walk links place steps = t.walk links place steps := by
  induction links generalizing place steps with
  | zero => simp [walk]
  | succ links follow =>
    have go (steps : List String) : ∀ place,
        walk.go t' links place steps = walk.go t links place steps := by
      induction steps with
      | nil => simp [walk.go]
      | cons step rest ih =>
        intro place
        rcases same place with here | ⟨content, content', here, here'⟩
        · rcases same (place ++ [step]) with next | ⟨content, content', next, next'⟩
          · simp only [walk.go, here, next, ih, follow]
          · simp only [walk.go, here, next, next', ih]
        · simp only [walk.go, here, here']
    simp only [walk, go]

theorem SameShape.locate_eq {t t' : FileTree} (same : SameShape t t') (p : Path) :
    t'.locate p = t.locate p := by
  simp only [locate, same.walk_eq]

namespace Valid

variable {t : FileTree}

theorem ne_nil_of_file {place : List String} {content : ByteArray}
    (found : t.entryAt? place = some (.file content)) : place ≠ [] := by
  rintro rfl
  simp [entryAt?] at found

theorem mem_of_file {place : List String} {content : ByteArray}
    (found : t.entryAt? place = some (.file content)) : (place, .file content) ∈ t.entries := by
  have inside := ne_nil_of_file found
  rw [entryAt?, if_neg (by simpa using inside)] at found
  obtain ⟨before, after, entries, -⟩ := List.lookup_eq_some_iff.1 found
  simp [entries]

theorem names_of_file (valid : t.Valid) {place : List String} {content : ByteArray}
    (found : t.entryAt? place = some (.file content)) : ∀ name ∈ place, IsName name :=
  valid.names _ (mem_of_file found)

-- The path of a file's place leads to it.
theorem locate_pathOf (valid : t.Valid) {place : List String} {content : ByteArray}
    (found : t.entryAt? place = some (.file content)) : t.locate (pathOf place) = .ok place := by
  have inside := ne_nil_of_file found
  have names := valid.names_of_file found
  have absolute : (pathOf place).isAbsolute = true := by
    simp [Path.isAbsolute, toList_pathOf]
  have root : t.entryAt? [] = some .directory := rfl
  have walked := @go_names t linkLimit [] _ names
    (fun xs ys parts more => by
      simpa using valid.parents _ (mem_of_file found) xs ys parts more)
    (fun _ => ⟨_, found, by simp⟩)
  simp only [locate, absolute, if_true, stepsOf_pathOf names inside, walk, walk.go, root]
  simpa using walked

-- The path of a file's place is canonical.
theorem canonical_pathOf (valid : t.Valid) {place : List String} {content : ByteArray}
    (found : t.entryAt? place = some (.file content)) :
    t.canonical (pathOf place) = .ok (pathOf place) := by
  simp [canonical, valid.locate_pathOf found, Except.map]

theorem read_text (valid : t.Valid) {place : List String} {text : List Char}
    (found : t.entryAt? place = some (.file (String.ofList text).toUTF8)) :
    t.read (pathOf place) = .ok text := by
  have decoded (s : String) : String.fromUTF8? s.toUTF8 = some s := by
    simp only [String.fromUTF8?, String.toUTF8_eq_toByteArray, s.isValidUTF8, dite_true]
    rfl
  simp only [FileTree.read, valid.locate_pathOf found, found, decoded, String.toList_ofList]

-- What is read by any path is in the file of a place, and is read by the path of the place.
theorem exists_of_read (valid : t.Valid) {p : Path} {text : List Char} (read : t.read p = .ok text) :
    ∃ place content, t.locate p = .ok place ∧ t.entryAt? place = some (.file content) ∧
      t.read (pathOf place) = .ok text := by
  unfold FileTree.read at read
  split at read
  · simp at read
  · rename_i place located
    split at read
    · rename_i content found
      split at read
      · rename_i s decoded
        refine ⟨place, content, located, found, ?_⟩
        simp only [FileTree.read, valid.locate_pathOf found, found, decoded]
        exact read
      · simp at read
    · simp at read
    · simp at read

end Valid

end FileTree

end ServerLink
