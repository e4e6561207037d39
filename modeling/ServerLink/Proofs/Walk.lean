import ServerLink.Proofs.Places

/-!
What a walk through a tree comes upon. It enters directories one by one and turns back at those
whose name keeps it out; seen from the files it reaches, these are all files of source with no such
name on the way to them.
-/

set_option autoImplicit false

namespace ServerLink

namespace FileTree

variable {t : FileTree}

theorem mem_names {directory : List String} {name : String} :
    name ∈ t.names directory ↔ ∃ e, (directory ++ [name], e) ∈ t.entries := by
  have direct (place : List String) :
      nameIn? directory place = some name ↔ place = directory ++ [name] := by
    unfold nameIn?
    by_cases above : place.dropLast = directory
    · subst above
      simp only [beq_self_eq_true, if_true]
      constructor
      · intro last
        obtain ⟨above, rfl⟩ := List.getLast?_eq_some_iff.1 last
        rw [List.dropLast_concat]
      · intro whole
        rw [whole]
        simp
    · simp only [beq_iff_eq, above, if_false, reduceCtorEq, false_iff]
      rintro rfl
      exact above (by simp)
  simp only [names, List.mem_mergeSort, List.mem_filterMap, direct]
  constructor
  · rintro ⟨⟨place, e⟩, member, rfl⟩
    exact ⟨e, member⟩
  · rintro ⟨e, member⟩
    exact ⟨_, member, rfl⟩

theorem le_depth {place : List String} {e : Entry} (member : (place, e) ∈ t.entries) :
    place.length ≤ t.depth :=
  List.le_max?_getD_of_mem (List.mem_map.2 ⟨_, member, rfl⟩)

-- Only a directory whose name keeps a walk out is not entered.
theorem isPruned_append (o : Options) (directory : List String) (name : String) :
    t.isPruned o (directory ++ [name]) = true ↔
      t.entryAt? (directory ++ [name]) = some .directory ∧ o.prunes name = true := by
  unfold isPruned
  rw [List.getLast?_concat]
  cases t.entryAt? (directory ++ [name]) with
  | none => simp
  | some e => cases e <;> simp

-- A name that begins with a dot is longer than that.
theorem IsName.one_lt_utf8ByteSize {name : String} (proper : IsName name)
    (dot : name.toList.head? = some '.') : 1 < name.utf8ByteSize := by
  obtain ⟨cs, head⟩ := List.head?_eq_some_iff.1 dot
  have whole : name = "." ++ String.ofList cs := String.toList_inj.1 (by simp [head])
  have one : ".".utf8ByteSize = 1 := rfl
  have more : (String.ofList cs).utf8ByteSize ≠ 0 := by
    rw [Ne, String.utf8ByteSize_eq_zero_iff]
    intro empty
    exact proper.here (by simp [whole, empty])
  rw [whole, String.utf8ByteSize_append, one]
  omega

-- A walk turns back at the names that exclude a path.
theorem IsName.prunes_eq {name : String} (proper : IsName name) (o : Options) :
    o.prunes name = o.isExcludedName name := by
  unfold Options.prunes Options.isExcludedName
  by_cases dot : name.toList.head? = some '.'
  · simp [dot, proper.one_lt_utf8ByteSize dot]
  · have other : (name.toList.head? == some '.') = false := by simpa using dot
    simp [other]

/-! ### Walking -/

variable (valid : t.Valid) (o : Options)

include valid

-- A file below a place is in one of the names there, and what is on the way to it is a directory.
theorem Valid.mem_names_of_file {above below : List String} {name : String} {content : ByteArray}
    (found : t.entryAt? (above ++ name :: below) = some (.file content)) :
    name ∈ t.names above ∧ t.entryAt? above = some .directory ∧
      (below ≠ [] → t.entryAt? (above ++ [name]) = some .directory) := by
  have member := Valid.mem_of_file found
  have parents := valid.parents _ member
  have inside : t.entryAt? above = some .directory := parents above (name :: below) rfl (by simp)
  have next : below ≠ [] → t.entryAt? (above ++ [name]) = some .directory :=
    parents (above ++ [name]) below (by simp)
  refine ⟨mem_names.2 ?_, inside, next⟩
  by_cases last : below = []
  · subst last
    exact ⟨_, member⟩
  · have directory := next last
    rw [entryAt?, if_neg (by simp)] at directory
    obtain ⟨before, after, entries, -⟩ := List.lookup_eq_some_iff.1 directory
    exact ⟨.directory, by simp [entries]⟩

/-- The files of source that a walk comes upon are those that it need not go too deep for and that
no name on the way keeps it from. -/
theorem Valid.mem_sourcesFrom {levels : Nat} {place : List String} {p : Path} :
    p ∈ t.sourcesFrom o levels place ↔ ∃ names content, names.length < levels ∧
      t.entryAt? (place ++ names) = some (.file content) ∧ p = pathOf (place ++ names) ∧
      o.hasSourceExtension p = true ∧ ∀ name ∈ names.dropLast, o.prunes name = false := by
  induction levels generalizing place with
  | zero => simp [sourcesFrom]
  | succ levels ih =>
    constructor
    · intro member
      unfold sourcesFrom at member
      split at member
      · next content found =>
        split at member
        · next source =>
          -- the walk ends here, and no name is between the place and itself
          obtain rfl := List.mem_singleton.1 member
          exact ⟨[], content, by simp, by simpa using found, by simp, source, by simp⟩
        · simp at member
      · next found =>
        obtain ⟨next, entered, member⟩ := List.mem_flatMap.1 member
        obtain ⟨listed, kept⟩ := List.mem_filter.1 entered
        obtain ⟨name, -, rfl⟩ := List.mem_map.1 listed
        obtain ⟨names, content, near, found, path, source, open'⟩ := ih.1 member
        refine ⟨name :: names, content, by simpa using near, by simpa using found,
          by simpa using path, source, ?_⟩
        intro step onWay
        cases names with
        | nil => simp at onWay
        | cons other names =>
          -- only what more names follow is a directory, which its own name might keep out
          rcases List.mem_cons.1 onWay with rfl | later
          · have inside : t.entryAt? (place ++ step :: other :: names) = some (.file content) := by
              simpa using found
            have directory := (valid.mem_names_of_file inside).2.2 (by simp)
            cases pruned : o.prunes step with
            | false => rfl
            | true =>
              have skipped := (isPruned_append o place step).2 ⟨directory, pruned⟩
              simp [skipped] at kept
          · exact open' step later
      · exact absurd member List.not_mem_nil
    · rintro ⟨names, content, near, found, path, source, open'⟩
      cases names with
      | nil =>
        have here : t.entryAt? place = some (.file content) := by simpa using found
        obtain rfl : p = pathOf place := by simpa using path
        simp [sourcesFrom, here, source]
      | cons name names =>
        obtain ⟨listed, directory, next⟩ := valid.mem_names_of_file found
        have kept : t.isPruned o (place ++ [name]) = false := by
          refine Bool.eq_false_iff.2 fun skipped => ?_
          obtain ⟨entered, pruned⟩ := (isPruned_append o place name).1 skipped
          cases names with
          | nil => simp [entered] at found
          | cons other names => simp [open' name (by simp)] at pruned
        have rest : p ∈ t.sourcesFrom o levels (place ++ [name]) := by
          refine ih.2 ⟨names, content, by simpa using near, by simpa using found,
            by simpa using path, source, fun step onWay => open' step ?_⟩
          cases names with
          | nil => simp at onWay
          | cons other names => exact List.mem_cons_of_mem _ onWay
        simp only [sourcesFrom, directory, List.mem_flatMap, List.mem_filter, List.mem_map]
        exact ⟨_, ⟨⟨name, listed, rfl⟩, by simp [kept]⟩, rest⟩

-- No file is too deep for a search.
theorem Valid.mem_sources {root : List String} {p : Path} :
    p ∈ t.sources o root ↔ ∃ names content,
      t.entryAt? (root ++ names) = some (.file content) ∧ p = pathOf (root ++ names) ∧
      o.hasSourceExtension p = true ∧ ∀ name ∈ names.dropLast, o.isExcludedName name = false := by
  unfold sources
  rw [valid.mem_sourcesFrom]
  constructor
  · rintro ⟨names, content, -, found, path, source, open'⟩
    refine ⟨names, content, found, path, source, fun name onWay => ?_⟩
    have proper := valid.names_of_file found name
      (List.mem_append_right _ (List.dropLast_subset _ onWay))
    rw [← proper.prunes_eq]
    exact open' name onWay
  · rintro ⟨names, content, found, path, source, open'⟩
    -- one level for each name and one for the root are enough
    have deep := le_depth (Valid.mem_of_file found)
    refine ⟨names, content, by simp at deep; omega, found, path, source, fun name onWay => ?_⟩
    have proper := valid.names_of_file found name
      (List.mem_append_right _ (List.dropLast_subset _ onWay))
    rw [proper.prunes_eq]
    exact open' name onWay

end FileTree

end ServerLink
