import ServerLink.Proofs.Places
import ServerLink.Session

/-!
Candidates. Whether a file may be changed at all is told by the components of its path: by its
name, and by the names of the directories between it and the root of the project. So the spelling
of a path does not matter, and neither does where the project is.
-/

set_option autoImplicit false

namespace ServerLink

namespace Path

/-- A step to something, not the mark of where a path begins. -/
def isStep (c : Component) : Bool := c != .root && c != .here

theorem isStep_of_componentOf {piece : List Char} {c : Component}
    (read : componentOf piece = some c) : isStep c = true := by
  unfold componentOf at read
  split at read
  · simp at read
  · split at read <;> cases read <;> rfl

-- The steps a path takes are read from its pieces.
theorem filter_components (p : Path) :
    p.components.filter isStep = (pieces p.text.toList []).filterMap componentOf := by
  have steps : ((pieces p.text.toList []).filterMap componentOf).filter isStep =
      (pieces p.text.toList []).filterMap componentOf := by
    refine List.filter_eq_self.2 fun c member => ?_
    obtain ⟨piece, -, read⟩ := List.mem_filterMap.1 member
    exact isStep_of_componentOf read
  have root : isStep .root = false := rfl
  have here : isStep .here = false := rfl
  unfold components
  simp only
  split
  · simp [root, steps]
  · split <;> simp [here, steps]

theorem components_of_head {p : Path} (absolute : p.components.head? = some .root) :
    p.components = .root :: p.components.filter isStep := by
  have steps := p.filter_components
  unfold components at absolute steps ⊢
  simp only at absolute steps ⊢
  split
  · next slash =>
    simp only [slash, if_true] at steps
    exact congrArg _ steps.symm
  · next relative =>
    -- no step and no dot is the root
    rw [if_neg relative] at absolute
    split at absolute
    · simp at absolute
    · obtain ⟨more, read⟩ := List.head?_eq_some_iff.1 absolute
      obtain ⟨piece, -, root⟩ := List.mem_filterMap.1 (read ▸ List.mem_cons_self)
      exact absurd (isStep_of_componentOf root) (by decide)

/-! ### Pieces below a root -/

theorem filterMap_dropPieces (n : Nat) (ps : List (List Char)) :
    (dropPieces n ps).filterMap componentOf = (ps.filterMap componentOf).drop n := by
  induction ps generalizing n with
  | nil => simp [dropPieces]
  | cons p ps ih =>
    cases read : componentOf p with
    | none => simp [dropPieces, read, ih]
    | some c => cases n <;> simp [dropPieces, read, ih]

theorem dropPieces_subset (n : Nat) (ps : List (List Char)) : dropPieces n ps ⊆ ps := by
  induction ps generalizing n with
  | nil => simp [dropPieces]
  | cons p ps ih =>
    have later (n : Nat) : dropPieces n ps ⊆ p :: ps := fun _ h => List.mem_cons_of_mem p (ih n h)
    cases read : componentOf p with
    | none => simpa [dropPieces, read] using later n
    | some c =>
      cases n with
      | zero => simp [dropPieces, read]
      | succ n => simpa [dropPieces, read] using later n

theorem head_dropPieces {n : Nat} {ps : List (List Char)} {p : List Char}
    (head : (dropPieces n ps).head? = some p) : (componentOf p).isSome = true := by
  induction ps generalizing n with
  | nil => simp [dropPieces] at head
  | cons q ps ih =>
    cases read : componentOf q with
    | none => exact ih (n := n) (by simpa [dropPieces, read] using head)
    | some c =>
      cases n with
      | zero =>
        obtain rfl : q = p := by simpa [dropPieces, read] using head
        simp [read]
      | succ n => exact ih (n := n) (by simpa [dropPieces, read] using head)

theorem filterMap_trimPieces (ps : List (List Char)) :
    (trimPieces ps).filterMap componentOf = ps.filterMap componentOf := by
  have dropped (qs : List (List Char)) :
      (qs.dropWhile fun p => (componentOf p).isNone).filterMap componentOf =
        qs.filterMap componentOf := by
    induction qs with
    | nil => rfl
    | cons q qs ih => cases read : componentOf q <;> simp [read, ih]
  simp [trimPieces, List.filterMap_reverse, dropped]

theorem trimPieces_begins (ps : List (List Char)) : trimPieces ps <+: ps := by
  rw [trimPieces, ← List.reverse_suffix, List.reverse_reverse]
  exact List.dropWhile_suffix _

-- Pieces with slashes between them, the first of them a step, make a path of their steps.
theorem components_intercalate {ps : List (List Char)} (plain : ∀ p ∈ ps, '/' ∉ p)
    (first : ∀ p, ps.head? = some p → (componentOf p).isSome = true) :
    (Path.mk (String.ofList (['/'].intercalate ps))).components = ps.filterMap componentOf := by
  cases ps with
  | nil => rfl
  | cons p ps =>
    have step := first p rfl
    have cut := pieces_intercalate plain (by simp)
    have notDot : p ≠ ['.'] := by
      rintro rfl
      simp [componentOf] at step
    have notSlash : (['/'].intercalate (p :: ps)).head? ≠ some '/' := by
      have slash := plain p (by simp)
      cases p with
      | nil => simp [componentOf] at step
      | cons c cs =>
        simp only [List.mem_cons, not_or] at slash
        cases ps <;> simp [List.intercalate_cons_cons, Ne.symm slash.1]
    simp [components, cut, notSlash, notDot]

theorem components_slash {ps : List (List Char)} (plain : ∀ p ∈ ps, '/' ∉ p) :
    (Path.mk ("/" ++ String.ofList (['/'].intercalate ps))).components =
      .root :: ps.filterMap componentOf := by
  have empty : componentOf [] = none := rfl
  cases ps with
  | nil => rfl
  | cons p ps =>
    have cut := pieces_intercalate plain (by simp)
    simp [components, pieces, cut, empty]

/-- The components of a path below a root are those of the path behind those of the root. Nothing
but components decides what they are. -/
theorem components_below? (p root : Path) :
    (p.below? root).map components =
      if root.components.isPrefixOf p.components then
        some (if root.components.isEmpty && p.components.head? == some .root then p.components
          else (p.components.filter isStep).drop (root.components.filter isStep).length)
      else none := by
  unfold below?
  by_cases inside : root.components.isPrefixOf p.components = true
  · let rest := trimPieces (dropPieces (root.components.filter isStep).length
      (pieces p.text.toList []))
    have plain : ∀ piece ∈ rest, '/' ∉ piece := by
      intro piece member
      have kept := dropPieces_subset _ _ ((trimPieces_begins _).subset member)
      exact not_mem_pieces (by simp) kept
    have first : ∀ piece, rest.head? = some piece → (componentOf piece).isSome = true := by
      intro piece head
      obtain ⟨more, whole⟩ := trimPieces_begins (dropPieces (root.components.filter isStep).length
        (pieces p.text.toList []))
      have begins : (dropPieces (root.components.filter isStep).length
          (pieces p.text.toList [])).head? = some piece := by
        rw [← whole, List.head?_append, head]
        rfl
      exact head_dropPieces begins
    have steps : rest.filterMap componentOf =
        (p.components.filter isStep).drop (root.components.filter isStep).length := by
      rw [filterMap_trimPieces, filterMap_dropPieces, ← filter_components]
    rw [if_pos inside, if_pos inside]
    by_cases whole : (root.components.isEmpty && p.components.head? == some .root) = true
    · rw [if_pos whole, if_pos whole]
      simp only [Bool.and_eq_true, List.isEmpty_iff, beq_iff_eq] at whole
      have slash := components_slash plain
      rw [steps, whole.1, List.filter_nil, List.length_nil, List.drop_zero] at slash
      exact congrArg some (slash.trans (components_of_head whole.2).symm)
    · rw [if_neg whole, if_neg whole, ← steps]
      exact congrArg some (components_intercalate plain first)
  · rw [if_neg inside, if_neg inside]
    rfl

end Path

/-! ### Spelling -/

namespace Session

/-- The path of a file seen from the root of the project, if there is one above it. -/
def seenFromRoot (s : Session) (p : Path) : Path :=
  ((s.registry.bind fun r => p.below? r.root)).getD p

theorem isCandidate_eq (s : Session) (p : Path) :
    s.isCandidate p = (s.options.hasSourceExtension p && !s.options.isExcluded (s.seenFromRoot p)) :=
  rfl

theorem components_seenFromRoot (s : Session) {p q : Path} (same : p.components = q.components) :
    (s.seenFromRoot p).components = (s.seenFromRoot q).components := by
  unfold seenFromRoot
  cases s.registry with
  | none => exact same
  | some r =>
    have below : (p.below? r.root).map Path.components = (q.below? r.root).map Path.components := by
      rw [Path.components_below?, Path.components_below?, same]
    cases left : p.below? r.root <;> cases right : q.below? r.root <;>
      simp_all

-- Another spelling of a path is a candidate if the path is one.
theorem isCandidate_of_same (s : Session) {p q : Path} (same : p.same q = true) :
    s.isCandidate p = s.isCandidate q := by
  have components : p.components = q.components := by simpa [Path.same] using same
  have name : p.fileName = q.fileName := by simp [Path.fileName, components]
  have rest := s.components_seenFromRoot components
  simp only [isCandidate_eq, Options.hasSourceExtension, Options.isExcluded, name, rest]

end Session

/-! ### Places below the root -/

namespace FileTree

theorem components_pathOf_names {place : List String} (names : ∀ name ∈ place, IsName name) :
    (pathOf place).components = .root :: place.map .name := by
  by_cases inside : place = []
  · subst inside
    rfl
  · exact components_pathOf names inside

theorem filter_isStep_names (names : List String) :
    (names.map Component.name).filter Path.isStep = names.map .name :=
  List.filter_eq_self.2 fun _ member => by
    obtain ⟨name, -, rfl⟩ := List.mem_map.1 member
    rfl

variable {place : List String} (proper : ∀ name ∈ place, IsName name)

include proper

-- A place is below another one if the names that lead to this one lead on to it.
theorem isSome_below?_pathOf {other : List String} (names : ∀ name ∈ other, IsName name) :
    ((pathOf other).below? (pathOf place)).isSome = true ↔ place <+: other := by
  have inj : Function.Injective Component.name := fun a b h => by simpa using h
  rw [← Option.isSome_map, Path.components_below?, components_pathOf_names proper,
    components_pathOf_names names]
  by_cases inside : place <+: other
  · simp [List.isPrefixOf_iff_prefix, List.prefix_map_iff_of_injective inj, inside]
  · simp [List.isPrefixOf_iff_prefix, List.prefix_map_iff_of_injective inj, inside]

-- Of a place below the root only the names behind those of the root are looked at.
theorem below?_pathOf {names : List String} (below : ∀ name ∈ names, IsName name) :
    ∃ rest, (pathOf (place ++ names)).below? (pathOf place) = some rest ∧
      rest.components = names.map .name := by
  have all : ∀ name ∈ place ++ names, IsName name := by
    intro name member
    rcases List.mem_append.1 member with above | behind
    · exact proper name above
    · exact below name behind
  have components : ((pathOf (place ++ names)).below? (pathOf place)).map Path.components =
      some (names.map .name) := by
    have root : Path.isStep .root = false := rfl
    rw [Path.components_below?, components_pathOf_names proper, components_pathOf_names all]
    simp [root, filter_isStep_names]
  exact Option.map_eq_some_iff.1 components

/-- A file below the root is a candidate if its name is one of source and no directory between it
and the root is excluded. The names of the root itself are not looked at. -/
theorem isCandidate_pathOf {s : Session} {r : Registry} (built : s.registry = some r)
    (root : r.root = pathOf place) {names : List String} (below : ∀ name ∈ names, IsName name) :
    s.isCandidate (pathOf (place ++ names)) =
      (s.options.hasSourceExtension (pathOf (place ++ names)) &&
        !names.dropLast.any s.options.isExcludedName) := by
  obtain ⟨rest, seen, components⟩ := below?_pathOf proper below
  have above : s.options.isExcluded rest = names.dropLast.any s.options.isExcludedName := by
    rw [Options.isExcluded, components, Path.parentComponents]
    cases last : names.getLast? with
    | none => simp [List.getLast?_eq_none_iff.1 last]
    | some name => simp [last, ← List.map_dropLast, List.any_map, Function.comp_def]
  simp only [Session.isCandidate, built, Option.bind_some, root, seen, Option.getD_some, above]

end FileTree

end ServerLink
