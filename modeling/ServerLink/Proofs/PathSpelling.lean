import ServerLink.Proofs.RelativeFiles

/-!
The path that a bundler hands to a session. A file is changed under its canonical path, however it
is reached; but whether it is changed at all is told by the path as it is spelled. What may be
excluded are the directories behind the root, or all directories where the path is not spelled with
the root in front.
-/

set_option autoImplicit false

namespace ServerLink

/-- What of a path is behind the root; all of it if it is not spelled with the root in front. -/
def Path.behind (p root : Path) : List Component :=
  if root.components.isPrefixOf p.components then p.components.drop root.components.length
  else p.components

/-- One of the directories on the way is excluded. -/
def Options.Excludes (o : Options) (cs : List Component) : Prop :=
  ∃ name, .name name ∈ cs.dropLast ∧ o.isExcludedName name = true

instance (o : Options) (cs : List Component) : Decidable (o.Excludes cs) :=
  decidable_of_iff (∃ c ∈ cs.dropLast, c = .name c.text ∧ o.isExcludedName c.text = true)
    ⟨fun ⟨_, member, named, excluded⟩ => ⟨_, named ▸ member, excluded⟩,
      fun ⟨name, member, excluded⟩ => ⟨.name name, member, rfl, excluded⟩⟩

-- A path that ends in the root is nothing else.
theorem Path.dropLast_of_root {p : Path} (last : p.components.getLast? = some .root) :
    p.components.dropLast = [] := by
  have steps : .root ∉ p.components.filter isStep := fun member =>
    absurd (List.mem_filter.1 member).2 (by decide)
  have inside := List.mem_of_getLast? last
  by_cases absolute : p.isAbsolute = true
  next =>
    have whole := components_absolute absolute
    generalize p.components.filter isStep = cs at whole steps
    rw [whole] at last ⊢
    cases cs with
    | nil => rfl
    | cons c cs => exact absurd (List.mem_of_getLast? (by simpa using last)) steps
  next =>
    rcases components_relative (Bool.not_eq_true _ ▸ absolute) with whole | whole
    · exact absurd (whole ▸ inside) steps
    · exact absurd ((List.mem_cons.1 (whole ▸ inside)).resolve_left (by simp)) steps

theorem Options.isExcluded_iff (o : Options) (p : Path) :
    o.isExcluded p = true ↔ o.Excludes p.components := by
  unfold Excludes
  cases last : p.components.getLast? with
  | none => simp [isExcluded, Path.parentComponents, List.getLast?_eq_none_iff.1 last]
  | some c =>
    by_cases root : c = .root
    next =>
      subst root
      simp [isExcluded, Path.parentComponents, last, Path.dropLast_of_root last]
    next =>
      rw [isExcluded, Path.parentComponents_of_last last root]
      simp only [List.any_eq_true]
      constructor
      · rintro ⟨d, member, excluded⟩
        cases d with
        | name s => exact ⟨s, member, excluded⟩
        | _ => simp at excluded
      · rintro ⟨name, member, excluded⟩
        exact ⟨_, member, excluded⟩

namespace Session

variable {s : Session} {r : Registry}

theorem components_seenFromRoot_eq (built : s.registry = some r) (absolute : r.root.isAbsolute = true)
    (p : Path) : (s.seenFromRoot p).components = p.behind r.root := by
  have below := p.components_below? r.root
  have root := Path.components_absolute absolute
  have some' : r.root.components.isEmpty = false := by
    rw [root]
    rfl
  rw [seenFromRoot, built, Option.bind_some, Path.behind]
  by_cases inside : r.root.components.isPrefixOf p.components = true
  · rw [if_pos inside, some', Bool.false_and, if_neg Bool.false_ne_true] at below
    obtain ⟨rest, seen, components⟩ := Option.map_eq_some_iff.1 below
    have begins : p.components = .root :: p.components.filter Path.isStep := by
      obtain ⟨rest, whole⟩ := List.isPrefixOf_iff_prefix.1 inside
      refine Path.components_of_head ?_
      rw [← whole, root]
      rfl
    rw [seen, if_pos inside, Option.getD_some, components]
    generalize p.components.filter Path.isStep = steps at begins
    generalize r.root.components.filter Path.isStep = above at root
    rw [begins, root, List.length_cons, List.drop_succ_cons]
  · rw [if_neg inside] at below
    rw [Option.map_eq_none_iff.1 below, if_neg inside, Option.getD_none]

theorem isCandidate_iff (built : s.registry = some r) (absolute : r.root.isAbsolute = true) (p : Path) :
    s.isCandidate p = true ↔
      s.options.hasSourceExtension p = true ∧ ¬ s.options.Excludes (p.behind r.root) := by
  rw [isCandidate_eq, Bool.and_eq_true, Bool.not_eq_true', ← components_seenFromRoot_eq built absolute,
    ← Options.isExcluded_iff, Bool.not_eq_true]

theorem run_canonical {t : FileTree} {p q : Path} (canonical : t.canonical p = .ok q)
    (itself : t.canonical q = .ok q) (code : List Char) (onServer : Bool) :
    s.run t p code onServer = s.run t q code onServer := by
  simp only [run, transformFile, canonical, itself]

/-- A file below the root may be reached by any path that ends in its name. The hook does the same
for it as for its canonical path, if both or neither have an excluded directory on their way, which
is what stands behind the root, or all there is if the root does not stand in front. For a path that
has one it does nothing. -/
theorem transform_spelling {t : FileTree} (valid : t.Valid) (built : s.registry = some r)
    {root names : List String} (top : r.root = FileTree.pathOf root) {p : Path}
    (located : t.locate p = .ok (root ++ names)) (file : t.isFile p = true)
    (name : p.fileName = (FileTree.pathOf (root ++ names)).fileName) (code : List Char)
    (onServer : Bool) :
    let q := FileTree.pathOf (root ++ names)
    t.canonical p = .ok q ∧ q.behind r.root = names.map .name ∧
      ((s.options.Excludes (p.behind r.root) ↔ s.options.Excludes (q.behind r.root)) →
        s.transform t code p onServer = s.transform t code q onServer) ∧
      ∀ p : Path, s.options.Excludes (p.behind r.root) → s.transform t code p onServer = .ok none := by
  intro q
  obtain ⟨place, content, located', found⟩ := FileTree.isFile_iff.1 file
  obtain rfl := Except.ok.inj (located'.symm.trans located)
  have canonical : t.canonical p = .ok q := by
    rw [FileTree.canonical, located]
    rfl
  have itself : t.canonical q = .ok q := valid.canonical_pathOf found
  have proper : ∀ name ∈ root ++ names, FileTree.IsName name := FileTree.names_of_locate located
  have absolute : r.root.isAbsolute = true := by
    simp [top, Path.isAbsolute, FileTree.toList_pathOf]
  have source : s.options.hasSourceExtension p = s.options.hasSourceExtension q := by
    rw [Options.hasSourceExtension, Options.hasSourceExtension, name]
  refine ⟨canonical, ?_, fun alike => ?_, fun p excluded => ?_⟩
  · have above := FileTree.components_pathOf_names fun n member => proper n (List.mem_append_left _ member)
    rw [Path.behind, top, above, FileTree.components_pathOf_names proper, List.map_append,
      ← List.cons_append, if_pos (List.isPrefixOf_iff_prefix.2 (List.prefix_append _ _)),
      List.drop_left]
  · have candidate : s.isCandidate p = s.isCandidate q := by
      rw [Bool.eq_iff_iff, isCandidate_iff built absolute, isCandidate_iff built absolute, source, alike]
    rw [transform, transform, candidate, run_canonical canonical itself]
  · have rejected : s.isCandidate p = false := by
      rw [← Bool.not_eq_true, isCandidate_iff built absolute]
      exact fun candidate => candidate.2 excluded
    rw [transform, rejected, Bool.and_false, if_neg Bool.false_ne_true]

end Session

namespace Sample

-- A project with two links to it, one of which is hidden.
def reached : FileTree :=
  ⟨[(["p"], .directory), (["p", "a.ts"], .file "f(1)".toUTF8), (["q"], .link ⟨"p"⟩),
    ([".q"], .link ⟨"p"⟩)]⟩

theorem reached_valid : reached.Valid := FileTree.valid_of_isValid (by decide +kernel)

def reaching : Session :=
  { Session.start .standard "" with registry := some (.empty ⟨"/p"⟩) }

end Sample

/-- One link is as good as the file's own path; by the other one nothing is done. -/
theorem Session.transform_spelling_linked :
    let code := "f(1)".toList
    Sample.reaching.transform Sample.reached code ⟨"/q/a.ts"⟩ true =
        Sample.reaching.transform Sample.reached code ⟨"/p/a.ts"⟩ true ∧
      Sample.reached.canonical ⟨"/.q/a.ts"⟩ = .ok ⟨"/p/a.ts"⟩ ∧
      Sample.reaching.isCandidate ⟨"/p/a.ts"⟩ = true ∧
      Sample.reaching.transform Sample.reached code ⟨"/.q/a.ts"⟩ true = .ok none := by
  intro code
  have located : Sample.reached.locate ⟨"/q/a.ts"⟩ = .ok (["p"] ++ ["a.ts"]) := by cbv
  have hidden : Sample.reached.locate ⟨"/.q/a.ts"⟩ = .ok (["p"] ++ ["a.ts"]) := by cbv
  have file : Sample.reached.isFile ⟨"/q/a.ts"⟩ = true := by cbv
  have file' : Sample.reached.isFile ⟨"/.q/a.ts"⟩ = true := by cbv
  obtain ⟨-, -, alike, -⟩ := Session.transform_spelling (s := Sample.reaching) Sample.reached_valid
    rfl rfl located file (by decide) code true
  obtain ⟨canonical, -, -, nothing⟩ := Session.transform_spelling (s := Sample.reaching)
    Sample.reached_valid rfl rfl hidden file' (by decide) code true
  exact ⟨alike (by decide +kernel), canonical, by decide +kernel, nothing _ (by decide +kernel)⟩

end ServerLink
