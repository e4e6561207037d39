import Mathlib
import ServerLink.Proofs.Candidates

/-!
The file that a relative specifier means. The specifier is followed from the directory of the
importing module, one component after the other; of the files that what it spells may mean the
first is taken, by its canonical path. So it does not matter how, or from where, a file is reached.
-/

set_option autoImplicit false

namespace ServerLink

/-- The text of the component is read as this component. -/
structure Component.IsSpelled (c : Component) : Prop where
  read : Path.componentOf c.text.toList = some c
  plain : '/' ∉ c.text.toList

namespace Path

/-! ### Components of texts -/

theorem pieces_append_slash (xs ys acc : List Char) :
    pieces (xs ++ '/' :: ys) acc = pieces xs acc ++ pieces ys [] := by
  induction xs generalizing acc with
  | nil => simp [pieces]
  | cons c cs ih => by_cases slash : c = '/' <;> simp [pieces, slash, ih]

theorem components_absolute {p : Path} (absolute : p.isAbsolute = true) :
    p.components = .root :: p.components.filter isStep := by
  rw [filter_components]
  simp only [isAbsolute] at absolute
  simp only [components, absolute, if_true]

theorem components_relative {p : Path} (relative : p.isAbsolute = false) :
    p.components = p.components.filter isStep ∨ p.components = .here :: p.components.filter isStep := by
  rw [filter_components]
  simp only [isAbsolute] at relative
  simp only [components, relative, Bool.false_eq_true, if_false]
  split
  · exact .inr rfl
  · exact .inl rfl

theorem isSpelled_of_step {p : Path} {c : Component} (member : c ∈ p.components.filter isStep) :
    c.IsSpelled := by
  rw [filter_components] at member
  obtain ⟨piece, inside, read⟩ := List.mem_filterMap.1 member
  -- a component that is read from a piece is spelled like the piece
  have same : c.text.toList = piece := by
    unfold componentOf at read
    split at read
    · simp at read
    · split at read
      · next up =>
        obtain rfl := Option.some.inj read
        exact (eq_of_beq up).symm
      · obtain rfl := Option.some.inj read
        simp [Component.text]
  exact ⟨same ▸ read, same ▸ not_mem_pieces (by simp) inside⟩

/-- The names and steps upwards as they are written between slashes. -/
def spelling (cs : List Component) : List (List Char) := cs.map fun c => c.text.toList

theorem filterMap_spelling {cs : List Component} (spelled : ∀ c ∈ cs, c.IsSpelled) :
    (spelling cs).filterMap componentOf = cs := by
  induction cs with
  | nil => rfl
  | cons c cs ih =>
    rw [spelling, List.map_cons, List.filterMap_cons_some (spelled c List.mem_cons_self).read]
    exact congrArg _ (ih fun c member => spelled c (List.mem_cons_of_mem _ member))

theorem plain_spelling {cs : List Component} (spelled : ∀ c ∈ cs, c.IsSpelled) :
    ∀ piece ∈ spelling cs, '/' ∉ piece := by
  intro piece member
  obtain ⟨c, inside, rfl⟩ := List.mem_map.1 member
  exact (spelled c inside).plain

theorem toList_intercalate_text (cs : List Component) :
    String.intercalate "/" (cs.map Component.text) = String.ofList (['/'].intercalate (spelling cs)) := by
  rw [← String.toList_inj]
  simp [String.toList_intercalate, spelling, Function.comp_def]

theorem ofComponents_root (cs : List Component) :
    ofComponents (.root :: cs) = ⟨"/" ++ String.ofList (['/'].intercalate (spelling cs))⟩ := by
  rw [ofComponents, toList_intercalate_text]

theorem ofComponents_steps {cs : List Component} (steps : .root ∉ cs) :
    ofComponents cs = ⟨String.ofList (['/'].intercalate (spelling cs))⟩ := by
  rw [← toList_intercalate_text]
  cases cs with
  | nil => rfl
  | cons c cs =>
    cases c with
    | root => exact absurd List.mem_cons_self steps
    | _ => rfl

-- A path that is written from components has them.
theorem components_ofComponents_root {cs : List Component} (spelled : ∀ c ∈ cs, c.IsSpelled) :
    (ofComponents (.root :: cs)).components = .root :: cs := by
  rw [ofComponents_root, components_slash (plain_spelling spelled), filterMap_spelling spelled]

theorem components_ofComponents {cs : List Component} (spelled : ∀ c ∈ cs, c.IsSpelled) :
    (ofComponents cs).components = cs := by
  have steps : .root ∉ cs := fun member => absurd (spelled _ member).plain (by decide)
  rw [ofComponents_steps steps, components_intercalate (plain_spelling spelled),
    filterMap_spelling spelled]
  intro piece head
  cases cs with
  | nil => simp [spelling] at head
  | cons c cs =>
    obtain rfl : c.text.toList = piece := by simpa [spelling] using head
    simp [(spelled c List.mem_cons_self).read]

-- What is seen from a directory has the components of the directory before its own.
theorem filter_components_join {p q : Path} (some : p.text.toList ≠ [])
    (relative : q.isAbsolute = false) :
    (p.join q).components.filter isStep =
      p.components.filter isStep ++ q.components.filter isStep := by
  have empty : componentOf [] = none := rfl
  have nonempty : p.text.isEmpty = false := by
    rw [← Bool.not_eq_true, String.isEmpty_iff]
    rintro same
    exact some (by rw [same]; rfl)
  simp only [filter_components, join, relative, Bool.false_eq_true, if_false, nonempty,
    Bool.false_or]
  split
  · next slash =>
    -- the slash that ends the directory leaves an empty piece
    obtain ⟨above, text⟩ : ∃ above, p.text.toList = above ++ ['/'] := by
      obtain ⟨above, text⟩ := List.getLast?_eq_some_iff.1 (eq_of_beq slash)
      exact ⟨above, text⟩
    have own : pieces p.text.toList [] = pieces above [] ++ [[]] := by
      rw [text, pieces_append_slash]
      rfl
    have whole : (p.text ++ q.text).toList = above ++ '/' :: q.text.toList := by
      rw [String.toList_append, text, List.append_assoc]
      rfl
    rw [whole, pieces_append_slash, own, List.filterMap_append, List.filterMap_append,
      List.filterMap_cons_none empty, List.filterMap_nil, List.append_nil]
  · have whole : (p.text ++ "/" ++ q.text).toList = p.text.toList ++ '/' :: q.text.toList := by
      simp
    rw [whole, pieces_append_slash, List.filterMap_append]

theorem isAbsolute_join {p q : Path} (some : p.text.toList ≠ []) (relative : q.isAbsolute = false) :
    (p.join q).isAbsolute = p.isAbsolute := by
  have first (s : String) : (Path.mk (p.text ++ s)).isAbsolute = p.isAbsolute := by
    simp only [isAbsolute, String.toList_append]
    cases text : p.text.toList with
    | nil => exact absurd text some
    | cons c cs => rfl
  rw [join, relative, if_neg Bool.false_ne_true]
  split
  · exact first _
  · rw [String.append_assoc]
    exact first _

/-! ### Following components -/

/-- The components are followed from a place, one after the other. There is nothing above the root,
and a path without a place to go up from stays where it is. -/
inductive Follows : List Component → List Component → List Component → Prop
  | done (at' : List Component) : Follows at' [] at'
  | root {at' cs there : List Component} : Follows [.root] cs there → Follows at' (.root :: cs) there
  | here {at' cs there : List Component} : Follows at' cs there → Follows at' (.here :: cs) there
  | name {at' cs there : List Component} {s : String} :
      Follows (at' ++ [.name s]) cs there → Follows at' (.name s :: cs) there
  | up {at' cs there : List Component} {s : String} :
      Follows at' cs there → Follows (at' ++ [.name s]) (.up :: cs) there
  | top {cs there : List Component} : Follows [.root] cs there → Follows [.root] (.up :: cs) there
  | out {cs there : List Component} : Follows [] cs there → Follows [] (.up :: cs) there

/-- A place that only names lead to, from the root or from wherever one is. -/
def IsReduced (cs : List Component) : Prop :=
  ∃ names : List String, cs = .root :: names.map .name ∨ cs = names.map .name

-- What is done about one component.
def advance (done : List Component) : Component → List Component
  | .here => done
  | .up => if done == [.root] then done else done.dropLast
  | .root => [.root]
  | c => done ++ [c]

theorem reduce_eq (cs : List Component) : reduce cs = cs.foldl advance [] := rfl

theorem advance_up (done : List Component) (s : String) : advance (done ++ [.name s]) .up = done := by
  have inside : (done ++ [.name s] == [.root]) = false := by
    rw [← Bool.not_eq_true, beq_iff_eq]
    intro same
    have last := congrArg List.getLast? same
    simp at last
  rw [advance, inside, if_neg Bool.false_ne_true, List.dropLast_concat]

theorem isReduced_dropLast {cs : List Component} (reduced : IsReduced cs) : IsReduced cs.dropLast := by
  obtain ⟨names, rfl | rfl⟩ := reduced
  · cases names with
    | nil => exact ⟨[], .inr rfl⟩
    | cons name names => exact ⟨(name :: names).dropLast, .inl (by simp [List.map_dropLast])⟩
  · exact ⟨names.dropLast, .inr (by simp)⟩

theorem isReduced_advance {done : List Component} (reduced : IsReduced done) (c : Component) :
    IsReduced (advance done c) := by
  cases c with
  | here => exact reduced
  | root => exact ⟨[], .inl rfl⟩
  | name s =>
    obtain ⟨names, rfl | rfl⟩ := reduced
    · exact ⟨names ++ [s], .inl (by simp [advance])⟩
    · exact ⟨names ++ [s], .inr (by simp [advance])⟩
  | up =>
    rw [advance]
    split
    · exact reduced
    · exact isReduced_dropLast reduced

theorem follows_advance {done cs there : List Component} (reduced : IsReduced done) {c : Component}
    (rest : Follows (advance done c) cs there) : Follows done (c :: cs) there := by
  cases c with
  | here => exact .here rest
  | root => exact .root rest
  | name s => exact .name rest
  | up =>
    obtain ⟨names, shape⟩ := reduced
    cases List.eq_nil_or_concat names with
    | inl none =>
      subst none
      rcases shape with rfl | rfl
      · exact .top rest
      · exact .out rest
    | inr more =>
      obtain ⟨names, s, rfl⟩ := more
      obtain ⟨before, rfl⟩ : ∃ before, done = before ++ [.name s] := by
        rcases shape with rfl | rfl
        · exact ⟨.root :: names.map .name, by simp⟩
        · exact ⟨names.map .name, by simp⟩
      rw [advance_up] at rest
      exact .up rest

theorem follows_foldl {done : List Component} (reduced : IsReduced done) (cs : List Component) :
    Follows done cs (cs.foldl advance done) := by
  induction cs generalizing done with
  | nil => exact .done _
  | cons c cs ih => exact follows_advance reduced (ih (isReduced_advance reduced c))

theorem isReduced_foldl {done : List Component} (reduced : IsReduced done) (cs : List Component) :
    IsReduced (cs.foldl advance done) := by
  induction cs generalizing done with
  | nil => exact reduced
  | cons c cs ih => exact ih (isReduced_advance reduced c)

-- Nothing but what is followed shows in what it leads to.
theorem mem_foldl_advance {done cs : List Component} {c : Component}
    (member : c ∈ cs.foldl advance done) : c = .root ∨ c ∈ done ∨ c ∈ cs := by
  induction cs generalizing done with
  | nil => exact .inr (.inl member)
  | cons x cs ih =>
    rcases ih member with root | before | later
    · exact .inl root
    · cases x with
      | here => exact .inr (.inl before)
      | root => exact .inl (List.mem_singleton.1 before)
      | name s =>
        rcases List.mem_append.1 before with old | new
        · exact .inr (.inl old)
        · exact .inr (.inr (List.mem_singleton.1 new ▸ List.mem_cons_self))
      | up =>
        rw [advance] at before
        split at before
        · exact .inr (.inl before)
        · exact .inr (.inl (List.dropLast_subset _ before))
    · exact .inr (.inr (List.mem_cons_of_mem _ later))

theorem filter_isStep_spelled {cs : List Component} (spelled : ∀ c ∈ cs, c.IsSpelled) :
    cs.filter isStep = cs :=
  List.filter_eq_self.2 fun c member => isStep_of_componentOf (spelled c member).read

-- The dot that a relative path may begin with says nothing.
theorem foldl_advance_relative {p : Path} (relative : p.isAbsolute = false) (done : List Component) :
    p.components.foldl advance done = (p.components.filter isStep).foldl advance done := by
  rcases components_relative relative with plain | dotted
  · rw [← plain]
  · exact (congrArg (List.foldl advance done) dotted).trans rfl

/-! ### Candidates -/

theorem parentComponents_of_last {cs : List Component} {c : Component} (last : cs.getLast? = some c)
    (other : c ≠ .root) : parentComponents cs = some cs.dropLast := by
  rw [parentComponents, last]
  cases c with
  | root => exact absurd rfl other
  | _ => rfl

-- The directory of a file is the path without its last component.
theorem directory_eq {file : Path} {cs : List Component} {c : Component} (spelled : c.IsSpelled)
    (components : file.components = .root :: (cs ++ [c])) :
    file.directory = ofComponents (.root :: cs) := by
  have last : file.components.getLast? = some c := by
    rw [components, ← List.cons_append, List.getLast?_concat]
  have other : c ≠ .root := by
    rintro rfl
    exact absurd spelled.plain (by decide)
  have above : parentComponents file.components = some (.root :: cs) := by
    rw [parentComponents_of_last last other, components, ← List.cons_append, List.dropLast_concat]
  rw [directory, above]

theorem reduce_join {importer : Path} {specifier : String} (absolute : importer.isAbsolute = true)
    (relative : specifier.toList.head? = some '.') :
    reduce (importer.directory.join ⟨specifier⟩).components =
      (importer.components.dropLast ++ (Path.mk specifier).components).foldl advance [] := by
  have relative' : (Path.mk specifier).isAbsolute = false := by
    rw [isAbsolute, relative]
    rfl
  have components := components_absolute absolute
  have spelled : ∀ c ∈ importer.components.filter isStep, c.IsSpelled := fun _ => isSpelled_of_step
  generalize importer.components.filter isStep = steps at components spelled
  rw [reduce_eq, List.foldl_append, foldl_advance_relative relative', ← List.foldl_append]
  cases List.eq_nil_or_concat steps with
  | inl none =>
    -- the root is in no directory
    have top : importer.directory = ⟨"."⟩ := by
      rw [directory, components, none]
      rfl
    have whole : (Path.mk ".").text.toList ≠ [] := by decide
    rw [top, foldl_advance_relative ((isAbsolute_join whole relative').trans rfl),
      filter_components_join whole relative', components, none]
    rfl
  | inr more =>
    obtain ⟨above, c, rfl⟩ := more
    rw [List.concat_eq_append] at components spelled
    have inside : ∀ x ∈ above, x.IsSpelled := fun x member => spelled x (List.mem_append_left _ member)
    have top := directory_eq (spelled c (by simp)) components
    have own := components_ofComponents_root inside
    have whole : (ofComponents (.root :: above)).text.toList ≠ [] := by simp [ofComponents_root]
    have rooted : (ofComponents (.root :: above)).isAbsolute = true := by
      simp [isAbsolute, ofComponents_root]
    have joined := components_absolute ((isAbsolute_join whole relative').trans rooted)
    have root : isStep .root = false := rfl
    rw [filter_components_join whole relative', own, List.filter_cons_of_neg (by simp [root]),
      filter_isStep_spelled inside] at joined
    have before : (Component.root :: (above ++ [c])).dropLast = .root :: above := by
      rw [← List.cons_append, List.dropLast_concat]
    rw [top, joined, components, before, List.cons_append]

theorem components_reduced {cs : List Component} (reduced : IsReduced cs)
    (spelled : ∀ x ∈ cs, x = .root ∨ x.IsSpelled) : (ofComponents cs).components = cs := by
  obtain ⟨names, rfl | rfl⟩ := reduced
  · refine components_ofComponents_root fun c member => ?_
    obtain ⟨name, -, rfl⟩ := List.mem_map.1 member
    exact (spelled _ (List.mem_cons_of_mem _ member)).resolve_left (by simp)
  · refine components_ofComponents fun c member => ?_
    obtain ⟨name, -, rfl⟩ := List.mem_map.1 member
    exact (spelled _ member).resolve_left (by simp)

/-- What a relative specifier spells in a module: where one comes from the module's directory, the
components of the specifier being followed one after the other. -/
theorem candidate_spec {importer : Path} {specifier : String} (absolute : importer.isAbsolute = true)
    (relative : specifier.toList.head? = some '.') :
    let c := candidate importer specifier
    c = ofComponents c.components ∧ IsReduced c.components ∧
      (∀ x ∈ c.components, x = .root ∨ x.IsSpelled) ∧
      Follows [] (importer.components.dropLast ++ (Path.mk specifier).components) c.components := by
  intro c
  have start : IsReduced [] := ⟨[], .inr rfl⟩
  let cs := importer.components.dropLast ++ (Path.mk specifier).components
  have made : c = ofComponents (cs.foldl advance []) := by
    rw [← reduce_join absolute relative]
    rfl
  have reduced : IsReduced (cs.foldl advance []) := isReduced_foldl start cs
  have spelled : ∀ x ∈ cs.foldl advance [], x = .root ∨ x.IsSpelled := by
    intro x member
    by_cases root : x = .root
    · exact .inl root
    have step : isStep x = true := by
      obtain ⟨names, shape | shape⟩ := reduced <;> rw [shape] at member
      · rcases List.mem_cons.1 member with top | member
        · exact absurd top root
        · obtain ⟨name, -, rfl⟩ := List.mem_map.1 member
          rfl
      · obtain ⟨name, -, rfl⟩ := List.mem_map.1 member
        rfl
    rcases mem_foldl_advance member with top | before | followed
    · exact .inl top
    · simp at before
    · right
      rcases List.mem_append.1 followed with above | own
      · exact isSpelled_of_step (List.mem_filter.2 ⟨List.dropLast_subset _ above, step⟩)
      · exact isSpelled_of_step (List.mem_filter.2 ⟨own, step⟩)
  have own : c.components = cs.foldl advance [] := by
    rw [made, components_reduced reduced spelled]
  rw [own]
  exact ⟨made, reduced, spelled, follows_foldl start cs⟩

/-! ### Typed sources -/

theorem intercalate_concat (pieces : List (List Char)) :
    ∃ before : List Char, (before = [] ∨ before.getLast? = some '/') ∧
      ∀ piece, ['/'].intercalate (pieces ++ [piece]) = before ++ piece := by
  induction pieces with
  | nil => exact ⟨[], .inl rfl, fun piece => by simp⟩
  | cons p ps ih =>
    obtain ⟨before, ends, whole⟩ := ih
    refine ⟨p ++ '/' :: before, .inr ?_, fun piece => ?_⟩
    · rcases ends with rfl | slash
      · simp
      · simp [List.getLast?_append, List.getLast?_cons, slash]
    · have some : ps ++ [piece] ≠ [] := by simp
      obtain ⟨q, qs, rest⟩ := List.exists_cons_of_ne_nil some
      rw [List.cons_append, rest, List.intercalate_cons_cons, ← rest, whole]
      simp

-- The last name of a path ends its text.
theorem text_concat {cs : List Component} (reduced : IsReduced cs) :
    ∃ before : List Char, (before = [] ∨ before.getLast? = some '/') ∧
      ∀ s : String, (ofComponents (cs ++ [.name s])).text.toList = before ++ s.toList := by
  obtain ⟨names, rfl | rfl⟩ := reduced
  · obtain ⟨before, ends, whole⟩ := intercalate_concat (spelling (names.map .name))
    refine ⟨'/' :: before, .inr ?_, fun s => ?_⟩
    · rcases ends with rfl | slash
      · rfl
      · simp [List.getLast?_cons, slash]
    · have spelled : spelling (names.map .name ++ [.name s]) = spelling (names.map .name) ++ [s.toList] := by
        simp [spelling, Component.text]
      rw [List.cons_append, ofComponents_root, spelled, whole]
      simp
  · obtain ⟨before, ends, whole⟩ := intercalate_concat (spelling (names.map .name))
    refine ⟨before, ends, fun s => ?_⟩
    have spelled : spelling (names.map .name ++ [.name s]) = spelling (names.map .name) ++ [s.toList] := by
      simp [spelling, Component.text]
    rw [ofComponents_steps (by simp), spelled, whole]
    simp

theorem splitName_dot {before after : List Char} (last : '.' ∉ after) :
    splitName (before ++ '.' :: after) =
      if before.isEmpty then (before ++ '.' :: after, none) else (before, some after) := by
  have kept : ∀ c ∈ after.reverse, (c != '.') = true := by
    intro c member
    rw [bne_iff_ne]
    rintro rfl
    exact last (List.mem_reverse.1 member)
  have found : ((before ++ '.' :: after).reverse.takeWhile (· != '.')).reverse = after := by
    rw [List.reverse_append, List.reverse_cons, List.append_assoc, List.takeWhile_append_of_pos kept]
    simp
  have length : (before ++ '.' :: after).length - after.length - 1 = before.length := by
    rw [List.length_append, List.length_cons]
    omega
  have shorter : (after.length == (before ++ '.' :: after).length) = false := by
    rw [beq_eq_false_iff_ne, List.length_append, List.length_cons]
    omega
  simp only [splitName, found, length, shorter, Bool.false_or, List.take_left]

-- A name has an extension behind its last dot, unless it begins with that dot.
theorem splitName_iff {name before after : List Char} :
    splitName name = (before, some after) ↔
      name = before ++ '.' :: after ∧ before ≠ [] ∧ '.' ∉ after := by
  constructor
  · intro split
    by_cases dot : '.' ∈ name
    · obtain ⟨b, a, rfl, last⟩ : ∃ b a, name = b ++ '.' :: a ∧ '.' ∉ a := by
        obtain ⟨a, b, parts, first⟩ := List.eq_append_cons_of_mem (List.mem_reverse.2 dot)
        refine ⟨b.reverse, a.reverse, ?_, by simpa using first⟩
        rw [← List.reverse_reverse name, parts]
        simp
      rw [splitName_dot last] at split
      cases b with
      | nil => simp at split
      | cons c cs =>
        obtain ⟨rfl, same⟩ := Prod.mk.inj split
        obtain rfl := Option.some.inj same
        exact ⟨rfl, by simp, last⟩
    · have whole : name.reverse.takeWhile (· != '.') = name.reverse := by
        refine List.takeWhile_eq_self_iff.2 fun c member => ?_
        rw [bne_iff_ne]
        rintro rfl
        exact dot (List.mem_reverse.1 member)
      simp [splitName, whole] at split
  · rintro ⟨rfl, some, last⟩
    rw [splitName_dot last, if_neg (by simpa using some)]

/-- The typed sources that a path may be made from: it ends in the extension of a script, behind
something more than a dot, and they have another one in its place. -/
inductive TypedSources (c : Path) : List Path → Prop
  | script {before ext : String} {typed : List String} (text : c.text = before ++ "." ++ ext)
      (stem : ∃ x, before.toList.getLast? = some x ∧ x ≠ '/')
      (kind : (ext, typed) ∈ [("js", ["ts", "tsx"]), ("jsx", ["tsx"]), ("mjs", ["mts"]), ("cjs", ["cts"])]) :
      TypedSources c (typed.map fun e => ⟨before ++ "." ++ e⟩)
  | other (none : ∀ before ext, c.text = before ++ "." ++ ext →
      (∃ x, before.toList.getLast? = some x ∧ x ≠ '/') → ext ∉ ["js", "jsx", "mjs", "cjs"]) :
      TypedSources c []

section

variable {c : Path} (written : c = ofComponents c.components) (reduced : IsReduced c.components)

include written reduced

theorem text_of_fileName {s : String} (name : c.fileName = some s) :
    c.components.getLast? = some (.name s) ∧ '/' ∉ s.toList ∧
      ∃ before : List Char, (before = [] ∨ before.getLast? = some '/') ∧
        c.text.toList = before ++ s.toList ∧
          ∀ s', (ofComponents (c.components.dropLast ++ [.name s'])).text.toList = before ++ s'.toList := by
  have last : c.components.getLast? = some (.name s) := by
    unfold fileName at name
    split at name
    · next last =>
      obtain rfl := Option.some.inj name
      exact last
    · simp at name
  obtain ⟨above, components⟩ := List.getLast?_eq_some_iff.1 last
  have reduced' : IsReduced above := by
    have shorter := isReduced_dropLast reduced
    rwa [components, List.dropLast_concat] at shorter
  have inside : Component.name s ∈ c.components.filter isStep :=
    List.mem_filter.2 ⟨List.mem_of_getLast? last, rfl⟩
  obtain ⟨before, ends, whole⟩ := text_concat reduced'
  refine ⟨last, (isSpelled_of_step inside).plain, before, ends, ?_, fun s' => ?_⟩
  · rw [written, components, whole]
  · rw [components, List.dropLast_concat, whole]

theorem text_of_extension {e : String} (ends : c.extension = some e) :
    ∃ before : String, c.text = before ++ "." ++ e ∧
      (∃ x, before.toList.getLast? = some x ∧ x ≠ '/') ∧
        ∀ e', c.withExtension e' = ⟨before ++ "." ++ e'⟩ := by
  obtain ⟨s, name, found⟩ := Option.bind_eq_some_iff.1 ends
  obtain ⟨last, plain, above, -, text, made⟩ := text_of_fileName written reduced name
  obtain ⟨after, parted, rfl⟩ := Option.map_eq_some_iff.1 found
  obtain ⟨stem, split⟩ : ∃ stem, splitName s.toList = (stem, some after) := ⟨_, Prod.ext rfl parted⟩
  obtain ⟨parts, some, -⟩ := splitName_iff.1 split
  refine ⟨String.ofList (above ++ stem), ?_, ?_, fun e' => ?_⟩
  · rw [← String.toList_inj, text, parts]
    simp
  · obtain ⟨x, xs⟩ := Option.isSome_iff_exists.1 (List.getLast?_isSome.2 some)
    refine ⟨x, by simp [List.getLast?_append, xs], ?_⟩
    rintro rfl
    exact plain (parts ▸ List.mem_append_left _ (List.mem_of_getLast? xs))
  · have same : (c.withExtension e').text.toList =
        (String.ofList (above ++ stem) ++ "." ++ e').toList := by
      simp only [withExtension, last, made, split]
      simp
    exact congrArg Path.mk (String.toList_inj.1 same)

theorem extension_of_text {before e : String} (text : c.text = before ++ "." ++ e)
    (stem : ∃ x, before.toList.getLast? = some x ∧ x ≠ '/') (plain : '/' ∉ e.toList)
    (last : '.' ∉ e.toList) : c.extension = some e := by
  obtain ⟨x, ends, other⟩ := stem
  -- the text ends in a name
  obtain ⟨s, name⟩ : ∃ s, c.fileName = some s := by
    have dot : '.' ∈ c.text.toList := by simp [text]
    obtain ⟨names, shape⟩ := reduced
    cases List.eq_nil_or_concat names with
    | inl none =>
      subst none
      rcases shape with shape | shape <;> rw [written, shape] at dot <;> exact absurd dot (by decide)
    | inr more =>
      obtain ⟨names, s, rfl⟩ := more
      refine ⟨s, ?_⟩
      rcases shape with shape | shape <;> simp [fileName, shape, List.getLast?_cons]
  obtain ⟨-, -, above, root, text', -⟩ := text_of_fileName written reduced name
  have same : above ++ s.toList = before.toList ++ '.' :: e.toList := by
    rw [← text', text]
    simp
  -- which begins before the dot
  obtain ⟨stem, some, parts⟩ : ∃ stem, stem ≠ [] ∧ s.toList = stem ++ '.' :: e.toList := by
    have solid : above ≠ before.toList := by
      rintro rfl
      rcases root with none | slash
      · simp [none] at ends
      · exact other (Option.some.inj (ends.symm.trans slash))
    rcases List.append_eq_append_iff.1 same with ⟨stem, behind, parts⟩ | ⟨more, above', parts⟩
    · refine ⟨stem, ?_, parts⟩
      rintro rfl
      exact solid (by simpa using behind.symm)
    · rcases List.eq_nil_or_concat more with rfl | ⟨start, y, rfl⟩
      · exact absurd (by simpa using above') solid
      · rcases root with rfl | slash
        · simp at above'
        · obtain rfl : y = '/' := by simpa [above'] using slash
          have inside : '/' ∈ '.' :: e.toList := by simp [parts]
          exact absurd ((List.mem_cons.1 inside).resolve_left (by decide)) plain
  have split := splitName_iff.2 ⟨parts, some, last⟩
  rw [extension, name, Option.bind_some, extensionOf, split]
  simp

theorem typedSources : TypedSources c ((typedExtensions c.extension).map c.withExtension) := by
  by_cases script : ∃ e ∈ ["js", "jsx", "mjs", "cjs"], c.extension = some e
  · obtain ⟨e, key, ends⟩ := script
    obtain ⟨before, text, stem, typed⟩ := text_of_extension written reduced ends
    have kind : (e, typedExtensions (some e)) ∈
        [("js", ["ts", "tsx"]), ("jsx", ["tsx"]), ("mjs", ["mts"]), ("cjs", ["cts"])] := by
      simp only [List.mem_cons, List.not_mem_nil, or_false] at key
      rcases key with rfl | rfl | rfl | rfl <;> decide
    rw [ends, List.map_congr_left fun e' _ => typed e']
    exact .script text stem kind
  · have none : typedExtensions c.extension = [] := by
      unfold typedExtensions
      split
      case h_5 => rfl
      all_goals
        rename_i ends
        refine absurd ⟨_, ?_, ends⟩ script
        decide
    rw [none]
    refine .other fun before ext text stem key => script ⟨ext, key, ?_⟩
    have marks : '/' ∉ ext.toList ∧ '.' ∉ ext.toList := by
      simp only [List.mem_cons, List.not_mem_nil, or_false] at key
      rcases key with rfl | rfl | rfl | rfl <;> decide
    exact extension_of_text written reduced text stem marks.1 marks.2

-- A path has typed sources in one way only.
theorem typedSources_unique {typed typed' : List Path} (left : TypedSources c typed)
    (right : TypedSources c typed') : typed = typed' := by
  have marks {ext : String} {names : List String}
      (kind : (ext, names) ∈ [("js", ["ts", "tsx"]), ("jsx", ["tsx"]), ("mjs", ["mts"]), ("cjs", ["cts"])]) :
      '/' ∉ ext.toList ∧ '.' ∉ ext.toList ∧ ext ∈ ["js", "jsx", "mjs", "cjs"] ∧
        names = typedExtensions (some ext) := by
    simp only [List.mem_cons, List.not_mem_nil, or_false, Prod.mk.injEq] at kind
    rcases kind with ⟨rfl, rfl⟩ | ⟨rfl, rfl⟩ | ⟨rfl, rfl⟩ | ⟨rfl, rfl⟩ <;> decide
  cases left with
  | script text stem kind =>
    obtain ⟨plain, last, key, rfl⟩ := marks kind
    have ends := extension_of_text written reduced text stem plain last
    cases right with
    | script text' stem' kind' =>
      obtain ⟨plain', last', -, rfl⟩ := marks kind'
      obtain rfl := Option.some.inj
        (ends.symm.trans (extension_of_text written reduced text' stem' plain' last'))
      have same := congrArg String.toList (text.symm.trans text')
      simp only [String.toList_append, List.append_cancel_right_eq] at same
      rw [String.toList_inj.1 same]
    | other none => exact absurd key (none _ _ text stem)
  | other none =>
    cases right with
    | script text stem kind => exact absurd (marks kind).2.2.1 (none _ _ text stem)
    | other none => rfl

end

end Path

/-! ### Files -/

namespace FileTree

/-- Where a candidate is looked for: where it says, as a typed source, with each extension behind
it, and then, if it is a directory, as each index in it. -/
def Order (t : FileTree) (c : Path) (extensions : List String) (order : List Path) : Prop :=
  ∃ typed, c.TypedSources typed ∧
    order = c :: typed ++ extensions.map (fun e => ⟨c.text ++ "." ++ e⟩) ++
      if t.isDirectory c then extensions.map fun e => c.join ⟨"index." ++ e⟩ else []

/-- The path is the first that leads to a file. -/
def FirstFile (t : FileTree) (order : List Path) (p : Path) : Prop :=
  ∃ before after, order = before ++ p :: after ∧ t.isFile p = true ∧
    ∀ q ∈ before, t.isFile q = false

/-- The path is the first that a specifier may mean in a module and that leads to a file. -/
def Finds (t : FileTree) (importer : Path) (specifier : String) (extensions : List String)
    (p : Path) : Prop :=
  ∃ order, t.Order (Path.candidate importer specifier) extensions order ∧ t.FirstFile order p

section

variable {t : FileTree}

theorem isFile_iff {p : Path} : t.isFile p = true ↔
    ∃ place content, t.locate p = .ok place ∧ t.entryAt? place = some (.file content) := by
  unfold isFile entry?
  cases located : t.locate p with
  | error e => simp
  | ok place =>
    cases found : t.entryAt? place with
    | none => simp [found]
    | some e => cases e <;> simp [found]

theorem firstFile_iff {order : List Path} {p : Path} :
    t.FirstFile order p ↔ order.find? t.isFile = some p := by
  rw [List.find?_eq_some_iff_append]
  constructor
  · rintro ⟨before, after, rfl, file, first⟩
    exact ⟨file, before, after, rfl, by simpa using first⟩
  · rintro ⟨file, before, after, rfl, first⟩
    exact ⟨before, after, rfl, file, by simpa using first⟩

-- A file has one canonical path, and this path says which file it is.
theorem canonical_of_isFile {p : Path} (file : t.isFile p = true) : ∃ q, t.canonical p = .ok q := by
  obtain ⟨place, -, located, -⟩ := isFile_iff.1 file
  exact ⟨pathOf place, by rw [canonical, located]; rfl⟩

theorem canonical_inj {p q : Path} (left : t.isFile p = true) (right : t.isFile q = true) :
    t.canonical p = t.canonical q ↔ t.locate p = t.locate q := by
  obtain ⟨place, content, located, found⟩ := isFile_iff.1 left
  obtain ⟨place', content', located', found'⟩ := isFile_iff.1 right
  simp only [canonical, located, located', Except.map, Except.ok.injEq]
  refine ⟨fun same => ?_, fun same => by rw [same]⟩
  exact pathOf_same (names_of_locate located) (Valid.ne_nil_of_file found) (names_of_locate located')
    (Valid.ne_nil_of_file found') (by simp [Path.same, same])

end

section

variable {t : FileTree} {importer : Path} {specifier : String} {extensions : List String}
  (absolute : importer.isAbsolute = true) (relative : specifier.toList.head? = some '.')

include relative

-- The first file that is found has a canonical path, and this is the answer.
theorem resolve?_iff_find? {p : Path} :
    t.resolve? importer specifier extensions = some p ↔
      ∃ q, (Path.alternatives (Path.candidate importer specifier) extensions
        (t.isDirectory (Path.candidate importer specifier))).find? t.isFile = some q ∧
          t.canonical q = .ok p := by
  simp only [resolve?, relative, BEq.rfl, if_true, Option.map_eq_some_iff]
  refine exists_congr fun q => and_congr_right fun found => ?_
  obtain ⟨p', canonical⟩ := canonical_of_isFile (List.find?_some found)
  simp [canonical]

theorem resolve?_none_iff : t.resolve? importer specifier extensions = none ↔
    ∀ q ∈ Path.alternatives (Path.candidate importer specifier) extensions
      (t.isDirectory (Path.candidate importer specifier)), t.isFile q = false := by
  simp only [resolve?, relative, BEq.rfl, if_true, Option.map_eq_none_iff, List.find?_eq_none,
    Bool.not_eq_true]

include absolute

theorem order_alternatives : t.Order (Path.candidate importer specifier) extensions
    (Path.alternatives (Path.candidate importer specifier) extensions
      (t.isDirectory (Path.candidate importer specifier))) := by
  obtain ⟨written, reduced, -, -⟩ := Path.candidate_spec absolute relative
  exact ⟨_, Path.typedSources written reduced, rfl⟩

theorem finds_iff {p : Path} : t.Finds importer specifier extensions p ↔
    (Path.alternatives (Path.candidate importer specifier) extensions
      (t.isDirectory (Path.candidate importer specifier))).find? t.isFile = some p := by
  obtain ⟨written, reduced, -, -⟩ := Path.candidate_spec absolute relative
  constructor
  · rintro ⟨_, ⟨typed, sources, rfl⟩, first⟩
    obtain rfl := Path.typedSources_unique written reduced sources (Path.typedSources written reduced)
    exact firstFile_iff.1 first
  · intro found
    exact ⟨_, order_alternatives absolute relative, firstFile_iff.2 found⟩

theorem resolve?_of_finds {p : Path} (found : t.Finds importer specifier extensions p) :
    t.resolve? importer specifier extensions = (t.canonical p).toOption := by
  obtain ⟨order, -, first⟩ := id found
  obtain ⟨before, after, -, file, -⟩ := first
  obtain ⟨q, canonical⟩ := canonical_of_isFile file
  rw [canonical]
  exact (resolve?_iff_find? relative).2 ⟨p, (finds_iff absolute relative).1 found, canonical⟩

end

/-- What a relative specifier means in a module. It is followed from the directory of the module,
and of the places where a file may be that are spelled so, in their order, the first file is meant,
by its canonical path; if there is none nothing is meant. So two specifiers, in whatever modules, mean the
same exactly if they lead to the same file, and then a registry has the same entry for them. -/
theorem resolve?_first {t : FileTree} {importer : Path} {specifier : String}
    (absolute : importer.isAbsolute = true) (relative : specifier.toList.head? = some '.')
    (extensions : List String) :
    let c := Path.candidate importer specifier
    let meant := t.resolve? importer specifier extensions
    (∀ x ∈ c.components, x ≠ .here ∧ x ≠ .up) ∧
      Path.Follows [] (importer.components.dropLast ++ (Path.mk specifier).components) c.components ∧
      (∃ order, t.Order c extensions order ∧
        (∀ p, meant = some p ↔ ∃ q, t.FirstFile order q ∧ t.canonical q = .ok p) ∧
        (meant = none ↔ ∀ q ∈ order, t.isFile q = false)) ∧
      ∀ {importer' : Path} {specifier' : String} {extensions' : List String},
        importer'.isAbsolute = true → specifier'.toList.head? = some '.' →
        ∀ {q q' : Path}, t.Finds importer specifier extensions q →
          t.Finds importer' specifier' extensions' q' →
          let meant' := t.resolve? importer' specifier' extensions'
          (t.locate q = t.locate q' ↔ meant = meant') ∧
            (t.locate q = t.locate q' → ∀ r : Registry, meant.bind r.get? = meant'.bind r.get?) := by
  intro c meant
  obtain ⟨written, reduced, spelled, follows⟩ := Path.candidate_spec absolute relative
  refine ⟨?_, follows, ?_, ?_⟩
  · intro x member
    obtain ⟨names, shape | shape⟩ := reduced <;> rw [shape] at member
    · rcases List.mem_cons.1 member with rfl | named
      · decide
      · obtain ⟨name, -, rfl⟩ := List.mem_map.1 named
        simp
    · obtain ⟨name, -, rfl⟩ := List.mem_map.1 member
      simp
  · refine ⟨_, order_alternatives absolute relative, fun p => ?_, resolve?_none_iff relative⟩
    simp only [firstFile_iff]
    exact resolve?_iff_find? relative
  · intro importer' specifier' extensions' absolute' relative' q q' found found' meant'
    have answer : meant = (t.canonical q).toOption := resolve?_of_finds absolute relative found
    have answer' : meant' = (t.canonical q').toOption := resolve?_of_finds absolute' relative' found'
    obtain ⟨-, -, -, -, -, file, -⟩ := found
    obtain ⟨-, -, -, -, -, file', -⟩ := found'
    have same : meant = meant' ↔ t.canonical q = t.canonical q' := by
      obtain ⟨p, canonical⟩ := canonical_of_isFile file
      obtain ⟨p', canonical'⟩ := canonical_of_isFile file'
      rw [answer, answer', canonical, canonical']
      simp [Except.toOption]
    rw [← canonical_inj file file', ← same]
    exact ⟨Iff.rfl, fun one r => by rw [one]⟩

end FileTree

-- A file that a link leads to as well.
def Sample.linked : FileTree :=
  ⟨[(["p"], .directory), (["p", "src"], .directory), (["p", "src", "a.ts"], .file "".toUTF8),
    (["p", "link"], .link ⟨"src"⟩)]⟩

/-- The typed source of a script, and the same file by a link and without its extension. -/
theorem FileTree.resolve?_first_linked :
    let meant := Sample.linked.resolve? ⟨"/p/src/b.ts"⟩ "./a.js" ["ts"]
    let meant' := Sample.linked.resolve? ⟨"/p/c.ts"⟩ "./x/../link/./a" ["ts"]
    Path.candidate ⟨"/p/c.ts"⟩ "./x/../link/./a" = ⟨"/p/link/a"⟩ ∧
      meant = some ⟨"/p/src/a.ts"⟩ ∧ ∀ r : Registry, meant.bind r.get? = meant'.bind r.get? := by
  intro meant meant'
  have spelled : Path.candidate ⟨"/p/c.ts"⟩ "./x/../link/./a" = ⟨"/p/link/a"⟩ := by decide
  have one : Sample.linked.resolve? ⟨"/p/src/b.ts"⟩ "./a.js" ["ts"] = some ⟨"/p/src/a.ts"⟩ := by
    cbv
  have other : Sample.linked.resolve? ⟨"/p/c.ts"⟩ "./x/../link/./a" ["ts"] =
      some ⟨"/p/src/a.ts"⟩ := by
    rw [FileTree.resolve?, spelled]
    cbv
  obtain ⟨-, -, ⟨order, looked, first, -⟩, alike⟩ :=
    @FileTree.resolve?_first Sample.linked ⟨"/p/src/b.ts"⟩ "./a.js" (by decide) (by decide) ["ts"]
  obtain ⟨-, -, ⟨order', looked', first', -⟩, -⟩ :=
    @FileTree.resolve?_first Sample.linked ⟨"/p/c.ts"⟩ "./x/../link/./a" (by decide) (by decide)
      ["ts"]
  obtain ⟨q, here, -⟩ := (first _).1 one
  obtain ⟨q', here', -⟩ := (first' _).1 other
  have same := alike (by decide) (by decide) ⟨order, looked, here⟩ ⟨order', looked', here'⟩
  exact ⟨spelled, one, same.2 (same.1.2 (one.trans other.symm))⟩

end ServerLink
