import Mathlib.Algebra.BigOperators.Group.Finset.Basic
import Mathlib.Data.List.Lex
import Mathlib.Data.Prod.Lex
import ServerLink.Proofs.Origins

/-!
A registry after any history. Files are recorded one after the other, some of them again and some
without functions, under one spelling of a path or another. What is left is a finite map: it leads
from the components of the paths that were last recorded with functions to these functions, in the
order of components.
-/

set_option autoImplicit false

namespace ServerLink

/-! ### The order of paths -/

/-- The rank of a component with the text of a name. Components are ordered as these pairs are. -/
def Component.key : Component → ℕ ×ₗ String
  | .name s => toLex (3, s)
  | c => toLex (c.rank, "")

theorem Component.lt_iff {a b : Component} : a.lt b = true ↔ a.key < b.key := by
  cases a <;> cases b <;> simp [lt, rank, key, Prod.Lex.toLex_lt_toLex]

theorem Component.key_injective : Function.Injective key := by
  intro a b
  cases a <;> cases b <;> simp [key, rank]

namespace Path

def keys (cs : List Component) : List (ℕ ×ₗ String) := cs.map Component.key

theorem keys_injective : Function.Injective keys :=
  List.map_injective_iff.2 Component.key_injective

theorem ltComponents_iff {as bs : List Component} :
    ltComponents as bs = true ↔ keys as < keys bs := by
  induction as generalizing bs with
  | nil => cases bs <;> simp [ltComponents, keys]
  | cons a as ih =>
    cases bs with
    | nil => simp [ltComponents, keys]
    | cons b bs =>
      have same : a = b ↔ a.key = b.key := Component.key_injective.eq_iff.symm
      simp only [ltComponents, Bool.or_eq_true, Bool.and_eq_true, beq_iff_eq, Component.lt_iff, ih,
        same, keys, List.map_cons, List.cons_lt_cons_iff]

variable {as bs cs : List Component}

theorem ltComponents_trans (first : ltComponents as bs = true) (next : ltComponents bs cs = true) :
    ltComponents as cs = true := by
  rw [ltComponents_iff] at *
  exact lt_trans first next

theorem ltComponents_asymm (before : ltComponents as bs = true) : ltComponents bs as = false := by
  rw [Bool.eq_false_iff, Ne, ltComponents_iff]
  exact lt_asymm (ltComponents_iff.1 before)

theorem ltComponents_of_not (before : ltComponents as bs = false) (other : as ≠ bs) :
    ltComponents bs as = true := by
  rw [Bool.eq_false_iff, Ne, ltComponents_iff, not_lt] at before
  exact ltComponents_iff.2 (lt_of_le_of_ne before fun same => other (keys_injective same.symm))

end Path

/-! ### Recording -/

namespace Registry

/-- The registry after files were recorded one after the other. -/
def insertAll (r : Registry) (history : List (Path × FunctionMap)) : Registry :=
  history.foldl (fun r record => r.insert record.1 record.2) r

/-- The files stand in the order of their paths, each path once, and each has functions. -/
structure Orderly (r : Registry) : Prop where
  ascending : r.files.Pairwise fun a b => a.1.lt b.1 = true
  filled : ∀ file ∈ r.files, file.2.isEmpty = false

variable {r : Registry} {p : Path} {m : FunctionMap}

theorem mem_insertFile {file : Path × FunctionMap} {files : List (Path × FunctionMap)}
    (member : file ∈ insertFile p m files) :
    (file.2 = m ∧ file.1.components = p.components) ∨ file ∈ files := by
  induction files with
  | nil =>
    obtain rfl := List.mem_singleton.1 member
    exact Or.inl ⟨rfl, rfl⟩
  | cons entry files ih =>
    obtain ⟨q, n⟩ := entry
    unfold insertFile at member
    split at member
    · next same =>
      rcases List.mem_cons.1 member with rfl | later
      · have components : p.components = q.components := by simpa [Path.same] using same
        exact Or.inl ⟨rfl, components.symm⟩
      · exact Or.inr (List.mem_cons_of_mem _ later)
    · split at member
      · rcases List.mem_cons.1 member with rfl | old
        · exact Or.inl ⟨rfl, rfl⟩
        · exact Or.inr old
      · rcases List.mem_cons.1 member with rfl | later
        · exact Or.inr (by simp)
        · exact (ih later).imp id (List.mem_cons_of_mem _)

theorem ascending_insertFile {files : List (Path × FunctionMap)}
    (ascending : files.Pairwise fun a b => a.1.lt b.1 = true) :
    (insertFile p m files).Pairwise fun a b => a.1.lt b.1 = true := by
  induction files with
  | nil => simp [insertFile]
  | cons entry files ih =>
    obtain ⟨q, n⟩ := entry
    obtain ⟨first, others⟩ := List.pairwise_cons.1 ascending
    unfold insertFile
    split
    · exact List.pairwise_cons.2 ⟨first, others⟩
    · next other =>
      split
      · next before =>
        refine List.pairwise_cons.2 ⟨fun file member => ?_, ascending⟩
        rcases List.mem_cons.1 member with rfl | later
        · exact before
        · exact Path.ltComponents_trans before (first file later)
      · next behind =>
        have after : q.lt p = true := by
          refine Path.ltComponents_of_not (by simpa [Path.lt] using behind) ?_
          simpa [Path.same] using other
        refine List.pairwise_cons.2 ⟨fun file member => ?_, ih others⟩
        rcases mem_insertFile member with ⟨-, new⟩ | old
        · simpa [Path.lt, new] using after
        · exact first file old

theorem Orderly.insert (orderly : r.Orderly) : (r.insert p m).Orderly := by
  unfold Registry.insert
  split
  · exact ⟨orderly.ascending.filter _, fun file member =>
      orderly.filled file (List.mem_filter.1 member).1⟩
  · next some =>
    refine ⟨ascending_insertFile orderly.ascending, fun file member => ?_⟩
    rcases mem_insertFile member with ⟨new, -⟩ | old
    · simpa [new] using some
    · exact orderly.filled file old

theorem orderly_empty (root : Path) : (empty root).Orderly := ⟨.nil, by simp [empty]⟩

theorem Orderly.insertAll (orderly : r.Orderly) (history : List (Path × FunctionMap)) :
    (r.insertAll history).Orderly := by
  induction history generalizing r with
  | nil => exact orderly
  | cons record history ih => exact ih orderly.insert

-- No two files are the same path, so that what a path leads to is what is recorded for it.
theorem Orderly.get?_iff (orderly : r.Orderly) :
    r.get? p = some m ↔ ∃ q, q.components = p.components ∧ (q, m) ∈ r.files := by
  constructor
  · intro found
    obtain ⟨q, member, same⟩ := mem_of_get? found
    exact ⟨q, by simpa [Path.same] using same, member⟩
  · rintro ⟨q, same, member⟩
    obtain ⟨before, after, split⟩ := List.append_of_mem member
    have ascending := orderly.ascending
    rw [split] at ascending
    have apart : ∀ file ∈ before, file.1.same p = false := by
      intro file earlier
      have order : file.1.lt q = true :=
        (List.pairwise_append.1 ascending).2.2 file earlier (q, m) List.mem_cons_self
      refine Bool.eq_false_iff.2 fun here => ?_
      have equal : file.1.components = q.components := by simpa [Path.same, same] using here
      rw [Path.lt, equal] at order
      simp [Path.ltComponents_asymm order] at order
    have none : before.find? (fun file => file.1.same p) = none := by simpa using apart
    have here : q.same p = true := by simpa [Path.same] using same
    simp [get?, split, List.find?_append, none, here]

end Registry

/-! ### What a history leaves -/

/-- A sequence of recordings: paths, each with the functions that were recorded for it. -/
abbrev History := List (Path × FunctionMap)

namespace History

/-- What a history leaves for a path of these components: the functions that were recorded for it
last, unless there were none. -/
def left? (h : History) (cs : List Component) : Option FunctionMap :=
  ((h.reverse.find? fun record => record.1.components == cs).map Prod.snd).filter fun m => !m.isEmpty

/-- The components of the paths that a history leaves functions for. -/
def paths (h : History) : Finset (List Component) :=
  (h.map fun record => record.1.components).toFinset.filter fun cs => (h.left? cs).isSome

variable {h : History} {cs : List Component} {m : FunctionMap}

-- One more recording decides about its own path only.
theorem left?_concat (h : History) (p : Path) (m : FunctionMap) (cs : List Component) :
    History.left? (h ++ [(p, m)]) cs =
      if p.components = cs then (if m.isEmpty then none else some m) else h.left? cs := by
  by_cases same : p.components = cs
  · cases empty : m.isEmpty <;> simp [left?, same, empty]
  · simp [left?, same]

theorem mem_of_left? (known : h.left? cs = some m) :
    (∃ record ∈ h, record.1.components = cs ∧ record.2 = m) ∧ m.isEmpty = false := by
  obtain ⟨found, some⟩ := Option.filter_eq_some_iff.1 known
  obtain ⟨record, here, rfl⟩ := Option.map_eq_some_iff.1 found
  have same := List.find?_some here
  have member := List.mem_of_find?_eq_some here
  exact ⟨⟨record, by simpa using member, by simpa using same, rfl⟩, by simpa using some⟩

theorem mem_paths : cs ∈ h.paths ↔ (h.left? cs).isSome = true := by
  simp only [paths, Finset.mem_filter, List.mem_toFinset, and_iff_right_iff_imp]
  intro known
  obtain ⟨m, known⟩ := Option.isSome_iff_exists.1 known
  obtain ⟨⟨record, member, same, -⟩, -⟩ := mem_of_left? known
  exact List.mem_map.2 ⟨record, member, same⟩

-- A lookup finds what the history leaves for the path, however the path is spelled.
theorem get?_insertAll (root : Path) (h : History) (p : Path) :
    ((Registry.empty root).insertAll h).get? p = h.left? p.components := by
  induction h using List.reverseRecOn with
  | nil => rfl
  | append_singleton h record ih =>
    obtain ⟨q, m⟩ := record
    have last : (Registry.empty root).insertAll (h ++ [(q, m)]) =
        ((Registry.empty root).insertAll h).insert q m := by
      simp [Registry.insertAll]
    rw [last, Registry.get?_insert, left?_concat, ih]
    simp [Path.same]

/-- The registry that a history makes of an empty one. -/
def made (root : Path) (h : History) : Registry := (Registry.empty root).insertAll h

theorem made_orderly (root : Path) (h : History) : (h.made root).Orderly :=
  (Registry.orderly_empty root).insertAll h

-- The files are the pairs that the map is made of.
theorem mem_made_files (root : Path) (h : History) (cs : List Component) (m : FunctionMap) :
    (∃ p, p.components = cs ∧ (p, m) ∈ (h.made root).files) ↔ h.left? cs = some m := by
  constructor
  · rintro ⟨p, rfl, member⟩
    rw [← get?_insertAll root]
    exact (made_orderly root h).get?_iff.2 ⟨p, rfl, member⟩
  · intro known
    obtain ⟨⟨record, -, rfl, -⟩, -⟩ := mem_of_left? known
    rw [← get?_insertAll root] at known
    exact (made_orderly root h).get?_iff.1 known

theorem nodup_made (root : Path) (h : History) :
    ((h.made root).files.map fun file => file.1.components).Nodup := by
  rw [List.Nodup, List.pairwise_map]
  refine (made_orderly root h).ascending.imp fun {a b} before same => ?_
  rw [Path.lt, same] at before
  simp [Path.ltComponents_asymm before] at before

theorem toFinset_made (root : Path) (h : History) :
    ((h.made root).files.map fun file => file.1.components).toFinset = h.paths := by
  ext cs
  rw [List.mem_toFinset, mem_paths, Option.isSome_iff_exists]
  simp only [← mem_made_files root, List.mem_map, Prod.exists]
  constructor
  · rintro ⟨p, m, member, same⟩
    exact ⟨m, p, same, member⟩
  · rintro ⟨m, p, same, member⟩
    exact ⟨p, m, member, same⟩

/-- The number of functions that a history leaves for a path. -/
def count (h : History) (cs : List Component) : Nat := ((h.left? cs).map FunctionMap.size).getD 0

theorem fileCount_made (root : Path) (h : History) : (h.made root).fileCount = h.paths.card := by
  rw [← toFinset_made root, List.toFinset_card_of_nodup (nodup_made root h), List.length_map]
  rfl

theorem functionCount_made (root : Path) (h : History) :
    (h.made root).functionCount = ∑ cs ∈ h.paths, h.count cs := by
  have sizes : ((h.made root).files.map fun file => file.1.components).map h.count =
      (h.made root).files.map fun file => file.2.size := by
    rw [List.map_map]
    refine List.map_congr_left fun file member => ?_
    have known := (mem_made_files root h file.1.components file.2).1 ⟨file.1, rfl, member⟩
    simp [count, known]
  have fold (files : List (Path × FunctionMap)) (n : Nat) :
      files.foldl (fun n file => n + file.2.size) n = n + (files.map fun file => file.2.size).sum := by
    induction files generalizing n with
    | nil => simp
    | cons file files ih => simp [ih, Nat.add_assoc]
  rw [← toFinset_made root, List.sum_toFinset _ (nodup_made root h), sizes, Registry.functionCount,
    fold, Nat.zero_add]

/-! ### Entries in order -/

-- The first of what stands in a row is the one that the others stand behind.
theorem find?_eq_some_iff_first {α : Type} {before : α → α → Prop}
    (asymm : ∀ a b, before a b → ¬ before b a) {xs : List α} (row : xs.Pairwise before)
    {q : α → Bool} {x : α} : xs.find? q = some x ↔
      x ∈ xs ∧ q x = true ∧ ∀ y ∈ xs, q y = true → y = x ∨ before x y := by
  have first {x : α} (found : xs.find? q = some x) :
      ∀ y ∈ xs, q y = true → y = x ∨ before x y := by
    intro y member fit
    obtain ⟨-, left, right, split, unfit⟩ := List.find?_eq_some_iff_append.1 found
    rw [split] at row member
    rcases List.mem_append.1 member with earlier | later
    · exact absurd fit (by simpa using unfit y earlier)
    · exact (List.mem_cons.1 later).imp id
        ((List.pairwise_cons.1 (List.pairwise_append.1 row).2.1).1 y)
  constructor
  · intro found
    exact ⟨List.mem_of_find?_eq_some found, List.find?_some found, first found⟩
  · rintro ⟨member, fit, least⟩
    obtain ⟨z, found⟩ := Option.isSome_iff_exists.1 (List.find?_isSome.2 ⟨x, member, fit⟩)
    have order := least z (List.mem_of_find?_eq_some found) (List.find?_some found)
    rcases first found x member fit with rfl | behind
    · exact found
    · rcases order with rfl | ahead
      · exact found
      · exact absurd ahead (asymm _ _ behind)

/-- A function of a history: the path it was recorded for, the name it is exported under, and the
function itself. -/
abbrev Entry := List Component × String × ServerFunction

/-- The order of paths, and for one path that of names. -/
def Entry.before (a b : Entry) : Prop :=
  Path.ltComponents a.1 b.1 = true ∨ a.1 = b.1 ∧ a.2.1 < b.2.1

theorem Entry.before_asymm (a b : Entry) (ahead : a.before b) : ¬ b.before a := by
  rintro (behind | ⟨same, behind⟩)
  · rcases ahead with ahead | ⟨same, -⟩
    · simp [Path.ltComponents_asymm ahead] at behind
    · rw [same] at behind
      simp [Path.ltComponents_asymm behind] at behind
  · rcases ahead with ahead | ⟨-, ahead⟩
    · rw [same] at ahead
      simp [Path.ltComponents_asymm ahead] at ahead
    · exact lt_asymm ahead behind

/-- The history leaves the function at the entry's path, under the entry's name. -/
def Stores (h : History) (e : Entry) : Prop :=
  ∃ m, h.left? e.1 = some m ∧ e.2 ∈ m.entries

/-- The functions of a registry in the order of files and names. -/
def listed (r : Registry) : List Entry :=
  r.files.flatMap fun file => file.2.entries.map fun entry => (file.1.components, entry)

theorem findById?_eq (r : Registry) (id : String) :
    r.findById? id = ((listed r).find? fun e => e.2.2.id == id).map fun e => e.2.2 := by
  have values : (r.files.flatMap fun file => file.2.values) = (listed r).map fun e => e.2.2 := by
    simp [listed, FunctionMap.values, List.map_flatMap, Function.comp_def]
  rw [Registry.findById?, values, List.find?_map]
  rfl

theorem mem_listed (root : Path) (h : History) (e : Entry) :
    e ∈ listed (h.made root) ↔ h.Stores e := by
  obtain ⟨cs, name, f⟩ := e
  simp only [listed, Stores, List.mem_flatMap, List.mem_map, Prod.mk.injEq, Prod.exists]
  constructor
  · rintro ⟨p, m, member, _, _, entry, rfl, rfl, rfl⟩
    exact ⟨m, (mem_made_files root h _ m).1 ⟨p, rfl, member⟩, entry⟩
  · rintro ⟨m, known, entry⟩
    obtain ⟨p, rfl, member⟩ := (mem_made_files root h cs m).2 known
    exact ⟨p, m, member, name, f, entry, rfl, rfl, rfl⟩

theorem listed_ascending (root : Path)
    (sorted : ∀ record ∈ h, FunctionMap.Ascending record.2.entries) :
    (listed (h.made root)).Pairwise Entry.before := by
  rw [listed, List.pairwise_flatMap]
  constructor
  · intro file member
    have known := (mem_made_files root h file.1.components file.2).1 ⟨file.1, rfl, member⟩
    obtain ⟨⟨record, recorded, -, same⟩, -⟩ := mem_of_left? known
    have ascending := sorted record recorded
    rw [same] at ascending
    exact List.pairwise_map.2 (ascending.imp fun order => Or.inr ⟨rfl, order⟩)
  · refine (made_orderly root h).ascending.imp fun {a b} order => ?_
    intro x left y right
    obtain ⟨_, -, rfl⟩ := List.mem_map.1 left
    obtain ⟨_, -, rfl⟩ := List.mem_map.1 right
    exact Or.inl order

end History

/-! ### The registry as a finite map -/

/-- A registry is the finite map that its history leaves: it leads from each path that was last
recorded with functions to these functions and from no other path, however paths are spelled, and
counts, lists and searches what the map holds in the order of paths and names. -/
theorem registry_of_history (root : Path) {h : History}
    (sorted : ∀ record ∈ h, FunctionMap.Ascending record.2.entries) :
    (∀ p, (h.made root).get? p = h.left? p.components ∧
      (h.made root).contains p = (h.left? p.components).isSome) ∧
    (∀ file ∈ (h.made root).files, file.2.isEmpty = false) ∧
    (h.made root).fileCount = h.paths.card ∧
    (h.made root).functionCount = ∑ cs ∈ h.paths, h.count cs ∧
    ((h.made root).files.Pairwise fun a b => a.1.lt b.1 = true) ∧
    (∀ cs m, (∃ p, p.components = cs ∧ (p, m) ∈ (h.made root).files) ↔ h.left? cs = some m) ∧
    ∀ id, (((h.made root).findById? id).isSome = true ↔ ∃ e, h.Stores e ∧ e.2.2.id = id) ∧
      ∀ f, (h.made root).findById? id = some f ↔ ∃ e, h.Stores e ∧ e.2.2 = f ∧ f.id = id ∧
        ∀ e', h.Stores e' → e'.2.2.id = id → e' = e ∨ e.before e' := by
  have orderly := History.made_orderly root h
  have get (p : Path) : (h.made root).get? p = h.left? p.components :=
    History.get?_insertAll root h p
  refine ⟨fun p => ⟨get p, by rw [Registry.contains, get]⟩, orderly.filled,
    History.fileCount_made root h, History.functionCount_made root h, orderly.ascending,
    History.mem_made_files root h, fun id => ?_⟩
  have row := History.listed_ascending root sorted
  have first (e : History.Entry) :=
    History.find?_eq_some_iff_first History.Entry.before_asymm row
      (q := fun e => e.2.2.id == id) (x := e)
  simp only [History.mem_listed, beq_iff_eq] at first
  simp only [History.findById?_eq]
  constructor
  · simp [List.find?_isSome, History.mem_listed]
  · intro f
    simp only [Option.map_eq_some_iff, first]
    constructor
    · rintro ⟨e, ⟨stored, here, least⟩, rfl⟩
      exact ⟨e, stored, rfl, here, least⟩
    · rintro ⟨e, stored, rfl, here, least⟩
      exact ⟨e, ⟨stored, here, least⟩, rfl⟩

namespace Sample

def exporting (name id : String) : FunctionMap :=
  .ofList [(name, ⟨id, ⟨"/p/a"⟩, name, name, false⟩)]

/-- A history in which one file is recorded again under another spelling, and another one without
functions at last. -/
def respelled : History :=
  [(⟨"/p//a"⟩, exporting "f" "x"), (⟨"/p/b"⟩, exporting "g" "y"), (⟨"/p/./a"⟩, exporting "h" "x"),
    (⟨"/p/b/"⟩, .empty), (⟨"/p/../p/a"⟩, exporting "k" "x")]

end Sample

theorem registry_of_history_respelled :
    (∀ record ∈ Sample.respelled, FunctionMap.Ascending record.2.entries) ∧
      (Sample.respelled.made ⟨"/p"⟩).get? ⟨"/p/a/"⟩ = some (Sample.exporting "h" "x") ∧
      (Sample.respelled.made ⟨"/p"⟩).contains ⟨"/p/b"⟩ = false ∧
      (Sample.respelled.made ⟨"/p"⟩).fileCount = 2 ∧
      (Sample.respelled.made ⟨"/p"⟩).functionCount = 2 ∧
      ((Sample.respelled.made ⟨"/p"⟩).findById? "x").isSome = true := by
  have sorted : ∀ record ∈ Sample.respelled, FunctionMap.Ascending record.2.entries := by
    simp only [Sample.respelled, List.forall_mem_cons, List.not_mem_nil, false_implies,
      implies_true, and_true]
    exact ⟨FunctionMap.ascending_ofList _, FunctionMap.ascending_ofList _,
      FunctionMap.ascending_ofList _, List.Pairwise.nil, FunctionMap.ascending_ofList _⟩
  obtain ⟨maps, -, files, functions, -, -, find⟩ := registry_of_history ⟨"/p"⟩ sorted
  refine ⟨sorted, (maps _).1.trans (by decide), (maps _).2.trans (by decide),
    files.trans (by decide), functions.trans (by decide), (find "x").1.2 ?_⟩
  exact ⟨(Path.components ⟨"/p/a"⟩, "h", ⟨"x", ⟨"/p/a"⟩, "h", "h", false⟩),
    ⟨Sample.exporting "h" "x", by decide, by decide⟩, rfl⟩

end ServerLink
