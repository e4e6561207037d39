import ServerLink.Proofs.Agreement
import ServerLink.Proofs.LocalNames

/-!
Registration code as a program. Its statements make a registry unless there is one, put functions in
their places, and mark functions through their places. The modules of one project may run their code
in any order and as often as they like: the registry ends up the same.
-/

set_option autoImplicit false

namespace ServerLink

open Script Text

namespace Registering

/-! ### Statements -/

/-- A statement of registration code. -/
inductive Statement where
  /-- Makes a registry if there is none. -/
  | create
  /-- Puts a function of the module in the place of an identifier. -/
  | assign (id name : String)
  /-- Marks the function in that place as one that wants the context of the call. -/
  | mark (id : String)

namespace Statement

def text (g : GlobalNames) : Statement → String
  | .create =>
      ";if (!" ++ g.registryRef ++ ") \x7b " ++ g.registryRef ++ " = Object.create(null); \x7d\n"
  | .assign id name => g.slot id ++ " = " ++ name ++ ";\n"
  | .mark id => g.slot id ++ "." ++ g.contextFlag ++ " = true;\n"

-- The function is called by a name.
def IsNamed : Statement → Prop
  | .assign _ name => IsWord name
  | _ => True

end Statement

def registering (f : ServerFunction) : List Statement :=
  .assign f.id f.localName :: if f.requiresContext then [.mark f.id] else []

/-- The statements of the registration code of a module. -/
def program (own : FunctionMap) : List Statement := .create :: own.values.flatMap registering

/-- The code writes these statements, on lines of their own. -/
def Writes (g : GlobalNames) (code : String) (p : List Statement) : Prop :=
  code.toList = '\n' :: p.flatMap (fun s => (s.text g).toList) ∧ ∀ s ∈ p, s.IsNamed

theorem toList_registration_program (g : GlobalNames) (own : FunctionMap) :
    (own.registration g).toList = '\n' :: (program own).flatMap fun s => (s.text g).toList := by
  have one (f : ServerFunction) : (FunctionMap.registerFunction g f).toList =
      (registering f).flatMap fun s => (s.text g).toList := by
    rw [registerFunction_eq]
    by_cases context : f.requiresContext = true <;>
      simp [registering, context, Statement.text, GlobalNames.assignment, GlobalNames.contextMark]
  simp [FunctionMap.registration, program, Statement.text, List.flatMap_assoc, List.flatMap_map,
    one]

theorem registration_writes {own : FunctionMap} (g : GlobalNames)
    (words : ∀ f ∈ own.values, IsWord f.localName) :
    Writes g (own.registration g) (program own) := by
  constructor
  · exact toList_registration_program g own
  · intro s member
    rcases List.mem_cons.1 member with rfl | member
    · trivial
    obtain ⟨f, known, here⟩ := List.mem_flatMap.1 member
    rcases List.mem_cons.1 here with rfl | marks
    · exact words f known
    · split at marks
      · obtain rfl := List.mem_singleton.1 marks
        trivial
      · simp at marks

-- Each statement shows where it ends, since a name ends before a semicolon.
theorem text_append_inj {g : GlobalNames} {s t : Statement} (left : s.IsNamed) (right : t.IsNamed)
    {xs ys : List Char} (same : (s.text g).toList ++ xs = (t.text g).toList ++ ys) :
    s = t ∧ xs = ys := by
  have slots {id id' : String} {xs ys : List Char}
      (same : (g.slot id).toList ++ xs = (g.slot id').toList ++ ys) : id = id' ∧ xs = ys := by
    simp only [GlobalNames.slot, String.toList_append, toList_quoted, List.append_assoc,
      List.append_cancel_left_eq] at same
    obtain ⟨ids, rest⟩ := quotedChars_append_inj same
    exact ⟨String.toList_inj.1 ids, List.append_cancel_left rest⟩
  have opens (id : String) (c : Char) (cs zs : List Char) (other : c ≠ 'g') :
      c :: cs ≠ (g.slot id).toList ++ zs := by
    simp [GlobalNames.slot, GlobalNames.registryRef, other]
  have create :
      (Statement.create.text g).toList = ';' :: (Statement.create.text g).toList.tail := by
    simp [Statement.text]
  cases s with
  | create =>
    cases t with
    | create => exact ⟨rfl, List.append_cancel_left same⟩
    | assign id name | mark id =>
      rw [create] at same
      simp only [Statement.text, String.toList_append, List.append_assoc] at same
      exact absurd same (opens id ';' _ _ (by decide))
  | assign id name =>
    cases t with
    | create =>
      rw [create] at same
      simp only [Statement.text, String.toList_append, List.append_assoc] at same
      exact absurd same.symm (opens id ';' _ _ (by decide))
    | assign id' name' =>
      simp only [Statement.text, String.toList_append, List.append_assoc] at same
      obtain ⟨rfl, rest⟩ := slots same
      have ends : ';' ∉ name.toList ∧ ';' ∉ name'.toList :=
        ⟨IsWord.not_mem left (by decide), IsWord.not_mem right (by decide)⟩
      have tails : name.toList ++ ';' :: '\n' :: xs = name'.toList ++ ';' :: '\n' :: ys :=
        List.append_cancel_left rest
      obtain ⟨names, rest⟩ := stop_inj ends.1 ends.2 tails
      exact ⟨by rw [String.toList_inj.1 names], (List.cons.inj rest).2⟩
    | mark id' =>
      simp only [Statement.text, String.toList_append, List.append_assoc] at same
      have rest := (slots same).2
      simp at rest
  | mark id =>
    cases t with
    | create =>
      rw [create] at same
      simp only [Statement.text, String.toList_append, List.append_assoc] at same
      exact absurd same.symm (opens id ';' _ _ (by decide))
    | assign id' name' =>
      simp only [Statement.text, String.toList_append, List.append_assoc] at same
      have rest := (slots same).2
      simp at rest
    | mark id' =>
      simp only [Statement.text, String.toList_append, List.append_assoc] at same
      obtain ⟨rfl, rest⟩ := slots same
      exact ⟨rfl, by simpa using rest⟩

-- Code writes one program at most.
theorem Writes.unique {g : GlobalNames} {code : String} {p q : List Statement}
    (left : Writes g code p) (right : Writes g code q) : p = q := by
  obtain ⟨spelled, named⟩ := left
  obtain ⟨again, named'⟩ := right
  have same := List.cons.inj (spelled.symm.trans again) |>.2
  clear spelled again
  have solid (s : Statement) : (s.text g).toList ≠ [] := by
    cases s <;> simp [Statement.text, GlobalNames.slot, GlobalNames.registryRef]
  induction p generalizing q with
  | nil =>
    cases q with
    | nil => rfl
    | cons t q => exact absurd (List.append_eq_nil_iff.1 same.symm).1 (solid t)
  | cons s p ih =>
    cases q with
    | nil => exact absurd (List.append_eq_nil_iff.1 same).1 (solid s)
    | cons t q =>
      obtain ⟨rfl, rest⟩ := text_append_inj (named s (by simp)) (named' t (by simp)) same
      rw [ih (fun s member => named s (List.mem_cons_of_mem _ member))
        (fun s member => named' s (List.mem_cons_of_mem _ member)) rest]

/-! ### Stores -/

/-- A function that a store may hold: one that was there before, or a function of a module, known by
the module's file and its name in it. -/
inductive Reference (φ : Type) where
  | former (f : φ)
  | own (file : Path) (name : String)

structure Entry (ρ : Type) where
  function : ρ
  wantsContext : Bool

/-- A registry is an object: which of all objects that were made, and what it holds. -/
structure Object (ρ : Type) where
  number : Nat
  held? : String → Option (Entry ρ)

structure Store (ρ : Type) where
  /-- How many objects were made so far. -/
  made : Nat
  registry? : Option (Object ρ)

variable {φ : Type}

-- A function that is put where it already is stays marked; any other comes unmarked.
def Entry.put (file : Path) (name : String) (old : Option (Entry (Reference φ))) :
    Entry (Reference φ) where
  function := .own file name
  wantsContext :=
    match old with
    | some ⟨.own file' name', marked⟩ => file' == file && name' == name && marked
    | _ => false

def Object.set {ρ : Type} (o : Object ρ) (id : String) (e : Entry ρ) : Object ρ :=
  { o with held? := fun k => if k = id then some e else o.held? k }

@[simp] theorem Object.set_held? {ρ : Type} (o : Object ρ) (id : String) (e : Entry ρ) :
    (o.set id e).held? id = some e := by
  simp [Object.set]

@[simp] theorem Object.set_set {ρ : Type} (o : Object ρ) (id : String) (e f : Entry ρ) :
    (o.set id e).set id f = o.set id f := by
  simp only [Object.set, Object.mk.injEq, true_and]
  funext k
  split <;> rfl

/-- Runs a statement of the module of a file. There is no putting a function into no registry, and
no marking of a place that holds no function. -/
def Statement.run (file : Path) : Statement → Store (Reference φ) → Option (Store (Reference φ))
  | .create, s =>
      match s.registry? with
      | some _ => some s
      | none => some ⟨s.made + 1, some ⟨s.made, fun _ => none⟩⟩
  | .assign id name, s =>
      s.registry?.map fun o =>
        { s with registry? := some (o.set id (.put file name (o.held? id))) }
  | .mark id, s =>
      s.registry?.bind fun o => (o.held? id).map fun e =>
        { s with registry? := some (o.set id { e with wantsContext := true }) }

def run (file : Path) (p : List Statement) (s : Store (Reference φ)) :
    Option (Store (Reference φ)) :=
  p.foldlM (fun s st => st.run file s) s

/-- The code of the modules of these files is run, one after the other. -/
inductive Runs (g : GlobalNames) :
    List (Path × String) → Store (Reference φ) → Store (Reference φ) → Prop where
  | done (s : Store (Reference φ)) : Runs g [] s s
  | next {file : Path} {code : String} {p : List Statement} {rest : List (Path × String)}
      {s t u : Store (Reference φ)} (written : Writes g code p) (first : run file p s = some t)
      (more : Runs g rest t u) : Runs g ((file, code) :: rest) s u

theorem Runs.unique {g : GlobalNames} {codes : List (Path × String)}
    {s t u : Store (Reference φ)} (left : Runs g codes s t) (right : Runs g codes s u) : t = u := by
  induction left with
  | done s => cases right with | done => rfl
  | next written first more ih =>
    cases right with
    | next written' first' more' =>
      obtain rfl := written.unique written'
      obtain rfl := Option.some.inj (first.symm.trans first')
      exact ih more'

/-! ### What registrations leave behind -/

-- Whatever is there before any module of a project is run is none of their functions.
def Entry.former (e : Entry φ) : Entry (Reference φ) := ⟨.former e.function, e.wantsContext⟩

def Object.former (o : Object φ) : Object (Reference φ) where
  number := o.number
  held? id := (o.held? id).map Entry.former

def Store.former (s : Store φ) : Store (Reference φ) := ⟨s.made, s.registry?.map Object.former⟩

/-- The registry that modules find or make. -/
def Store.registry (s : Store φ) : Object (Reference φ) :=
  match s.registry? with
  | some o => o.former
  | none => ⟨s.made, fun _ => none⟩

-- What functions of modules, each with the module's file, leave in the place of an identifier.
def entryOf (fs : List (Path × ServerFunction)) (id : String) : Option (Entry (Reference φ)) :=
  (fs.find? (·.2.id == id)).map fun f =>
    ⟨.own f.1 f.2.localName, fs.any fun h => h.2.id == id && h.2.requiresContext⟩

def Object.after (o : Object (Reference φ)) (fs : List (Path × ServerFunction)) :
    Object (Reference φ) :=
  { o with held? := fun id => (entryOf fs id).or (o.held? id) }

theorem Object.after_held? (o : Object (Reference φ)) (fs : List (Path × ServerFunction))
    (id : String) : (o.after fs).held? id = (entryOf fs id).or (o.held? id) := rfl

/-- The store after modules registered these functions. -/
def Store.after (s : Store φ) (fs : List (Path × ServerFunction)) : Store (Reference φ) where
  made := if s.registry?.isSome then s.made else s.made + 1
  registry? := some (s.registry.after fs)

/-- Functions of one identifier are one function of one module. -/
def Agree (fs : List (Path × ServerFunction)) : Prop :=
  ∀ f ∈ fs, ∀ h ∈ fs, f.2.id = h.2.id → f.1 = h.1 ∧ f.2.localName = h.2.localName

theorem Agree.mono {fs hs : List (Path × ServerFunction)} (agree : Agree hs)
    (inside : ∀ f ∈ fs, f ∈ hs) : Agree fs :=
  fun f member h other => agree f (inside f member) h (inside h other)

theorem entryOf_of_forall_ne {fs : List (Path × ServerFunction)} {id : String}
    (other : ∀ f ∈ fs, f.2.id ≠ id) : entryOf fs id = (none : Option (Entry (Reference φ))) := by
  have clear : fs.find? (·.2.id == id) = none :=
    List.find?_eq_none.2 fun f member => by simpa using other f member
  simp [entryOf, clear]

theorem entryOf_of_mem {fs : List (Path × ServerFunction)} (agree : Agree fs) {file : Path}
    {f : ServerFunction} (member : (file, f) ∈ fs) :
    entryOf fs f.id = some (⟨.own file f.localName,
      fs.any fun h => h.2.id == f.id && h.2.requiresContext⟩ : Entry (Reference φ)) := by
  obtain ⟨h, found⟩ : ∃ h, fs.find? (·.2.id == f.id) = some h := by
    rw [← Option.isSome_iff_exists, List.find?_isSome]
    exact ⟨_, member, by simp⟩
  have there : h.2.id = f.id := by simpa using List.find?_some found
  have one := agree h (List.mem_of_find?_eq_some found) _ member there
  simp [entryOf, found, one]

theorem entryOf_congr {fs hs : List (Path × ServerFunction)} (agree : Agree fs)
    (same : ∀ f, f ∈ fs ↔ f ∈ hs) :
    (entryOf fs : String → Option (Entry (Reference φ))) = entryOf hs := by
  funext id
  by_cases there : ∃ f ∈ fs, f.2.id = id
  · obtain ⟨⟨file, f⟩, member, rfl⟩ := there
    have marks : (fs.any fun h => h.2.id == f.id && h.2.requiresContext) =
        hs.any fun h => h.2.id == f.id && h.2.requiresContext := by
      rw [Bool.eq_iff_iff, List.any_eq_true, List.any_eq_true]
      simp only [same]
    rw [entryOf_of_mem agree member, marks,
      entryOf_of_mem (agree.mono fun f => (same f).2) ((same _).1 member)]
  · rw [entryOf_of_forall_ne fun f member here => there ⟨f, member, here⟩,
      entryOf_of_forall_ne fun f member here => there ⟨f, (same f).2 member, here⟩]

def Store.held? {ρ : Type} (s : Store ρ) (id : String) : Option (Entry ρ) :=
  s.registry?.bind fun o => o.held? id

theorem Store.former_held? (s : Store φ) (id : String) :
    s.former.held? id = (s.held? id).map Entry.former := by
  cases there : s.registry? <;> simp [Store.former, Store.held?, Object.former, there]

theorem Store.registry_held? (s : Store φ) (id : String) :
    s.registry.held? id = s.former.held? id := by
  cases there : s.registry? <;> simp [Store.registry, Store.former, Store.held?, there]

theorem Store.after_congr {fs hs : List (Path × ServerFunction)} (s : Store φ) (agree : Agree fs)
    (same : ∀ f, f ∈ fs ↔ f ∈ hs) : s.after fs = s.after hs := by
  simp only [Store.after, Object.after, entryOf_congr agree same]

/-! ### Steps and runs -/

theorem after_append {fs : List (Path × ServerFunction)} {file : Path} {f : ServerFunction}
    (agree : Agree (fs ++ [(file, f)])) (o : Object (Reference φ)) :
    o.after (fs ++ [(file, f)]) = (o.after fs).set f.id ⟨.own file f.localName,
      (fs.any fun h => h.2.id == f.id && h.2.requiresContext) || f.requiresContext⟩ := by
  simp only [Object.after, Object.set, Object.mk.injEq, true_and]
  funext id
  by_cases here : id = f.id
  · subst here
    simp [entryOf_of_mem agree (List.mem_append_right fs (List.mem_singleton_self _))]
  · have other : (f.id == id) = false := by simpa using Ne.symm here
    simp [entryOf, List.find?_append, other, here]

-- A function that registered before is found in its place, with the marks it got.
theorem put_after {fs : List (Path × ServerFunction)} {file : Path} {f : ServerFunction}
    (agree : Agree (fs ++ [(file, f)])) (s : Store φ) :
    Entry.put file f.localName ((s.registry.after fs).held? f.id) =
      ⟨.own file f.localName, fs.any fun h => h.2.id == f.id && h.2.requiresContext⟩ := by
  rw [Object.after_held?]
  by_cases there : ∃ h ∈ fs, h.2.id = f.id
  · obtain ⟨⟨file', h⟩, member, same⟩ := there
    obtain ⟨rfl, name⟩ := agree _ (List.mem_append_left _ member) (file, f) (by simp) same
    replace name : h.localName = f.localName := name
    rw [← show h.id = f.id from same,
      entryOf_of_mem (agree.mono fun f => List.mem_append_left _) member]
    simp [Entry.put, name]
  · have clear : (fs.any fun h => h.2.id == f.id && h.2.requiresContext) = false := by
      rw [List.any_eq_false]
      exact fun h member marks => there ⟨h, member, by simp_all⟩
    rw [entryOf_of_forall_ne fun h member same => there ⟨h, member, same⟩, Option.none_or,
      Store.registry_held?, clear]
    cases old : s.held? f.id <;> simp [Store.former_held?, old, Entry.former, Entry.put]

-- Registering one more function.
theorem run_registering {fs : List (Path × ServerFunction)} {file : Path} {f : ServerFunction}
    (agree : Agree (fs ++ [(file, f)])) (s : Store φ) :
    run file (registering f) (s.after fs) = some (s.after (fs ++ [(file, f)])) := by
  have last := after_append agree s.registry
  by_cases context : f.requiresContext = true <;>
    simp [run, registering, context, Statement.run, Store.after, last, put_after agree]

theorem run_append (file : Path) (p q : List Statement) (s : Store (Reference φ)) :
    run file (p ++ q) s = (run file p s).bind (run file q) := by
  simp only [run, List.foldlM_append, Option.bind_eq_bind]
  rfl

theorem run_flatMap {hs : List ServerFunction} {fs : List (Path × ServerFunction)} {file : Path}
    (agree : Agree (fs ++ hs.map fun h => (file, h))) (s : Store φ) :
    run file (hs.flatMap registering) (s.after fs) =
      some (s.after (fs ++ hs.map fun h => (file, h))) := by
  induction hs generalizing fs with
  | nil => simp [run]
  | cons h hs ih =>
    have split : fs ++ (h :: hs).map (fun h => (file, h)) =
        (fs ++ [(file, h)]) ++ hs.map fun h => (file, h) := by simp
    rw [split] at agree ⊢
    have first := run_registering (agree.mono fun f member => List.mem_append_left _ member) s
    rw [List.flatMap_cons, run_append, first, Option.bind_some, ih agree]

def deeds (file : Path × FunctionMap) : List (Path × ServerFunction) :=
  file.2.values.map fun f => (file.1, f)

-- Running all code of a module, behind other modules or as the first.
theorem run_program {fs : List (Path × ServerFunction)} {file : Path × FunctionMap}
    (agree : Agree (fs ++ deeds file)) (s : Store φ) :
    run file.1 (program file.2) (s.after fs) = some (s.after (fs ++ deeds file)) := by
  have found : Statement.create.run file.1 (s.after fs) = some (s.after fs) := rfl
  rw [program, run, List.foldlM_cons, found]
  exact run_flatMap agree s

theorem run_program_first {file : Path × FunctionMap} (agree : Agree (deeds file)) (s : Store φ) :
    run file.1 (program file.2) s.former = some (s.after (deeds file)) := by
  have opened : Statement.create.run file.1 s.former = some (s.after []) := by
    cases registry : s.registry? <;>
      simp [Statement.run, Store.former, Store.after, Store.registry, Object.after, entryOf,
        registry]
  rw [program, run, List.foldlM_cons, opened]
  exact run_flatMap agree s

-- The code of modules as it is emitted, each for its file.
def codes (g : GlobalNames) (files : List (Path × FunctionMap)) : List (Path × String) :=
  files.map fun file => (file.1, file.2.registration g)

theorem runs_after {g : GlobalNames} {files : List (Path × FunctionMap)}
    {fs : List (Path × ServerFunction)} (agree : Agree (fs ++ files.flatMap deeds))
    (words : ∀ file ∈ files, ∀ f ∈ file.2.values, IsWord f.localName) (s : Store φ) :
    Runs g (codes g files) (s.after fs) (s.after (fs ++ files.flatMap deeds)) := by
  induction files generalizing fs with
  | nil => simpa [codes] using Runs.done (s.after fs)
  | cons file files ih =>
    have split :
        fs ++ (file :: files).flatMap deeds = (fs ++ deeds file) ++ files.flatMap deeds := by simp
    rw [split] at agree ⊢
    have first := run_program (agree.mono fun f member => List.mem_append_left _ member) s
    exact .next (registration_writes g (words file (by simp))) first
      (ih agree fun file member => words file (List.mem_cons_of_mem _ member))

-- Modules leave behind what they register, in whatever order they are run and however often.
theorem runs_from {g : GlobalNames} {file : Path × FunctionMap} {files : List (Path × FunctionMap)}
    (agree : Agree ((file :: files).flatMap deeds))
    (words : ∀ m ∈ file :: files, ∀ f ∈ m.2.values, IsWord f.localName) (s : Store φ) :
    Runs g (codes g (file :: files)) s.former (s.after ((file :: files).flatMap deeds)) := by
  rw [List.flatMap_cons] at agree ⊢
  have first := run_program_first (agree.mono fun f member => List.mem_append_left _ member) s
  exact .next (registration_writes g (words file (by simp))) first
    (runs_after agree (fun m member => words m (List.mem_cons_of_mem _ member)) s)

/-! ### Modules of one project -/

theorem mem_deeds {files : List (Path × FunctionMap)} {x : Path × ServerFunction} :
    x ∈ files.flatMap deeds ↔ ∃ file ∈ files, ∃ f ∈ file.2.values, (file.1, f) = x := by
  simp [deeds]

section Built

variable {d : Discovery} {t : FileTree} {root : Path} {r : Registry}
  {family : List (Path × FunctionMap)}

theorem words_of_built (valid : t.Valid) (built : d.build t root = .ok r)
    (known : ∀ file ∈ family, file ∈ r.files) :
    ∀ file ∈ family, ∀ f ∈ file.2.values, IsWord f.localName := by
  intro file member f own
  obtain ⟨text, m, -, -, parsed, scanned, -⟩ :=
    Discovery.recorded_file valid built (known file member)
  exact Discovery.isWord_of_scan parsed (scanned ▸ own)

theorem agree_of_built (valid : t.Valid) (built : d.build t root = .ok r)
    (known : ∀ file ∈ family, file ∈ r.files)
    (apart : ∀ a ∈ family, ∀ b ∈ family, ∀ f ∈ a.2.values, ∀ h ∈ b.2.values, f.id = h.id → a = b) :
    Agree (family.flatMap deeds) := by
  intro x first y second same
  obtain ⟨a, member, inside⟩ := List.mem_flatMap.1 first
  obtain ⟨b, member', inside'⟩ := List.mem_flatMap.1 second
  obtain ⟨f, own, rfl⟩ := List.mem_map.1 inside
  obtain ⟨h, own', rfl⟩ := List.mem_map.1 inside'
  obtain rfl := apart a member b member' f own h own' same
  refine ⟨rfl, ?_⟩
  obtain ⟨text, m, -, -, parsed, scanned, -⟩ := Discovery.recorded_file valid built (known a member)
  have words := words_of_built valid built known a member
  have left := words f own
  have right := words h own'
  rw [scanned] at own own'
  obtain ⟨c, recorded, -⟩ := Discovery.candidate_of_values own
  obtain ⟨c', recorded', -⟩ := Discovery.candidate_of_values own'
  rw [recorded, recorded'] at same
  rw [recorded] at left ⊢
  rw [recorded'] at right ⊢
  exact (functionId_inj left right same).1

end Built

end Registering

open Registering in
/-- Modules of one project register their functions in any order, each at least once and as often as
they like, and leave the same store: a registry that was there is kept with all it held under other
identifiers, and under each of theirs it holds the function of its module, marked exactly if some
registration wants the context. -/
theorem registrations_settle {d : Discovery} {t : FileTree} (valid : t.Valid) {root : Path}
    {r : Registry} (built : d.build t root = .ok r) (g : GlobalNames)
    {family : List (Path × FunctionMap)} (known : ∀ file ∈ family, file ∈ r.files)
    (apart : ∀ a ∈ family, ∀ b ∈ family, ∀ f ∈ a.2.values, ∀ h ∈ b.2.values, f.id = h.id → a = b)
    {φ : Type} (s : Store φ) :
    ∃ last : Store (Reference φ),
      (∀ schedule : List (Path × FunctionMap), (∀ file, file ∈ schedule ↔ file ∈ family) →
        ∀ u, Runs g (codes g schedule) s.former u ↔ u = last) ∧
      (∀ file ∈ family, ∀ f ∈ file.2.values, ∃ marked, last.held? f.id =
          some ⟨.own file.1 f.localName, marked⟩ ∧
        (marked = true ↔ ∃ m ∈ family, ∃ h ∈ m.2.values, h.id = f.id ∧ h.requiresContext = true)) ∧
      (∀ id, (∀ file ∈ family, ∀ f ∈ file.2.values, f.id ≠ id) →
        last.held? id = s.former.held? id) ∧
      (∀ o, s.registry? = some o →
        last.made = s.made ∧ ∃ o', last.registry? = some o' ∧ o'.number = o.number) := by
  have agree := agree_of_built valid built known apart
  have words := words_of_built valid built known
  cases family with
  | nil =>
    refine ⟨s.former, fun schedule covers u => ?_, by simp, by simp, fun o there => ?_⟩
    · obtain rfl : schedule = [] := List.eq_nil_iff_forall_not_mem.2 (by simpa using covers)
      have idle : Runs g (codes g []) s.former s.former := .done _
      exact ⟨fun runs => runs.unique idle, fun same => same ▸ idle⟩
    · exact ⟨rfl, o.former, by simp [Store.former, there], rfl⟩
  | cons file family =>
    let done := (file :: family).flatMap deeds
    have holds (id : String) :
        (s.after done).held? id = (entryOf done id).or (s.registry.held? id) := rfl
    refine ⟨s.after done, fun schedule covers u => ?_, fun m member f own => ?_, fun id other => ?_,
      fun o there => ?_⟩
    · have same : ∀ f, f ∈ schedule.flatMap deeds ↔ f ∈ done := by simp [done, covers]
      have settled : Runs g (codes g schedule) s.former (s.after done) := by
        rw [← Store.after_congr s (agree.mono fun f => (same f).1) same]
        obtain _ | ⟨next, rest⟩ := schedule
        · exact absurd ((covers file).2 (by simp)) (by simp)
        · exact runs_from (agree.mono fun f => (same f).1)
            (fun m member => words m ((covers m).1 member)) s
      exact ⟨fun runs => runs.unique settled, fun here => here ▸ settled⟩
    · have here : (m.1, f) ∈ done := mem_deeds.2 ⟨m, member, f, own, rfl⟩
      refine ⟨_, (holds f.id).trans (by rw [entryOf_of_mem agree here, Option.some_or]), ?_⟩
      simp [deeds]
    · have unknown : ∀ h ∈ done, h.2.id ≠ id := fun h registered => by
        obtain ⟨m, member, f, own, rfl⟩ := mem_deeds.1 registered
        exact other m member f own
      rw [holds, entryOf_of_forall_ne unknown, Option.none_or, Store.registry_held?]
    · have kept : (s.registry.after done).number = o.number := by
        simp [Object.after, Store.registry, Object.former, there]
      exact ⟨by simp [Store.after, there], _, rfl, kept⟩

open Registering in
/-- A module that is run twice, in a store whose registry holds a function of another project. -/
theorem registrations_settle_again :
    let s : Store String := ⟨3, some ⟨0, fun id => if id = "h" then some ⟨"h", true⟩ else none⟩⟩
    let file := (Sample.path, Sample.functions)
    ∃ last : Store (Reference String),
      Runs .standard (codes .standard [file, file]) s.former last ∧
        last.held? "f@a.ts:2" = some ⟨.own Sample.path "f", false⟩ ∧
        last.held? "h" = some ⟨.former "h", true⟩ := by
  intro s file
  have values : Sample.functions.values = [⟨"f@a.ts:2", Sample.path, "f", "f", false⟩] := by
    decide +kernel
  have known : ∀ m ∈ [file], m ∈ Sample.registry.files := by decide +kernel
  have apart : ∀ a ∈ [file], ∀ b ∈ [file], ∀ f ∈ a.2.values, ∀ h ∈ b.2.values,
      f.id = h.id → a = b := fun a member b member' _ _ _ _ _ =>
      (List.mem_singleton.1 member).trans (List.mem_singleton.1 member').symm
  obtain ⟨last, settled, bound, kept, -⟩ :=
    registrations_settle Sample.project_valid Sample.project_built .standard known apart s
  refine ⟨last, (settled [file, file] (by simp) last).2 rfl, ?_, ?_⟩
  · obtain ⟨marked, found, marks⟩ :=
      bound file (by simp) ⟨"f@a.ts:2", Sample.path, "f", "f", false⟩ (by simp [file, values])
    have plain : marked = false := by simpa [file, values] using marks
    exact plain ▸ found
  · rw [kept "h" (by simp [file, values])]
    rfl

end ServerLink
