import ServerLink.Proofs.Excision

/-!
Walks that are not taken. A walk through a module makes an edit only for one of three reasons: an
imported server function is called, a function becomes a stub, or a helper of the library is in
reach. Without any of them the walk is left out, and nothing is lost by that.
-/

set_option autoImplicit false

namespace ServerLink

open Script

namespace Rewriting

/-- The edits of the walk through the whole module and of the removals behind it, whether or not they
are needed. -/
def walk (r : Rewriting) : List Edit :=
  r.partEdits (fun _ => true) r.module.items ++ r.importRemovals

variable {r : Rewriting} {uses : List String} {item : Node}

-- An import can only be of no use if it brought helpers, or if there are stubs.
theorem cause_of_isDead (dead : r.isDead uses item = true) :
    ∃ source typeOnly, item.kind = .importDecl source typeOnly ∧ importEntries item ≠ [] ∧
      (r.stubs.isEmpty = false ∨
        r.passes.inlineHelpers = true ∧ source = r.library.specifier) := by
  unfold isDead at dead
  split at dead
  · next source typeOnly kind =>
    simp only [Bool.and_eq_true, Bool.or_eq_true, Bool.not_eq_true', beq_iff_eq] at dead
    obtain ⟨some, helpers | unused⟩ := dead
    · exact ⟨source, typeOnly, kind, by simpa using some, Or.inr ⟨helpers.1.1, helpers.2.1.1⟩⟩
    · exact ⟨source, typeOnly, kind, by simpa using some, Or.inl unused.1⟩
  · simp at dead

theorem importRemovals_eq_nil (alive : ∀ item ∈ r.module.items, r.isDead r.allUses item = false) :
    r.importRemovals = [] := by
  have none : r.module.items.filter (r.isDead r.allUses) = [] :=
    List.filter_eq_nil_iff.2 fun item member => by simp [alive item member]
  simp [importRemovals, none]

-- With neither helpers put inline nor stubs made no import is taken out.
theorem importRemovals_of_passive (passive : (r.passes.inlineHelpers || !r.stubs.isEmpty) = false) :
    r.importRemovals = [] := by
  simp only [Bool.or_eq_false_iff, Bool.not_eq_false'] at passive
  refine importRemovals_eq_nil fun item _ => Bool.eq_false_iff.2 fun dead => ?_
  obtain ⟨-, -, -, -, stubs | ⟨inline, -⟩⟩ := cause_of_isDead dead
  · simp [passive.2] at stubs
  · simp [passive.1] at inline

theorem partEdits_of_idle (idle : r.isNeeded = false) (stands : Kind → Bool) (ps : List Node) :
    r.partEdits stands ps = [] := by
  have silent (n : Node) : r.edits n = [] := by
    have row := r.edits_perm n
    rw [r.ordered_eq_nil (r.plan_eq_keep_of_idle idle)] at row
    exact row.eq_nil
  induction ps with
  | nil => rfl
  | cons p ps ih => simp [partEdits, silent, ih]

end Rewriting

section Modules

variable {path : Path} {text : List Char} {m : Module} (parsed : Module.parse path text = .ok m)
  (distinct : ((m.items.flatMap Imports.bindingsOf).map Binding.localName).Nodup)

include parsed distinct

-- What an import with entries brings comes from where it says.
theorem Module.importsFrom_of_entries {item : Node} (member : item ∈ m.items) {source : String}
    {typeOnly : Bool} (kind : item.kind = .importDecl source typeOnly)
    (some : Rewriting.importEntries item ≠ []) : m.imports.importsFrom source = true := by
  obtain ⟨entry, inside⟩ := List.exists_mem_of_ne_nil _ some
  obtain ⟨b, binds, from', -⟩ := Module.binding_of_entry parsed member kind inside
  have bound : b ∈ m.imports.bindings := by
    rw [Rewriting.bindings_of_distinct distinct]
    exact List.mem_flatMap.2 ⟨item, member, binds⟩
  exact List.any_eq_true.2 ⟨b, bound, by simp [from']⟩

theorem isNeeded_of_isDead {o : Options} {passes : Passes} {own : FunctionMap}
    {imported : ImportedFunctions} {item : Node} (member : item ∈ m.items) {uses : List String}
    (dead : (Rewriting.ofModule m o passes own imported).isDead uses item = true) :
    (Rewriting.ofModule m o passes own imported).isNeeded = true := by
  obtain ⟨source, typeOnly, kind, some, stubs | ⟨inline, library⟩⟩ := Rewriting.cause_of_isDead dead
  · simp [Rewriting.isNeeded, stubs]
  · have known := Module.importsFrom_of_entries parsed distinct member kind some
    rw [library] at known
    have reached : (Rewriting.ofModule m o passes own imported).imports.importsFrom
        (Rewriting.ofModule m o passes own imported).library.specifier = true := known
    simp [Rewriting.isNeeded, inline, reached]

/-- A walk that is not needed makes no edit, and so the edits of a module are always those of the
whole walk with the removals behind it. -/
theorem skipped_walk (o : Options) (passes : Passes) (own : FunctionMap)
    (imported : ImportedFunctions) :
    ((Rewriting.ofModule m o passes own imported).isNeeded = false →
      (Rewriting.ofModule m o passes own imported).walk = []) ∧
    (Rewriting.ofModule m o passes own imported).allEdits =
      (Rewriting.ofModule m o passes own imported).walk := by
  let made := Rewriting.ofModule m o passes own imported
  have unneeded (idle : made.isNeeded = false) : made.walk = [] := by
    have alive : ∀ item ∈ m.items, made.isDead made.allUses item = false := by
      intro item member
      refine Bool.eq_false_iff.2 fun dead => ?_
      have needed : made.isNeeded = true := isNeeded_of_isDead parsed distinct member dead
      simp [idle] at needed
    have kept : made.importRemovals = [] := Rewriting.importRemovals_eq_nil alive
    rw [Rewriting.walk, Rewriting.partEdits_of_idle idle, kept, List.nil_append]
  refine ⟨unneeded, ?_⟩
  change made.allEdits = made.walk
  cases needed : made.isNeeded with
  | false => rw [unneeded needed, Rewriting.allEdits, needed, if_neg (by decide)]
  | true =>
    rw [Rewriting.allEdits, needed, if_pos rfl, Rewriting.walk]
    split
    · rfl
    · next passive => rw [Rewriting.importRemovals_of_passive (by simpa using passive)]

end Modules

/-- A module whose marker comes from somewhere else. -/
def Sample.foreign : Source :=
  .of path "import \x7b func \x7d from \"other\"\nexport const f = func(() => 1)\n".toList
    (by decide +kernel)

theorem skipped_walk_foreign :
    let m := Sample.foreign.module
    let own : FunctionMap := .ofList [("f", ⟨"f@a.ts:2", m.path, "f", "f", false⟩)]
    let r := Rewriting.ofModule m .standard ⟨true, true, false, true⟩ own .empty
    m.calls.length = 1 ∧ r.isNeeded = false ∧ r.walk = [] ∧ r.allEdits = r.walk := by
  intro m own r
  obtain ⟨distinct, call, idle⟩ :
      ((m.items.flatMap Imports.bindingsOf).map Binding.localName).Nodup ∧
        m.calls.length = 1 ∧ r.isNeeded = false := by
    decide +kernel
  obtain ⟨silent, same⟩ := skipped_walk Sample.foreign.parsed distinct .standard
    ⟨true, true, false, true⟩ own .empty
  exact ⟨call, idle, silent idle, same⟩

end ServerLink
