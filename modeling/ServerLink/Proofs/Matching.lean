import Mathlib.Data.List.Forall2
import ServerLink.Proofs.Alignment
import ServerLink.Proofs.Rows

/-!
Trees that match. Two trees of aligned texts match if they have the same shape and stand at
counterparts. Rewritings that know the same of names, imports and functions treat such trees alike:
they plan the same, mention the same names and make the same edits at counterparts.
-/

set_option autoImplicit false

namespace ServerLink

open Script Text

namespace Script

mutual

/-- Trees of one shape at counterparts of aligned texts. -/
def Node.Matches (ss : List Stretch) : Node → Node → Prop
  | .mk k span ps, .mk k' span' qs =>
      k = k' ∧ Counterpart ss span.start span'.start ∧ Counterpart ss span.stop span'.stop ∧
        AllMatch ss ps qs

def AllMatch (ss : List Stretch) : List Node → List Node → Prop
  | [], [] => True
  | p :: ps, q :: qs => p.Matches ss q ∧ AllMatch ss ps qs
  | _, _ => False

end

mutual

/-- Whether trees match can be computed. -/
def Node.decideMatches (ss : List Stretch) : (m n : Node) → Decidable (m.Matches ss n)
  | .mk k span ps, .mk k' span' qs =>
      have := decideAllMatch ss ps qs
      inferInstanceAs (Decidable (k = k' ∧ Counterpart ss span.start span'.start ∧
        Counterpart ss span.stop span'.stop ∧ AllMatch ss ps qs))

def decideAllMatch (ss : List Stretch) : (ps qs : List Node) → Decidable (AllMatch ss ps qs)
  | [], [] => .isTrue trivial
  | p :: ps, q :: qs =>
      have := p.decideMatches ss q
      have := decideAllMatch ss ps qs
      inferInstanceAs (Decidable (p.Matches ss q ∧ AllMatch ss ps qs))
  | [], _ :: _ => .isFalse id
  | _ :: _, [] => .isFalse id

end

instance (ss : List Stretch) (ps qs : List Node) : Decidable (AllMatch ss ps qs) :=
  decideAllMatch ss ps qs

theorem AllMatch.forall₂ {ss : List Stretch} {ps qs : List Node} (h : AllMatch ss ps qs) :
    List.Forall₂ (Node.Matches ss) ps qs := by
  induction ps generalizing qs with
  | nil =>
    cases qs with
    | nil => exact .nil
    | cons q qs => exact h.elim
  | cons p ps ih =>
    cases qs with
    | nil => exact h.elim
    | cons q qs => exact .cons h.1 (ih h.2)

namespace Node.Matches

variable {ss : List Stretch} {m n : Node}

theorem kind_eq (h : m.Matches ss n) : m.kind = n.kind := by
  obtain ⟨k, span, ps⟩ := m
  obtain ⟨k', span', qs⟩ := n
  exact h.1

theorem start (h : m.Matches ss n) : Counterpart ss m.start n.start := by
  obtain ⟨k, span, ps⟩ := m
  obtain ⟨k', span', qs⟩ := n
  exact h.2.1

theorem stop (h : m.Matches ss n) : Counterpart ss m.stop n.stop := by
  obtain ⟨k, span, ps⟩ := m
  obtain ⟨k', span', qs⟩ := n
  exact h.2.2.1

theorem parts (h : m.Matches ss n) : List.Forall₂ (Node.Matches ss) m.parts n.parts := by
  obtain ⟨k, span, ps⟩ := m
  obtain ⟨k', span', qs⟩ := n
  exact h.2.2.2.forall₂

end Node.Matches

/-- Both or neither is there, and if they are they match. -/
abbrev MaybeMatch (ss : List Stretch) : Option Node → Option Node → Prop :=
  Option.Rel (Node.Matches ss)

section Lists

variable {ss : List Stretch} {ps qs : List Node}

theorem matches_find? (h : List.Forall₂ (Node.Matches ss) ps qs) (k : Kind) :
    MaybeMatch ss (ps.find? (·.kind == k)) (qs.find? (·.kind == k)) := by
  induction h with
  | nil => exact .none
  | cons same _ ih =>
    simp only [List.find?_cons, same.kind_eq]
    split
    · exact .some same
    · exact ih

theorem matches_head? (h : List.Forall₂ (Node.Matches ss) ps qs) :
    MaybeMatch ss ps.head? qs.head? := by
  cases h with
  | nil => exact .none
  | cons same _ => exact .some same

theorem matches_getLast? (h : List.Forall₂ (Node.Matches ss) ps qs) :
    MaybeMatch ss ps.getLast? qs.getLast? := by
  induction h with
  | nil => exact .none
  | cons same rest ih =>
    cases rest with
    | nil => exact .some same
    | cons next more => simpa using ih

-- What is read off trees that match is the same for all of them in order.
theorem matches_map {β : Type} {f g : Node → β} (h : List.Forall₂ (Node.Matches ss) ps qs)
    (each : ∀ p q, p.Matches ss q → f p = g q) : ps.map f = qs.map g := by
  induction h with
  | nil => rfl
  | cons same _ ih => simp [each _ _ same, ih]

theorem matches_filter (keep : Kind → Bool) (h : List.Forall₂ (Node.Matches ss) ps qs) :
    List.Forall₂ (Node.Matches ss) (ps.filter fun p => keep p.kind)
      (qs.filter fun q => keep q.kind) := by
  induction h with
  | nil => exact .nil
  | cons same _ ih =>
    simp only [List.filter_cons, same.kind_eq]
    split
    · exact .cons same ih
    · exact ih

-- The names that trees of one kind declare are the same.
theorem matches_ownNames (h : List.Forall₂ (Node.Matches ss) ps qs) : ownNames ps = ownNames qs := by
  induction h with
  | nil => rfl
  | @cons p q ps qs same rest ih =>
    obtain ⟨k, span, parts⟩ := p
    obtain ⟨k', span', parts'⟩ := q
    obtain rfl : k = k' := same.kind_eq
    cases k with
    | bind name outer => rfl
    | typeBind name => rfl
    | _ => exact ih

end Lists

section Calls

variable {ss : List Stretch} {m n : Node}

theorem matches_args (h : m.Matches ss n) :
    List.Forall₂ (Node.Matches ss) m.args n.args := by
  have found := matches_find? h.parts .arguments
  simp only [Node.args, Node.part?]
  generalize m.parts.find? _ = a at found ⊢
  generalize n.parts.find? _ = b at found ⊢
  cases found with
  | none => exact .nil
  | some same => exact same.parts

theorem matches_argValue (h : m.Matches ss n) : m.argValue.Matches ss n.argValue := by
  obtain ⟨k, span, ps⟩ := m
  obtain ⟨k', span', qs⟩ := n
  obtain rfl : k = k' := h.kind_eq
  have parts : List.Forall₂ (Node.Matches ss) ps qs := h.parts
  by_cases spread : k = .spread
  · subst spread
    cases parts with
    | nil => exact h
    | cons same rest => exact same
  · simpa [Node.argValue, spread] using h

end Calls

end Script

/-! ### Imports -/

/-- The binding without the place it was read from. -/
def Binding.unplaced (b : Binding) : Binding := { b with span := ⟨0, 0⟩ }

namespace Imports

/-- What is imported, without the places. -/
def unplaced (is : Imports) : Imports := ⟨is.bindings.map Binding.unplaced⟩

theorem find?_unplaced (is : Imports) (name : String) :
    is.unplaced.find? name = (is.find? name).map Binding.unplaced := by
  simp only [find?, unplaced, List.find?_map]
  rfl

theorem value?_unplaced (is : Imports) (library name : String) :
    is.unplaced.value? library name = (is.value? library name).map Binding.unplaced := by
  simp only [value?, find?_unplaced]
  cases is.find? name with
  | none => rfl
  | some b =>
    simp only [Option.map_some, Option.filter_some, Binding.unplaced]
    split <;> rfl

theorem export?_unplaced (is : Imports) (library : String) (e : Node) :
    is.unplaced.export? library e = is.export? library e := by
  unfold export?
  split
  · rename_i name span ps
    simp only [value?_unplaced]
    cases is.value? library name <;> rfl
  · rename_i property span name more ps rest
    simp only [value?_unplaced]
    cases is.value? library name with
    | none => rfl
    | some b =>
      simp only [Option.map_some, Option.filter_some, Binding.unplaced]
      split <;> rfl
  · rfl

theorem importsFrom_unplaced (is : Imports) (source : String) :
    is.unplaced.importsFrom source = is.importsFrom source := by
  simp only [importsFrom, unplaced, List.any_map]
  rfl

theorem unplaced_insert (is : Imports) (b : Binding) :
    (is.insert b).unplaced = is.unplaced.insert b.unplaced := by
  simp only [insert, unplaced, List.map_append, List.map_cons, List.map_nil, List.filter_map]
  rfl

theorem unplaced_foldl (bs : List Binding) (is : Imports) :
    (bs.foldl insert is).unplaced = (bs.map Binding.unplaced).foldl insert is.unplaced := by
  induction bs generalizing is with
  | nil => rfl
  | cons b bs ih => simp [ih, unplaced_insert]

theorem matches_bindingOf {ss : List Stretch} {m n : Node} (h : m.Matches ss n) (source : String)
    (typeOnly : Bool) : (bindingOf source typeOnly m).map Binding.unplaced =
      (bindingOf source typeOnly n).map Binding.unplaced := by
  obtain ⟨k, span, ps⟩ := m
  obtain ⟨k', span', qs⟩ := n
  obtain rfl : k = k' := h.kind_eq
  have parts : List.Forall₂ (Node.Matches ss) ps qs := h.parts
  cases k with
  | importSpec imported entryTypeOnly =>
    cases parts with
    | nil => rfl
    | cons same rest =>
      rename_i p q ps qs
      obtain ⟨k₁, span₁, ps₁⟩ := p
      obtain ⟨k₂, span₂, qs₂⟩ := q
      obtain rfl : k₁ = k₂ := same.kind_eq
      cases k₁ <;> rfl
  | _ => rfl

theorem matches_bindingsOf {ss : List Stretch} {m n : Node} (h : m.Matches ss n) :
    (bindingsOf m).map Binding.unplaced = (bindingsOf n).map Binding.unplaced := by
  obtain ⟨k, span, ps⟩ := m
  obtain ⟨k', span', qs⟩ := n
  obtain rfl : k = k' := h.kind_eq
  have parts : List.Forall₂ (Node.Matches ss) ps qs := h.parts
  cases k with
  | importDecl source typeOnly =>
    simp only [bindingsOf, List.map_filterMap]
    clear h
    induction parts with
    | nil => rfl
    | cons same _ ih => simp [List.filterMap_cons, matches_bindingOf same, ih]
  | _ => rfl

-- Items that match bring the same imports.
theorem matches_ofItems {ss : List Stretch} {ps qs : List Node}
    (h : List.Forall₂ (Node.Matches ss) ps qs) :
    (ofItems ps).unplaced = (ofItems qs).unplaced := by
  have bindings : (ps.flatMap bindingsOf).map Binding.unplaced =
      (qs.flatMap bindingsOf).map Binding.unplaced := by
    induction h with
    | nil => rfl
    | cons same _ ih => simp [matches_bindingsOf same, ih]
  simp only [ofItems, unplaced_foldl, bindings]

-- Trees that match name the same export.
theorem matches_export? {ss : List Stretch} {m n : Node} (h : m.Matches ss n) (is : Imports)
    (library : String) : is.export? library m = is.export? library n := by
  obtain ⟨k, span, ps⟩ := m
  obtain ⟨k', span', qs⟩ := n
  obtain rfl : k = k' := h.kind_eq
  have parts : List.Forall₂ (Node.Matches ss) ps qs := h.parts
  cases k with
  | use name outer => cases outer <;> rfl
  | member property =>
    cases parts with
    | nil => rfl
    | cons same rest =>
      rename_i p q ps qs
      obtain ⟨k₁, span₁, ps₁⟩ := p
      obtain ⟨k₂, span₂, qs₂⟩ := q
      obtain rfl : k₁ = k₂ := same.kind_eq
      cases k₁ with
      | use name outer => cases outer <;> rfl
      | _ => rfl
  | _ => rfl

end Imports

-- Trees that match name the same imported function.
theorem matches_calledBy? {ss : List Stretch} {m n : Node} (h : m.Matches ss n)
    (fs : ImportedFunctions) : fs.calledBy? m = fs.calledBy? n := by
  obtain ⟨k, span, ps⟩ := m
  obtain ⟨k', span', qs⟩ := n
  obtain rfl : k = k' := h.kind_eq
  have parts : List.Forall₂ (Node.Matches ss) ps qs := h.parts
  cases k with
  | use name outer => cases outer <;> rfl
  | member property =>
    cases parts with
    | nil => rfl
    | cons same rest =>
      rename_i p q ps qs
      obtain ⟨k₁, span₁, ps₁⟩ := p
      obtain ⟨k₂, span₂, qs₂⟩ := q
      obtain rfl : k₁ = k₂ := same.kind_eq
      cases k₁ with
      | use name outer => cases outer <;> rfl
      | _ => rfl
  | _ => rfl

namespace Rewriting

/-- Rewritings of aligned texts that know the same, with their stubs at counterparts. -/
structure Alike (ss : List Stretch) (r r' : Rewriting) : Prop where
  library : r.library = r'.library
  globals : r.globals = r'.globals
  passes : r.passes = r'.passes
  imported : r.imported = r'.imported
  imports : r.imports.unplaced = r'.imports.unplaced
  stubs : List.Forall₂ (fun a b => Counterpart ss a.1 b.1 ∧ a.2 = b.2) r.stubs r'.stubs

namespace Alike

variable {ss : List Stretch} {r r' : Rewriting}

theorem lookup (alike : Alike ss r r') {x y : Nat} (place : Counterpart ss x y) :
    r.stubs.lookup x = r'.stubs.lookup y := by
  have stubs := alike.stubs
  generalize r.stubs = xs at stubs ⊢
  generalize r'.stubs = ys at stubs ⊢
  induction stubs with
  | nil => rfl
  | @cons a b as bs same rest ih =>
    obtain ⟨start, id⟩ := a
    obtain ⟨start', id'⟩ := b
    have hit : (x == start) = (y == start') := by
      have := place.eq_iff same.1
      rw [Bool.eq_iff_iff]
      simpa using this
    have ids : id = id' := same.2
    simp only [List.lookup_cons, hit, ids, ih]

theorem export? (alike : Alike ss r r') (library : String) (e : Node) :
    r.imports.export? library e = r'.imports.export? library e := by
  rw [← Imports.export?_unplaced, alike.imports, Imports.export?_unplaced]

theorem helperCode? (alike : Alike ss r r') {m n : Node} (h : m.Matches ss n) (count : Nat) :
    r.helperCode? m count = r'.helperCode? n count := by
  simp only [Rewriting.helperCode?, alike.library, alike.globals, alike.export?,
    Imports.matches_export? h]

theorem anySpread {ps qs : List Node} (h : List.Forall₂ (Node.Matches ss) ps qs) :
    ps.any Node.isSpread = qs.any Node.isSpread := by
  induction h with
  | nil => rfl
  | cons same _ ih => simp [Node.isSpread, same.kind_eq, ih]

-- Calls that match are planned alike.
theorem plan (alike : Alike ss r r') {m n : Node} (h : m.Matches ss n) : r.plan m = r'.plan n := by
  obtain ⟨k, span, ps⟩ := m
  obtain ⟨k', span', qs⟩ := n
  obtain rfl : k = k' := h.kind_eq
  have parts : List.Forall₂ (Node.Matches ss) ps qs := h.parts
  by_cases call : k = .call
  · subst call
    cases parts with
    | nil => rfl
    | cons callee rest =>
      have args := matches_args h
      have stub := alike.lookup h.start
      have helper := alike.helperCode? callee
      simp only [Rewriting.plan, planCall, stub, alike.passes, alike.imported,
        matches_calledBy? callee, args.length_eq, anySpread args, helper]
  · rw [r.plan_eq_keep call, r'.plan_eq_keep call]

/-! ### Mentions -/

-- Trees that match mention the same names.
theorem uses (alike : Alike ss r r') {m n : Node} (h : m.Matches ss n) : r.uses m = r'.uses n := by
  induction m using Node.induct generalizing n with
  | step k span ps ih =>
    obtain ⟨k', span', qs⟩ := n
    obtain rfl : k = k' := h.kind_eq
    have parts : List.Forall₂ (Node.Matches ss) ps qs := h.parts
    have inner (stands : Kind → Bool) : r.partUses stands ps = r'.partUses stands qs := by
      clear h
      induction parts with
      | nil => rfl
      | cons same _ more =>
        simp only [partUses, same.kind_eq, ih _ (by simp) same,
          more fun p member => ih p (List.mem_cons_of_mem _ member)]
    have survives (p : CallPlan) : r.survives p = r'.survives p := by
      funext part
      simp only [Rewriting.survives, alike.passes]
    simp only [Rewriting.uses, alike.plan h, survives, inner]

theorem partUses (alike : Alike ss r r') {ps qs : List Node}
    (h : List.Forall₂ (Node.Matches ss) ps qs) (stands : Kind → Bool) :
    r.partUses stands ps = r'.partUses stands qs := by
  induction h with
  | nil => rfl
  | cons same _ ih => simp only [Rewriting.partUses, same.kind_eq, alike.uses same, ih]

/-! ### Edits -/

theorem calleeEdit {m n : Node} (h : m.Matches ss n) (code : String) :
    Edit.Alike ss (Rewriting.calleeEdit m code) (Rewriting.calleeEdit n code) := by
  have typed := matches_find? h.parts .typeArgs
  have called := matches_head? h.parts
  refine ⟨h.start, ?_, rfl⟩
  simp only [Rewriting.calleeEdit, Node.typeArgs?, Node.part?, Node.callee?]
  generalize m.parts.find? _ = a at typed ⊢
  generalize n.parts.find? _ = b at typed ⊢
  generalize m.parts.head? = c at called ⊢
  generalize n.parts.head? = d at called ⊢
  cases typed with
  | some same => exact same.stop
  | none =>
    cases called with
    | some same => exact same.stop
    | none => exact h.start

theorem dispatchEdits (alike : Alike ss r r') {m n : Node} (h : m.Matches ss n) (id : String) :
    List.Forall₂ (Edit.Alike ss) (r.dispatchEdits m id) (r'.dispatchEdits n id) := by
  have first := matches_head? (matches_args h)
  have last := matches_getLast? (matches_args h)
  simp only [Rewriting.dispatchEdits, alike.globals]
  generalize m.args.head? = a at first ⊢
  generalize n.args.head? = b at first ⊢
  generalize m.args.getLast? = c at last ⊢
  generalize n.args.getLast? = d at last ⊢
  cases first with
  | none => exact .cons ⟨h.start, h.stop, rfl⟩ .nil
  | some opens =>
    cases last with
    | none => exact .cons ⟨h.start, h.stop, rfl⟩ .nil
    | some closes =>
      exact .cons ⟨h.start, opens.start, rfl⟩ (.cons ⟨closes.stop, h.stop, rfl⟩ .nil)

theorem leadEdits (alike : Alike ss r r') {m n : Node} (h : m.Matches ss n) (p : CallPlan) :
    List.Forall₂ (Edit.Alike ss) (r.leadEdits m p) (r'.leadEdits n p) := by
  cases p with
  | keep => exact .nil
  | inlined code => exact .cons (calleeEdit h code) .nil
  | dispatch id => exact List.forall₂_take 1 (alike.dispatchEdits h id)
  | stub id =>
    simp only [Rewriting.leadEdits, alike.passes]
    split
    · exact .cons (calleeEdit h "") .nil
    · exact .nil

theorem trailEdits (alike : Alike ss r r') {m n : Node} (h : m.Matches ss n) (p : CallPlan) :
    List.Forall₂ (Edit.Alike ss) (r.trailEdits m p) (r'.trailEdits n p) := by
  cases p with
  | keep => exact .nil
  | inlined code => exact .nil
  | dispatch id => exact List.forall₂_drop 1 (alike.dispatchEdits h id)
  | stub id =>
    have first := matches_head? (matches_args h)
    simp only [Rewriting.trailEdits, stubEdits, alike.globals]
    generalize m.args.head? = a at first ⊢
    generalize n.args.head? = b at first ⊢
    cases first with
    | none => exact .nil
    | some same =>
      have value := matches_argValue same
      exact .cons ⟨value.start, value.stop, rfl⟩ .nil

-- Trees that match are edited alike.
theorem ordered (alike : Alike ss r r') {m n : Node} (h : m.Matches ss n) :
    List.Forall₂ (Edit.Alike ss) (r.ordered m) (r'.ordered n) := by
  induction m using Node.induct generalizing n with
  | step k span ps ih =>
    obtain ⟨k', span', qs⟩ := n
    obtain rfl : k = k' := h.kind_eq
    have parts : List.Forall₂ (Node.Matches ss) ps qs := h.parts
    have inner (stands : Kind → Bool) :
        List.Forall₂ (Edit.Alike ss) (r.orderedParts stands ps) (r'.orderedParts stands qs) := by
      clear h
      induction parts with
      | nil => exact .nil
      | cons same _ more =>
        have rest := more fun p member => ih p (List.mem_cons_of_mem _ member)
        simp only [orderedParts, same.kind_eq]
        refine List.rel_append ?_ rest
        split
        · exact ih _ (by simp) same
        · exact .nil
    have survives (p : CallPlan) : r.survives p = r'.survives p := by
      funext part
      simp only [Rewriting.survives, alike.passes]
    simp only [Rewriting.ordered, alike.plan h, survives]
    split
    · exact .nil
    · exact List.rel_append (List.rel_append (alike.leadEdits h _) (inner _))
        (alike.trailEdits h _)

end Alike

end Rewriting

end ServerLink
