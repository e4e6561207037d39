import Mathlib.Data.List.Forall2
import ServerLink.Proofs.Placement
import ServerLink.Proofs.Parsing.Scripts

/-!
Which names a tree declares for what stands in it. A use means the module's own exactly if no tree
around it declares the name. What a tree declares does not depend on its spans, on the names that
are used in it, or on what these mean.
-/

set_option autoImplicit false

namespace ServerLink

open Script

namespace Script

-- The part sees all that its tree declares, unlike the head of a function or class.
def Kind.isInner : Kind → Bool
  | .bind _ _ | .params | .typeParams | .extends | .decorator | .rest => false
  | _ => true

def Kind.isBind : Kind → Bool
  | .bind _ _ => true
  | _ => false

def memberNames (parts : List Node) : List String :=
  parts.filterMap fun p => match p.kind with
    | .enumMember name => name
    | _ => none

/-- A tree of the kind and with the parts declares the value `s` for what stands in its part `p`. -/
inductive Kind.Declares : Kind → List Node → Node → String → Prop
  -- A function expression knows its own name.
  | function {ps : List Node} {p : Node} {s : String} :
      s ∈ ownNames ps → Declares .function ps p s
  | parameter {k : Kind} {ps : List Node} {p : Node} {s : String} :
      k ∈ [.function, .functionDecl, .arrow, .functionType] → p.kind.isInner = true →
      s ∈ paramNames ps → k.Declares ps p s
  -- In the patterns and defaults of parameters each of them is known.
  | sibling {ps : List Node} {p : Node} {s : String} :
      s ∈ allDeclaredNames ps → Declares .params ps p s
  | statement {k : Kind} {ps : List Node} {p : Node} {s : String} :
      k ∈ [.body, .block, .forLoop] → s ∈ ps.flatMap Node.lexicalNames → k.Declares ps p s
  -- A variable is declared for the whole body, however deep in it the declaration is.
  | hoisted {ps : List Node} {p : Node} {s : String} :
      s ∈ allHoisted ps → Declares .body ps p s
  | switch {ps : List Node} {p : Node} {s : String} :
      s ∈ (ps.flatMap Node.parts).flatMap Node.lexicalNames → Declares .switchBody ps p s
  | caught {ps : List Node} {p : Node} {s : String} :
      s ∈ firstDeclaredNames ps → Declares .catchClause ps p s
  -- Decorators stand outside of the class.
  | className {ps : List Node} {p : Node} {s : String} :
      p.kind ≠ .decorator → s ∈ ownNames ps → Declares .classExpr ps p s
  | enumMember {ps : List Node} {p : Node} {s : String} :
      p.kind.isInner = true → s ∈ memberNames ps → Declares .enumDecl ps p s
  | key {ps : List Node} {p : Node} {s : String} :
      s ∈ ownNames ps → Declares .indexSignature ps p s

/-- The declaration is overlooked when names are settled: the other parameters do not see the one
that gathers the rest, and the head of a class does not see the name of the class. -/
def Kind.Overlooks (k : Kind) (ps : List Node) (p : Node) (s : String) : Prop :=
  k.Declares ps p s ∧
    (k = .params ∧ p.kind ≠ .rest ∧ s ∉ allDeclaredNames (ps.filter (·.kind != .rest)) ∨
      k = .classExpr ∧ p.kind.isBind = false ∧ p.kind.isInner = false)

/-- A name that a tree declares does not mean the module's own any more, unless the declaration is
overlooked. -/
def Kind.Shadows (k : Kind) (ps : List Node) (p : Node) (s : String) : Prop :=
  k.Declares ps p s ∧ ¬ k.Overlooks ps p s

theorem Kind.Declares.shadows {k : Kind} {ps : List Node} {p : Node} {s : String}
    (h : k.Declares ps p s) (other : k ≠ .params) (other' : k ≠ .classExpr) : k.Shadows ps p s := by
  refine ⟨h, ?_⟩
  rintro ⟨-, ⟨params, -⟩ | ⟨class_, -⟩⟩
  · exact other params
  · exact other' class_

theorem mem_allDeclaredNames {ps : List Node} {s : String} :
    s ∈ allDeclaredNames ps ↔ ∃ p ∈ ps, s ∈ p.declaredNames := by
  induction ps with
  | nil => simp [allDeclaredNames]
  | cons p ps ih => simp [allDeclaredNames, ih]

theorem Views.at_eq (v : Views) (p : Node) : v.at p =
    if p.kind.isBind then v.name else if p.kind.isInner then v.other
    else if p.kind = .rest then v.rest else v.head := by
  unfold Views.at
  split <;> simp_all [Kind.isInner, Kind.isBind]

theorem Views.at_other {v : Views} {p : Node} (inner : p.kind.isInner = true) :
    v.at p = v.other := by
  unfold Views.at
  split <;> simp_all [Kind.isInner]

theorem Locals.mem_addValues {l : Locals} {names : List String} {s : String} :
    s ∈ (l.addValues names).values ↔ s ∈ names ∨ s ∈ l.values := List.mem_append

theorem Locals.addTypes_values (l : Locals) (names : List String) :
    (l.addTypes names).values = l.values := rfl

theorem Kind.Shadows.visible {k : Kind} {ps : List Node} {p : Node} {s : String}
    (h : k.Shadows ps p s) (l : Locals) : s ∈ ((k.views ps l).at p).values := by
  obtain ⟨declared, seen⟩ := h
  have plain := not_or.1 fun other => seen ⟨declared, other⟩
  cases declared with
  | function own =>
    simp only [Kind.views, Views.at_eq]
    split_ifs <;> simp [Locals.mem_addValues, Locals.addTypes_values, own]
  | parameter kinds inner param =>
    rw [Views.at_other inner]
    simp only [List.mem_cons, List.not_mem_nil, or_false] at kinds
    obtain rfl | rfl | rfl | rfl := kinds <;> exact Locals.mem_addValues.2 (Or.inl param)
  | sibling param =>
    by_cases rest : p.kind = .rest
    next =>
      simp only [Kind.views, Views.at_eq, rest]
      exact Locals.mem_addValues.2 (Or.inl param)
    next =>
      simp only [Kind.views, Views.at_eq, rest, if_false, ite_self]
      apply Locals.mem_addValues.2
      exact Or.inl (not_not.1 fun other => plain.1 ⟨rfl, rest, other⟩)
  | statement kinds item =>
    simp only [List.mem_cons, List.not_mem_nil, or_false] at kinds
    obtain rfl | rfl | rfl := kinds <;>
      simp only [Kind.views, Views.at_uniform, Locals.addTypes_values, Locals.mem_addValues]
    · exact Or.inl (List.mem_append_left _ item)
    · exact Or.inl item
    · exact Or.inl item
  | hoisted item =>
    simp only [Kind.views, Views.at_uniform, Locals.addTypes_values, Locals.mem_addValues]
    exact Or.inl (List.mem_append_right _ item)
  | switch item =>
    simp only [Kind.views, Views.at_uniform, Locals.addTypes_values, Locals.mem_addValues]
    exact Or.inl item
  | caught param =>
    simp only [Kind.views, Views.at_uniform, Locals.mem_addValues]
    exact Or.inl param
  | className _ own =>
    simp only [Kind.views, Views.at_eq]
    split_ifs with bind inner
    · exact Locals.mem_addValues.2 (Or.inl own)
    · exact Locals.mem_addValues.2 (Or.inl own)
    all_goals exact absurd ⟨rfl, by simpa using bind, by simpa using inner⟩ plain.2
  | enumMember inner member =>
    rw [Views.at_other inner]
    exact Locals.mem_addValues.2 (Or.inl member)
  | key own =>
    simp only [Kind.views, Views.at_uniform, Locals.mem_addValues]
    exact Or.inl own

theorem visible_above (k : Kind) (ps : List Node) (p : Node) {l : Locals} {s : String}
    (above : s ∈ l.values) : s ∈ ((k.views ps l).at p).values := by
  unfold Kind.views
  split <;> (rw [Views.at_eq]; split_ifs) <;>
    simp [Locals.mem_addValues, Locals.addTypes_values, Views.uniform, above]

-- A part sees what its tree declares for it, and what the tree itself sees.
theorem mem_views {k : Kind} {ps : List Node} {l : Locals} {p : Node} {s : String} :
    s ∈ ((k.views ps l).at p).values ↔ k.Shadows ps p s ∨ s ∈ l.values := by
  constructor
  · intro visible
    unfold Kind.views at visible
    split at visible
    -- Parameters and class expressions are where a declaration may be overlooked.
    case h_4 =>
      by_cases rest : p.kind = .rest
      next =>
        simp only [Views.at_eq, rest, Kind.isBind, Kind.isInner, Bool.false_eq_true, if_false,
          if_true] at visible
        apply (Locals.mem_addValues.1 visible).imp_left
        exact fun param => ⟨.sibling param, by simp [Kind.Overlooks, rest]⟩
      next =>
        simp only [Views.at_eq, rest, if_false, ite_self] at visible
        apply (Locals.mem_addValues.1 visible).imp_left
        intro param
        obtain ⟨q, member, declares⟩ := mem_allDeclaredNames.1 param
        have all := mem_allDeclaredNames.2 ⟨q, (List.mem_filter.1 member).1, declares⟩
        exact ⟨.sibling all, by simp [Kind.Overlooks, param]⟩
    case h_11 =>
      simp only [Views.at_eq] at visible
      split_ifs at visible with bind inner
      · have other : p.kind ≠ .decorator := by rintro other; simp [other, Kind.isBind] at bind
        apply (Locals.mem_addValues.1 visible).imp_left
        exact fun own => ⟨.className other own, by simp [Kind.Overlooks, bind]⟩
      · have other : p.kind ≠ .decorator := by rintro other; simp [other, Kind.isInner] at inner
        apply (Locals.mem_addValues.1 visible).imp_left
        exact fun own => ⟨.className other own, by simp [Kind.Overlooks, inner]⟩
      · exact Or.inr visible
      · exact Or.inr visible
    all_goals
      simp only [Views.at_eq, Views.uniform] at visible
      split_ifs at visible <;>
        try simp only [Locals.mem_addValues, Locals.addTypes_values, List.mem_append] at visible
    all_goals first
      | exact Or.inr visible
      | grind [Kind.Declares, Kind.Declares.shadows, memberNames]
  · rintro (shadowed | above)
    · exact shadowed.visible l
    · exact visible_above k ps p above

theorem shadows_iff_visible {k : Kind} {ps : List Node} {p : Node} {s : String} :
    k.Shadows ps p s ↔ s ∈ ((k.views ps .none).at p).values :=
  (mem_views.trans (or_iff_left List.not_mem_nil)).symm

theorem declares_iff {k : Kind} {ps : List Node} {p : Node} {s : String} : k.Declares ps p s ↔
    s ∈ ((k.views ps .none).at p).values ∨ k = .params ∧ s ∈ allDeclaredNames ps ∨
      k = .classExpr ∧ p.kind ≠ .decorator ∧ s ∈ ownNames ps := by
  rw [← shadows_iff_visible]
  constructor
  · intro declared
    by_cases params : k = .params
    next =>
      subst params
      cases declared with
      | sibling param => exact Or.inr (Or.inl ⟨rfl, param⟩)
      | parameter kinds | statement kinds => simp at kinds
    next =>
      by_cases class_ : k = .classExpr
      next =>
        subst class_
        cases declared with
        | className other own => exact Or.inr (Or.inr ⟨rfl, other, own⟩)
        | parameter kinds | statement kinds => simp at kinds
      next => exact Or.inl (declared.shadows params class_)
  · rintro (shadowed | ⟨rfl, param⟩ | ⟨rfl, other, own⟩)
    · exact shadowed.1
    · exact .sibling param
    · exact .className other own

instance (k : Kind) (ps : List Node) (p : Node) (s : String) : Decidable (k.Declares ps p s) :=
  decidable_of_iff _ declares_iff.symm

instance (k : Kind) (ps : List Node) (p : Node) (s : String) : Decidable (k.Overlooks ps p s) :=
  inferInstanceAs (Decidable (_ ∧ _))

/-! ### Trees that differ in names -/

-- The name after `s` has been renamed to `t`.
def renamed (s t name : String) : String := if name = s then t else name

/-- The kinds are the same but for what names mean. Uses of the module's own `s` are uses of `t`,
and types may have any names. -/
inductive Kind.Renames (s t : String) : Kind → Kind → Prop
  | own (x : String) (o : Bool) : Renames s t (.use x true) (.use (renamed s t x) o)
  | inner (x : String) (o : Bool) : Renames s t (.use x false) (.use x o)
  | bind (x : String) (o o' : Bool) : Renames s t (.bind x o) (.bind x o')
  | type (x y : String) (o o' : Bool) : Renames s t (.typeUse x o) (.typeUse y o')
  | same (k : Kind) : k.isName = false → Renames s t k k

/-- The second tree is the first one with other spans, after the module's own `s` has been renamed
to `t`. -/
inductive Node.Renames (s t : String) : Node → Node → Prop
  | node {k k' : Kind} {a b : Span} {ps qs : List Node} : k.Renames s t k' →
      List.Forall₂ (Node.Renames s t) ps qs → Node.Renames s t (.mk k a ps) (.mk k' b qs)
  -- A property that has the name of its value keeps it.
  | property {o : Bool} {a a' b b' c : Span} : Node.Renames s t
      (.mk .shorthand a [.mk (.use s true) b []])
      (.mk .property a' [.mk (.word s) c [], .mk (.use t o) b' []])

theorem flatMap_eq {α β γ : Type} {R : α → β → Prop} {f : α → List γ} {g : β → List γ}
    {as : List α} {bs : List β} (rows : List.Forall₂ R as bs) (each : ∀ a b, R a b → f a = g b) :
    as.flatMap f = bs.flatMap g := by
  induction rows with
  | nil => rfl
  | cons first _ ih => rw [List.flatMap_cons, List.flatMap_cons, each _ _ first, ih]

section

variable {s t : String} {n m : Node} {ps qs : List Node}

theorem ownNames_eq (rows : List.Forall₂ (Node.Renames s t) ps qs) : ownNames ps = ownNames qs := by
  induction rows with
  | nil => rfl
  | cons first _ ih =>
    cases first with
    | property => exact ih
    | @node k _ _ _ _ _ kinds _ =>
      cases kinds with
      | bind | type => first | rfl | exact ih
      | own | inner => exact ih
      | same => cases k <;> first | rfl | exact ih

mutual

theorem Node.Renames.declaredNames_eq : {n m : Node} → n.Renames s t m →
    n.declaredNames = m.declaredNames
  | _, _, .property => rfl
  | .mk k _ _, _, .node kinds parts => by
    cases kinds with
    | same =>
      cases k <;> first
        | rfl
        | exact allDeclaredNames_eq parts
        | exact lastDeclaredNames_eq parts
        | exact firstDeclaredNames_eq parts
    | _ => rfl

theorem allDeclaredNames_eq : {ps qs : List Node} → List.Forall₂ (Node.Renames s t) ps qs →
    allDeclaredNames ps = allDeclaredNames qs
  | _, _, .nil => rfl
  | _, _, .cons first rest => by
    rw [allDeclaredNames, allDeclaredNames, first.declaredNames_eq, allDeclaredNames_eq rest]

theorem firstDeclaredNames_eq : {ps qs : List Node} → List.Forall₂ (Node.Renames s t) ps qs →
    firstDeclaredNames ps = firstDeclaredNames qs
  | _, _, .nil => rfl
  | _, _, .cons first _ => first.declaredNames_eq

theorem lastDeclaredNames_eq : {ps qs : List Node} → List.Forall₂ (Node.Renames s t) ps qs →
    lastDeclaredNames ps = lastDeclaredNames qs
  | _, _, .nil => rfl
  | _, _, .cons first .nil => first.declaredNames_eq
  | _, _, .cons _ (.cons second rest) => (lastDeclaredNames_eq (.cons second rest) :)

end

theorem declaratorNames_eq (rows : List.Forall₂ (Node.Renames s t) ps qs) :
    declaratorNames ps = declaratorNames qs := by
  induction rows with
  | nil => rfl
  | cons first _ ih =>
    cases first with
    | property => exact ih
    | @node k _ _ _ _ _ kinds parts =>
      cases kinds with
      | same =>
        cases k with
        | declarator =>
          cases parts with
          | nil => exact ih
          | cons pattern _ => rw [declaratorNames, declaratorNames, pattern.declaredNames_eq, ih]
        | _ => exact ih
      | _ => exact ih

mutual

theorem Node.Renames.hoisted_eq : {n m : Node} → n.Renames s t m → n.hoisted = m.hoisted
  | _, _, .property => rfl
  | .mk k _ _, _, .node kinds parts => by
    cases kinds with
    | same =>
      cases k with
      | «variables» hoisted =>
        cases hoisted with
        | true => exact declaratorNames_eq parts
        | false => exact allHoisted_eq parts
      | _ => first | rfl | exact allHoisted_eq parts
    | _ => exact allHoisted_eq parts

theorem allHoisted_eq : {ps qs : List Node} → List.Forall₂ (Node.Renames s t) ps qs →
    allHoisted ps = allHoisted qs
  | _, _, .nil => rfl
  | _, _, .cons first rest => by
    rw [allHoisted, allHoisted, first.hoisted_eq, allHoisted_eq rest]

end

theorem importedNames_eq (rows : List.Forall₂ (Node.Renames s t) ps qs) :
    importedNames ps = importedNames qs := by
  apply flatMap_eq rows
  intro n m same
  cases same with
  | property => rfl
  | @node k _ _ _ _ _ kinds parts =>
    cases kinds with
    | same => cases k <;> first | rfl | exact ownNames_eq parts
    | _ => rfl

-- What is told of a tree by its kind, without names and however a property is written.
theorem Node.Renames.kind_congr {α : Type} (same : n.Renames s t m) (f : Kind → α)
    (use : ∀ x y o o', f (.use x o) = f (.use y o')) (bind : ∀ x o o', f (.bind x o) = f (.bind x o'))
    (type : ∀ x y o o', f (.typeUse x o) = f (.typeUse y o')) (short : f .shorthand = f .property) :
    f n.kind = f m.kind := by
  cases same with
  | property => exact short
  | node kinds _ =>
    cases kinds with
    | own | inner => exact use _ _ _ _
    | bind => exact bind _ _ _
    | type => exact type _ _ _ _
    | same => rfl

theorem Node.Renames.isInner_eq (same : n.Renames s t m) : n.kind.isInner = m.kind.isInner :=
  same.kind_congr Kind.isInner (fun _ _ _ _ => rfl) (fun _ _ _ => rfl) (fun _ _ _ _ => rfl) rfl

theorem Node.Renames.isBind_eq (same : n.Renames s t m) : n.kind.isBind = m.kind.isBind :=
  same.kind_congr Kind.isBind (fun _ _ _ _ => rfl) (fun _ _ _ => rfl) (fun _ _ _ _ => rfl) rfl

theorem Node.Renames.isRest_iff (same : n.Renames s t m) : n.kind = .rest ↔ m.kind = .rest :=
  iff_of_eq (same.kind_congr (· = .rest) (fun _ _ _ _ => by simp) (fun _ _ _ => by simp)
    (fun _ _ _ _ => by simp) (by simp))

theorem paramNames_eq (rows : List.Forall₂ (Node.Renames s t) ps qs) :
    paramNames ps = paramNames qs := by
  induction rows with
  | nil => rfl
  | cons first _ ih =>
    cases first with
    | property => exact ih
    | @node k _ _ _ _ _ kinds parts =>
      cases kinds with
      | same => cases k <;> first | exact ih | exact allDeclaredNames_eq parts
      | _ => exact ih

end

-- To settle what names mean is to rename nothing.
theorem Node.renames_resolve (s : String) (l : Locals) (n : Node) :
    n.Renames s s (n.resolve l) := by
  have kept (x : String) : renamed s s x = x := by
    unfold renamed
    split
    · exact Eq.symm ‹_›
    · rfl
  induction n using Node.induct generalizing l with
  | step k span ps ih =>
    rw [Node.resolve, resolveParts_eq_map]
    apply Renames.node
    · cases k with
      | use x o =>
        cases o with
        | true =>
          have own := Kind.Renames.own (s := s) (t := s) x (!l.values.contains x)
          rwa [kept] at own
        | false => exact .inner _ _
      | bind x o => exact .bind _ _ _
      | typeUse x o => exact .type _ _ _ _
      | _ => exact .same _ rfl
    · rw [List.forall₂_map_right_iff, List.forall₂_same]
      exact fun p member => ih p member _

/-! ### Ways down a tree -/

/-- A step from a tree down to one of its parts. -/
structure Step where
  tree : Node
  part : Node

def Step.Declares (x : Step) (s : String) : Prop := x.tree.kind.Declares x.tree.parts x.part s

def Step.Overlooks (x : Step) (s : String) : Prop := x.tree.kind.Overlooks x.tree.parts x.part s

instance (x : Step) (s : String) : Decidable (x.Declares s) :=
  inferInstanceAs (Decidable (Kind.Declares _ _ _ _))

instance (x : Step) (s : String) : Decidable (x.Overlooks s) :=
  inferInstanceAs (Decidable (Kind.Overlooks _ _ _ _))

def Step.Shadows (x : Step) (s : String) : Prop := x.tree.kind.Shadows x.tree.parts x.part s

-- The steps lead from the first tree down to the second.
inductive Node.Leads : Node → List Step → Node → Prop
  | here (n : Node) : Leads n [] n
  | down {n p q : Node} {steps : List Step} :
      p ∈ n.parts → Leads p steps q → Leads n (⟨n, p⟩ :: steps) q

/-- Uses in the tree are known to mean the module's own exactly if neither a step down to them
shadows the name nor anything above the tree does. -/
def Node.Settled (above : String → Prop) (n : Node) : Prop :=
  ∀ steps q name o, n.Leads steps q → q.kind = .use name o →
    (o = true ↔ ¬ above name ∧ ∀ x ∈ steps, ¬ x.Shadows name)

theorem Node.Settled.part {above : String → Prop} {n p : Node} (h : n.Settled above)
    (part : p ∈ n.parts) : p.Settled fun name => above name ∨ n.kind.Shadows n.parts p name := by
  intro steps q name o leads used
  rw [h _ q name o (.down part leads) used, List.forall_mem_cons, ← and_assoc, ← not_or]
  rfl

end Script

end ServerLink
