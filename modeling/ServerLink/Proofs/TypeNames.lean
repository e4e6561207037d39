import ServerLink.Proofs.Declaring

/-!
Which types a tree declares for what stands in it. A name of a type means the module's own exactly
if no tree around it declares a type of the name.
-/

set_option autoImplicit false

namespace ServerLink

open Script

namespace Script

/-- A tree of the kind and with the parts declares the type `s` for what stands in its part `p`. -/
inductive Kind.DeclaresType : Kind → List Node → Node → String → Prop
  -- The name of a function or class stands outside of what its type parameters are for.
  | parameter {k : Kind} {ps : List Node} {p : Node} {s : String} :
      k ∈ [.function, .functionDecl, .arrow, .functionType, .classDecl] → p.kind.isBind = false →
      s ∈ typeParamNames ps → k.DeclaresType ps p s
  | classParameter {ps : List Node} {p : Node} {s : String} :
      p.kind.isBind = false → p.kind ≠ .rest → s ∈ typeParamNames ps → DeclaresType .classExpr ps p s
  | typeParameter {k : Kind} {ps : List Node} {p : Node} {s : String} :
      k ∈ [.interfaceDecl, .aliasDecl] → s ∈ typeParamNames ps → k.DeclaresType ps p s
  | statement {k : Kind} {ps : List Node} {p : Node} {s : String} :
      k ∈ [.body, .block] → s ∈ ps.flatMap Node.typeNames → k.DeclaresType ps p s
  | switch {ps : List Node} {p : Node} {s : String} :
      s ∈ (ps.flatMap Node.parts).flatMap Node.typeNames → DeclaresType .switchBody ps p s
  -- What the type of a function says of a parameter goes by the name of the parameter.
  | subject {ps : List Node} {p : Node} {s : String} :
      p.kind.isInner = true → s ∈ paramNames ps → DeclaresType .functionType ps p s
  | key {ps : List Node} {p : Node} {s : String} :
      s ∈ ownNames ps → DeclaresType .mappedType ps p s
  | inferred {ps : List Node} {p : Node} {s : String} :
      s ∈ allInferredNames ps → DeclaresType .conditionalType ps p s

-- Trees that declare types for their parts.
def Kind.isTypeScope : Kind → Bool
  | .function | .functionDecl | .arrow | .functionType | .classDecl | .classExpr | .interfaceDecl
  | .aliasDecl | .body | .block | .switchBody | .mappedType | .conditionalType => true
  | _ => false

theorem Kind.DeclaresType.isTypeScope {k : Kind} {ps : List Node} {p : Node} {s : String}
    (h : k.DeclaresType ps p s) : k.isTypeScope = true := by
  cases h with
  | parameter kinds | typeParameter kinds | statement kinds =>
    simp only [List.mem_cons, List.not_mem_nil, or_false] at kinds
    rcases kinds with rfl | rfl | rfl | rfl | rfl <;> rfl
  | _ => rfl

theorem Locals.mem_addTypes {l : Locals} {names : List String} {s : String} :
    s ∈ (l.addTypes names).types ↔ s ∈ names ∨ s ∈ l.types := List.mem_append

theorem Locals.addValues_types (l : Locals) (names : List String) :
    (l.addValues names).types = l.types := rfl

theorem Kind.DeclaresType.visible {k : Kind} {ps : List Node} {p : Node} {s : String}
    (h : k.DeclaresType ps p s) (l : Locals) : s ∈ ((k.views ps l).at p).types := by
  have added {l : Locals} {names : List String} (member : s ∈ names) : s ∈ (l.addTypes names).types :=
    Locals.mem_addTypes.2 (Or.inl member)
  cases h with
  | parameter kinds other param =>
    simp only [List.mem_cons, List.not_mem_nil, or_false] at kinds
    obtain rfl | rfl | rfl | rfl | rfl := kinds <;> rw [Kind.views, Views.at_eq] <;>
      simp only [other, Bool.false_eq_true, if_false]
    case inr.inr.inr.inl =>
      split_ifs
      · exact Locals.mem_addTypes.2 (Or.inr (added param))
      · exact added param
      · exact added param
    all_goals split_ifs <;> exact added param
  | classParameter other rest param =>
    rw [Kind.views, Views.at_eq]
    simp only [other, rest, Bool.false_eq_true, if_false]
    split_ifs <;> exact added param
  | typeParameter kinds param =>
    simp only [List.mem_cons, List.not_mem_nil, or_false] at kinds
    obtain rfl | rfl := kinds <;> exact Views.at_uniform _ p ▸ added param
  | statement kinds item =>
    simp only [List.mem_cons, List.not_mem_nil, or_false] at kinds
    obtain rfl | rfl := kinds <;> exact Views.at_uniform _ p ▸ added item
  | switch item => exact Views.at_uniform _ p ▸ added item
  | subject inner param =>
    rw [Views.at_other inner]
    exact added param
  | key own => exact Views.at_uniform _ p ▸ added own
  | inferred found => exact Views.at_uniform _ p ▸ added found

theorem typeVisible_above (k : Kind) (ps : List Node) (p : Node) {l : Locals} {s : String}
    (above : s ∈ l.types) : s ∈ ((k.views ps l).at p).types := by
  unfold Kind.views
  split <;> (rw [Views.at_eq]; split_ifs) <;>
    simp [Locals.mem_addTypes, Locals.addValues_types, Views.uniform, above]

-- A part sees the types its tree declares for it, and those the tree itself sees.
theorem mem_views_types {k : Kind} {ps : List Node} {l : Locals} {p : Node} {s : String} :
    s ∈ ((k.views ps l).at p).types ↔ k.DeclaresType ps p s ∨ s ∈ l.types := by
  constructor
  · intro visible
    unfold Kind.views at visible
    split at visible
    all_goals
      simp only [Views.at_eq, Views.uniform] at visible
      split_ifs at visible <;>
        try simp only [Locals.mem_addTypes, Locals.addValues_types] at visible
    all_goals first
      | exact Or.inr visible
      | grind [Kind.DeclaresType, Kind.isBind, Kind.isInner]
  · rintro (declared | above)
    · exact declared.visible l
    · exact typeVisible_above k ps p above

theorem declaresType_iff_visible {k : Kind} {ps : List Node} {p : Node} {s : String} :
    k.DeclaresType ps p s ↔ s ∈ ((k.views ps .none).at p).types :=
  (mem_views_types.trans (or_iff_left List.not_mem_nil)).symm

instance (k : Kind) (ps : List Node) (p : Node) (s : String) : Decidable (k.DeclaresType ps p s) :=
  decidable_of_iff _ declaresType_iff_visible.symm

theorem Kind.not_declaresType {k : Kind} {ps : List Node} {p : Node} {s : String}
    (plain : k.isTypeScope = false) : ¬ k.DeclaresType ps p s := by
  intro declared
  rw [declared.isTypeScope] at plain
  exact Bool.noConfusion plain

/-! ### Trees that differ in names -/

section

variable {s t : String} {n m : Node} {ps qs : List Node}

theorem Node.Renames.typeNames_eq (same : n.Renames s t m) : n.typeNames = m.typeNames := by
  induction n using Node.induct generalizing m with
  | step k span ps ih =>
    cases same with
    | property => rfl
    | node kinds parts =>
      cases kinds with
      | same =>
        cases k with
        | importDecl => exact importedNames_eq parts
        | exportDecl =>
          cases parts with
          | nil => rfl
          | cons only others =>
            cases others with
            | nil =>
              have inner := ih _ (List.mem_singleton_self _) only
              exact inner
            | cons => rfl
        | _ => first | rfl | exact ownNames_eq parts
      | _ => rfl

theorem typeParamNames_eq (rows : List.Forall₂ (Node.Renames s t) ps qs) :
    typeParamNames ps = typeParamNames qs := by
  have owned {n m : Node} (same : n.Renames s t m) : ownNames n.parts = ownNames m.parts := by
    cases same with
    | property => rfl
    | node _ parts => exact ownNames_eq parts
  induction rows with
  | nil => rfl
  | cons first _ ih =>
    cases first with
    | property => exact ih
    | @node k _ _ _ _ _ kinds parts =>
      cases kinds with
      | same => cases k <;> first | exact ih | exact flatMap_eq parts fun _ _ same => owned same
      | _ => exact ih

mutual

theorem Node.Renames.inferredNames_eq : {n m : Node} → n.Renames s t m →
    n.inferredNames = m.inferredNames
  | _, _, .property => rfl
  | .mk k _ _, _, .node kinds parts => by
    cases kinds with
    | same => cases k <;> first | exact ownNames_eq parts | exact allInferredNames_eq parts
    | _ => exact allInferredNames_eq parts

theorem allInferredNames_eq : {ps qs : List Node} → List.Forall₂ (Node.Renames s t) ps qs →
    allInferredNames ps = allInferredNames qs
  | _, _, .nil => rfl
  | _, _, .cons first rest => by
    rw [allInferredNames, allInferredNames, first.inferredNames_eq, allInferredNames_eq rest]

end

theorem caseTypes_eq (rows : List.Forall₂ (Node.Renames s t) ps qs) :
    (ps.flatMap Node.parts).flatMap Node.typeNames =
      (qs.flatMap Node.parts).flatMap Node.typeNames := by
  rw [List.flatMap_assoc, List.flatMap_assoc]
  apply flatMap_eq rows
  intro n m same
  cases same with
  | property => rfl
  | node _ parts => exact flatMap_eq parts fun _ _ same => same.typeNames_eq

-- Trees that differ in uses of names declare the same types.
theorem declaresType_iff {k k' : Kind} (kinds : k.Renames s t k')
    (rows : List.Forall₂ (Node.Renames s t) ps qs) {p q : Node} (part : p.Renames s t q)
    (name : String) : k.DeclaresType ps p name ↔ k'.DeclaresType qs q name := by
  by_cases plain : k.isName = false
  next =>
    obtain rfl : k = k' := by cases kinds <;> first | rfl | simp [Kind.isName] at plain
    have own := ownNames_eq rows
    have params := paramNames_eq rows
    have typeParams := typeParamNames_eq rows
    have inferred := allInferredNames_eq rows
    have items := flatMap_eq rows fun _ _ same => same.typeNames_eq
    have cases := caseTypes_eq rows
    rw [declaresType_iff_visible, declaresType_iff_visible]
    suffices same : ((k.views ps .none).at p).types = ((k.views qs .none).at q).types by rw [same]
    unfold Kind.views
    split
    all_goals simp only [Views.at_eq, apply_ite Locals.types, Views.uniform, Locals.addValues,
      Locals.addTypes, part.isBind_eq, part.isInner_eq, part.isRest_iff, own, params, typeParams,
      inferred, items, cases]
  next =>
    have other : k.isTypeScope = false ∧ k'.isTypeScope = false := by
      cases kinds with
      | same k other => exact absurd other plain
      | _ => exact ⟨rfl, rfl⟩
    exact iff_of_false (Kind.not_declaresType other.1) (Kind.not_declaresType other.2)

end

/-! ### Ways down a tree -/

def Step.DeclaresType (x : Step) (s : String) : Prop :=
  x.tree.kind.DeclaresType x.tree.parts x.part s

instance (x : Step) (s : String) : Decidable (x.DeclaresType s) :=
  inferInstanceAs (Decidable (Kind.DeclaresType _ _ _ _))

/-- Names of types in the tree are known to mean the module's own exactly if neither a step down to
them declares a type of the name nor anything above the tree does. -/
def Node.TypesSettled (above : String → Prop) (n : Node) : Prop :=
  ∀ steps q name o, n.Leads steps q → q.kind = .typeUse name o →
    (o = true ↔ ¬ above name ∧ ∀ x ∈ steps, ¬ x.DeclaresType name)

theorem Node.typesSettled_resolve (n : Node) (l : Locals) :
    (n.resolve l).TypesSettled (· ∈ l.types) := by
  induction n using Node.induct generalizing l with
  | step k span ps ih =>
    intro steps q name o leads used
    cases leads with
    | here =>
      rw [Node.resolve_kind] at used
      cases k <;> cases used
      simp
    | @down _ p _ steps part leads =>
      rw [Node.resolve, parts_mk, resolveParts_eq_map] at part
      obtain ⟨p, member, rfl⟩ := List.mem_map.1 part
      obtain ⟨kinds, rows⟩ : k.Renames "" "" (k.settle l) ∧
          List.Forall₂ (Node.Renames "" "") ps (resolveParts (k.views ps l) ps) := by
        cases renames_resolve "" l (.mk k span ps) with
        | node kinds rows => exact ⟨kinds, rows⟩
      have declared : Step.DeclaresType ⟨(Node.mk k span ps).resolve l, _⟩ name ↔
          k.DeclaresType ps p name :=
        (declaresType_iff kinds rows (renames_resolve "" ((k.views ps l).at p) p) name).symm
      have below : o = true ↔ ¬ (k.DeclaresType ps p name ∨ name ∈ l.types) ∧
          ∀ x ∈ steps, ¬ x.DeclaresType name := by
        rw [← mem_views_types]
        exact ih p member _ steps q name o leads used
      rw [below, List.forall_mem_cons, declared]
      tauto

end Script

theorem Module.typesSettled_of_parse {path : Path} {text : List Char} {m : Module}
    (parsed : Module.parse path text = .ok m) :
    ∀ item ∈ m.items, item.TypesSettled fun _ => False := by
  unfold Module.parse at parsed
  split at parsed
  · rename_i items read
    obtain rfl := Except.ok.inj parsed
    intro item member
    rw [resolveParts_uniform] at member
    obtain ⟨n, -, rfl⟩ := List.mem_map.1 member
    simpa [Locals.none] using n.typesSettled_resolve .none
  · simp at parsed

end ServerLink
