import ServerLink.Proofs.Origins
import ServerLink.Proofs.Provenance
import ServerLink.Proofs.Registering
import ServerLink.Proofs.TypeNames

/-!
Which functions want the context of a call: those whose first parameter has the library's context
type. A type is the library's if an import of the module brought it, by its own name or with the
whole of the library, and no tree around it declares a type of that name.
-/

set_option autoImplicit false

namespace ServerLink

open Script

/-! ### Types of parameters -/

/-- The steps lead from a name, array or object pattern to the type that stands behind it. A
default may follow the type. -/
inductive Script.Node.HasType : Node → List Step → Node → Prop
  | plain {k : Kind} {span : Span} {ps : List Node} {ann type : Node} :
      k.isBind = true ∨ k = .arrayPattern ∨ k = .objectPattern →
      ps.find? (·.kind == .typeAnn) = some ann → ann.parts.head? = some type →
      HasType (.mk k span ps) [⟨.mk k span ps, ann⟩, ⟨ann, type⟩] type
  | defaulted {span : Span} {p type : Node} {ps : List Node} {steps : List Step} :
      HasType p steps type →
      HasType (.mk .defaulted span (p :: ps)) (⟨.mk .defaulted span (p :: ps), p⟩ :: steps) type

/-- The type goes by the name `s`, and is the given export if `s` is imported as said. -/
inductive Script.Node.NamesType : Node → String → Imported → String → Prop
  | single {s e : String} {o : Bool} {a b : Span} {ps qs : List Node} :
      NamesType (.mk .typeRef a (.mk (.typeUse s o) b ps :: qs)) s (.named e) e
  | property {s e : String} {o : Bool} {a b c : Span} {ps qs rs : List Node} :
      NamesType (.mk .typeRef a (.mk (.qualified e) b (.mk (.typeUse s o) c ps :: qs) :: rs))
        s .namespace e

/-- What the name means that imports of the module declare: of several imports the last one. -/
def LastImport (items : List Node) (s : String) (b : Binding) : Prop :=
  ((items.flatMap Imports.bindingsOf).filter (·.localName == s)).getLast? = some b

-- The parameters of a function, receiver and all.
def Script.Node.allParams (function : Node) : List Node :=
  ((function.part? .params).map Node.undecorated).getD []

/-- The parameters that a call gives values to. A receiver is written as one but is none. -/
def Script.Node.runtimeParams (function : Node) : List Node :=
  function.allParams.filter (!Parse.isReceiver ·)

/-- The first parameter of the function that the steps lead to has the given type of the library. -/
def TakesFirst (items : List Node) (above : List Step) (function : Node)
    (library exported : String) : Prop :=
  ∃ params p below type s b, function.part? .params = some params ∧
    function.runtimeParams.head? = some p ∧ p.HasType below type ∧
    type.NamesType s b.imported exported ∧
    (∀ x ∈ above ++ ⟨function, params⟩ :: ⟨params, p⟩ :: below, ¬ x.DeclaresType s) ∧
    LastImport items s b ∧ b.source = library

theorem annotation?_iff {p type : Node} :
    annotation? p = some type ↔ ∃ steps, p.HasType steps type := by
  constructor
  · intro annotated
    induction p using Node.induct with
    | step k span ps ih =>
      cases k with
      | defaulted =>
        cases ps with
        | nil => simp [annotation?] at annotated
        | cons p ps =>
          obtain ⟨steps, typed⟩ := ih p List.mem_cons_self annotated
          exact ⟨_, .defaulted typed⟩
      | bind | arrayPattern | objectPattern =>
        obtain ⟨ann, found, first⟩ := Option.bind_eq_some_iff.1 annotated
        exact ⟨_, .plain (by simp [Kind.isBind]) found first⟩
      | _ => simp [annotation?] at annotated
  · rintro ⟨steps, typed⟩
    induction typed with
    | @plain k _ _ _ _ kind found first =>
      cases k <;> simp [Kind.isBind] at kind <;> simp [annotation?, found, first]
    | defaulted _ ih => exact ih

theorem Script.Node.HasType.leads {p type : Node} {steps : List Step} (h : p.HasType steps type) :
    p.Leads steps type := by
  induction h with
  | plain _ found first =>
    exact .down (List.mem_of_find?_eq_some found) (.down (List.mem_of_head? first) (.here _))
  | defaulted _ ih => exact .down List.mem_cons_self ih

/-! ### Types of the library -/

theorem Imports.find?_insert (is : Imports) (b : Binding) (s : String) :
    (is.insert b).find? s = if b.localName = s then some b else is.find? s := by
  rw [find?, insert, List.find?_append, List.find?_filter]
  by_cases here : b.localName = s
  next =>
    have gone : is.bindings.find? (fun a =>
        decide ((a.localName != b.localName) = true ∧ (a.localName == s) = true)) = none := by
      simp [here]
    rw [gone]
    simp [here]
  next =>
    have kept : (fun a : Binding =>
          decide ((a.localName != b.localName) = true ∧ (a.localName == s) = true)) =
        (·.localName == s) := by
      funext a
      by_cases named : a.localName = s <;> simp [named, Ne.symm here]
    rw [kept]
    simp [here, find?]

theorem Module.find?_iff {m : Module} {s : String} {b : Binding} :
    m.imports.find? s = some b ↔ LastImport m.items s b := by
  have last (bs : List Binding) (is : Imports) : (bs.foldl Imports.insert is).find? s =
      ((bs.filter (·.localName == s)).getLast?).or (is.find? s) := by
    induction bs generalizing is with
    | nil => simp
    | cons a bs ih =>
      rw [List.foldl_cons, ih, Imports.find?_insert, List.filter_cons]
      by_cases named : a.localName = s
      next => cases bs.filter (·.localName == s) <;> simp [named, List.getLast?_cons]
      next => simp [named]
  have start : Imports.empty.find? s = none := rfl
  rw [Module.imports, Imports.ofItems, last, start, Option.or_none]
  rfl

-- The name that the type goes by is known to mean the module's own.
def Script.Node.isOwnType : Node → Bool
  | .mk .typeRef _ (.mk (.typeUse _ o) _ _ :: _)
  | .mk .typeRef _ (.mk (.qualified _) _ (.mk (.typeUse _ o) _ _ :: _) :: _) => o
  | _ => false

theorem Imports.isTypeOf_iff {is : Imports} {library exported : String} {type : Node} :
    is.isTypeOf library exported type = true ↔
      ∃ s b, type.NamesType s b.imported exported ∧ type.isOwnType = true ∧ is.find? s = some b ∧
        b.source = library := by
  constructor
  · intro named
    unfold isTypeOf at named
    split at named
    · rename_i s _ _ _
      obtain ⟨b, found, brings⟩ := (Option.any_eq_true _ _).1 named
      obtain ⟨source, as⟩ := Bool.and_eq_true_iff.1 brings
      exact ⟨s, b, eq_of_beq as ▸ .single, rfl, found, eq_of_beq source⟩
    · rename_i s _ _ _ _
      obtain ⟨same, brought⟩ := Bool.and_eq_true_iff.1 named
      obtain ⟨b, found, brings⟩ := (Option.any_eq_true _ _).1 brought
      obtain ⟨source, as⟩ := Bool.and_eq_true_iff.1 brings
      exact ⟨s, b, eq_of_beq as ▸ eq_of_beq same ▸ .property, rfl, found, eq_of_beq source⟩
    · simp at named
  · rintro ⟨s, b, names, own, found, source⟩
    generalize as : b.imported = imported at names
    cases names with
    | single =>
      obtain rfl := own
      simp [isTypeOf, found, as, source]
    | property =>
      obtain rfl := own
      simp [isTypeOf, found, as, source]

/-! ### Functions that want the context -/

section

variable {m : Module} {library exported s : String} {item function : Node} {above : List Step}
  {imported : Imported}

-- The mark of a type says whether a type of its name is declared on the way to it.
theorem isOwnType_iff (settled : item.TypesSettled fun _ => False) {steps : List Step} {type : Node}
    (leads : item.Leads steps type) (names : type.NamesType s imported exported) :
    type.isOwnType = true ↔ ∀ x ∈ steps, ¬ x.DeclaresType s := by
  have plain (span : Span) (ps : List Node) (p : Node) :
      ¬ Step.DeclaresType ⟨.mk .typeRef span ps, p⟩ s := Kind.not_declaresType rfl
  cases names with
  | @single _ _ o a b ps qs =>
    have marked := settled _ _ s o (leads.trans (.down List.mem_cons_self (.here _))) rfl
    rw [List.forall_mem_append, List.forall_mem_singleton, and_iff_left (plain _ _ _),
      not_false_eq_true, true_and] at marked
    exact marked
  | @property _ _ o a b c ps qs rs =>
    have plain' (p : Node) : ¬ Step.DeclaresType
        ⟨.mk (.qualified exported) b (.mk (.typeUse s o) c ps :: qs), p⟩ s := Kind.not_declaresType rfl
    have down := leads.trans (.down List.mem_cons_self (.down List.mem_cons_self (.here _)))
    have marked := settled _ _ s o down rfl
    rw [List.forall_mem_append, List.forall_mem_cons, List.forall_mem_singleton,
      and_iff_left (And.intro (plain a _ _) (plain' _)), not_false_eq_true, true_and] at marked
    exact marked

theorem runtimeParams_eq (plain : ∀ p, function.allParams.head? = some p → Parse.isReceiver p = false) :
    function.runtimeParams.head? = function.allParams.head? := by
  unfold Node.runtimeParams
  cases params : function.allParams with
  | nil => rfl
  | cons p ps => simp [plain p (by simp [params])]

theorem wantsContext_iff {o : Options} (settled : item.TypesSettled fun _ => False)
    (leads : item.Leads above function)
    (plain : ∀ p, function.allParams.head? = some p → Parse.isReceiver p = false) :
    wantsContext o m.imports function = true ↔
      TakesFirst m.items above function o.library.specifier o.library.contextType := by
  -- On the way from the function to the type of its parameter.
  have way {params p type : Node} {below : List Step} (found : function.part? .params = some params)
      (first : p ∈ params.undecorated) (typed : p.HasType below type) :
      item.Leads (above ++ ⟨function, params⟩ :: ⟨params, p⟩ :: below) type :=
    leads.trans (.down (List.mem_of_find?_eq_some found)
      (.down (List.mem_of_mem_filter first) typed.leads))
  rw [wantsContext, (Option.any_eq_true _ _)]
  constructor
  · rintro ⟨type, known, isType⟩
    obtain ⟨p, first, annotated⟩ := Option.bind_eq_some_iff.1 known
    obtain ⟨params, found, head⟩ := Option.bind_eq_some_iff.1 first
    obtain ⟨below, typed⟩ := annotation?_iff.1 annotated
    obtain ⟨s, b, names, own, brought, source⟩ := Imports.isTypeOf_iff.1 isType
    have here : function.allParams.head? = some p := by simpa [Node.allParams, found] using head
    refine ⟨params, p, below, type, s, b, found, ?_, typed, names, ?_, Module.find?_iff.1 brought,
      source⟩
    · rw [runtimeParams_eq plain, here]
    · exact (isOwnType_iff settled (way found (List.mem_of_head? head) typed) names).1 own
  · rintro ⟨params, p, below, type, s, b, found, first, typed, names, undeclared, brought, source⟩
    have head : params.undecorated.head? = some p := by
      rw [runtimeParams_eq plain] at first
      simpa [Node.allParams, found] using first
    have own := (isOwnType_iff settled (way found (List.mem_of_head? head) typed) names).2 undeclared
    refine ⟨type, ?_, Imports.isTypeOf_iff.2
      ⟨s, b, names, own, Module.find?_iff.2 brought, source⟩⟩
    exact Option.bind_eq_some_iff.2 ⟨p, Option.bind_eq_some_iff.2 ⟨params, found, head⟩,
      annotation?_iff.2 ⟨below, typed⟩⟩

end

namespace Discovery

variable {d : Discovery} {m : Module} {n : Node} {c : Candidate}

/-- The function that a tree declares: a declared function is one itself, and a variable has one as
its value. Where functions are found by their marker, the marker is called with it. -/
def functionOf? (d : Discovery) : Node → Option Node
  | .mk .functionDecl span ps => some (.mk .functionDecl span ps)
  | .mk .declarator _ (_ :: value :: _) => if d.pattern.isNone then value.args.head? else some value
  | _ => none

-- The function of a declared variable stands in the tree of the variable.
theorem functionOf?_leads {function : Node} (declared : d.functionOf? n = some function) :
    ∃ steps, n.Leads steps function := by
  unfold functionOf? at declared
  split at declared
  · obtain rfl := Option.some.inj declared
    exact ⟨_, .here _⟩
  · rename_i _ p value ps
    have inside : value ∈ p :: value :: ps := List.mem_cons_of_mem p List.mem_cons_self
    split at declared
    · have given := List.mem_of_head? declared
      unfold Node.args at given
      cases found : value.part? .arguments with
      | none => simp [found] at given
      | some args =>
        have argument : function ∈ args.parts := by simpa [found] using given
        exact ⟨_, .down inside (.down (List.mem_of_find?_eq_some found) (.down argument (.here _)))⟩
    · obtain rfl := Option.some.inj declared
      exact ⟨_, .down inside (.here _)⟩
  · simp at declared

theorem function_of_variable {hoisted : Bool} {span : Span}
    (found : c ∈ d.shape m (.mk (.variables hoisted) span [n])) :
    ∃ function, d.functionOf? n = some function ∧
      c.requiresContext = wantsContext d.options m.imports function := by
  have valued {g : String × Node × Node → Option Candidate}
      (inside : c ∈ (namedValues (.mk (.variables hoisted) span [n])).filterMap g) :
      ∃ name value, g (name, n, value) = some c ∧
        ∃ span p ps, n = .mk .declarator span (p :: value :: ps) := by
    obtain ⟨⟨name, declarator, value⟩, named, made⟩ := List.mem_filterMap.1 inside
    obtain ⟨n', here, known⟩ := List.mem_filterMap.1 named
    obtain rfl := List.mem_singleton.1 here
    obtain rfl := namedValue?_itself known
    unfold namedValue? at known
    split at known
    · obtain ⟨-, -, rfl⟩ := Option.some.inj known
      exact ⟨name, _, made, _, _, _, rfl⟩
    · simp at known
  cases pattern : d.pattern with
  | none =>
    rw [shape, pattern] at found
    obtain ⟨name, value, made, span, p, ps, rfl⟩ := valued found
    simp only at made
    repeat' split at made
    case h_1.isTrue function given _ =>
      refine ⟨function, by simp [functionOf?, pattern, given], ?_⟩
      rw [← Option.some.inj made]
    all_goals simp at made
  | some _ =>
    rw [shape, pattern] at found
    obtain ⟨name, value, made, span, p, ps, rfl⟩ := valued found
    simp only at made
    split at made
    · refine ⟨value, by simp [functionOf?, pattern], ?_⟩
      rw [← Option.some.inj made]
    · simp at made

theorem function_of_traced {declaration : Node} (found : (n, c) ∈ d.traced m declaration) :
    ∃ steps function, declaration.Leads steps n ∧ d.functionOf? n = some function ∧
      c.requiresContext = wantsContext d.options m.imports function := by
  obtain ⟨k, span, ps⟩ := declaration
  cases k with
  | «variables» hoisted =>
    obtain ⟨n', member, inside⟩ := List.mem_flatMap.1 found
    obtain ⟨c', shaped, pair⟩ := List.mem_map.1 inside
    obtain ⟨rfl, rfl⟩ := Prod.mk.inj pair
    obtain ⟨function, declared, wants⟩ := function_of_variable shaped
    exact ⟨_, function, .down member (.here _), declared, wants⟩
  | functionDecl =>
    obtain ⟨c', shaped, pair⟩ := List.mem_map.1 found
    obtain ⟨rfl, rfl⟩ := Prod.mk.inj pair
    cases pattern : d.pattern with
    | none => simp [shape, pattern, markedCandidates, namedValues] at shaped
    | some p =>
      rw [shape, pattern] at shaped
      obtain ⟨name, -, rfl⟩ := List.mem_map.1 shaped
      exact ⟨_, _, .here _, rfl, rfl⟩
  | _ =>
    cases pattern : d.pattern <;>
      simp [traced, shape, pattern, markedCandidates, functionCandidates, namedValues] at found

-- What a name is traced back to stands in an item of the module.
theorem leads_of_origin? {exported : String} (known : d.origin? m exported = some (n, c)) :
    ∃ item ∈ m.items, ∃ steps function, item.Leads steps n ∧ d.functionOf? n = some function ∧
      c.requiresContext = wantsContext d.options m.imports function := by
  cases origin?_cases known with
  | inl inline =>
    obtain ⟨declaration, behind, found⟩ := List.mem_flatMap.1 inline.2
    obtain ⟨item, member, exports⟩ := List.mem_filterMap.1 behind
    obtain ⟨steps, function, leads, declared, wants⟩ := function_of_traced found
    unfold exported? at exports
    split at exports
    · obtain rfl := Option.some.inj exports
      exact ⟨_, member, _, function, .down List.mem_cons_self leads, declared, wants⟩
    · simp at exports
  | inr last =>
    obtain ⟨item, member, found⟩ := List.mem_flatMap.1 (mem_plainOrigins_of_last last)
    obtain ⟨steps, function, leads, declared, wants⟩ := function_of_traced found
    exact ⟨item, member, steps, function, leads, declared, wants⟩

open Registering in
/-- A function that a search finds is one that its module declares. It wants the context of a call
exactly if its first parameter has the library's context type, and exactly then its registration
marks it, so that the handler passes the context before the arguments. Left out are functions whose
first parameter is a receiver, which is none when they are called. -/
theorem context_of_functions {path : Path} {text : List Char} (parsed : Module.parse path text = .ok m)
    {root : Path} {f : ServerFunction} (member : f ∈ (d.scan m root).values) :
    ∃ n c function, d.origin? m f.exportedName = some (n, c) ∧ record m root f.exportedName c = f ∧
      d.functionOf? n = some function ∧ ∃ item ∈ m.items, ∃ above, item.Leads above function ∧
      ((∀ p, function.allParams.head? = some p → Parse.isReceiver p = false) →
        (f.requiresContext = true ↔ TakesFirst m.items above function d.options.library.specifier
          d.options.library.contextType) ∧
        (.mark f.id ∈ registering f ↔ TakesFirst m.items above function d.options.library.specifier
          d.options.library.contextType)) := by
  obtain ⟨n, c, origin, recorded⟩ := origin_of_values member
  obtain ⟨item, within, steps, function, leads, declared, wants⟩ := leads_of_origin? origin
  obtain ⟨more, down⟩ := functionOf?_leads declared
  refine ⟨n, c, function, origin, recorded.symm, declared, item, within, _, leads.trans down,
    fun plain => ?_⟩
  have settled := Module.typesSettled_of_parse parsed item within
  have same : f.requiresContext = wantsContext d.options m.imports function :=
    (congrArg ServerFunction.requiresContext recorded).trans wants
  have context := wantsContext_iff (m := m) (o := d.options) settled (leads.trans down) plain
  rw [← same] at context
  refine ⟨context, ?_⟩
  rw [← context, registering]
  cases f.requiresContext <;> simp

end Discovery

-- A function that takes the context by another name of the type, and one with a type of that name.
def Sample.contextual : Source :=
  .of path ("import \x7b func, type Context as C \x7d from \"serverfn\"\n" ++
    "export const f = func((\x7b id \x7d: C = first) => id)\n" ++
    "export const g = func(<C>(c: C) => c)").toList (by decide +kernel)

theorem Discovery.context_of_functions_aliased :
    let m := Sample.contextual.module
    let found := ((Discovery.mk .standard none).scan m ⟨"/p"⟩).values
    found.map ServerFunction.requiresContext = [true, false] ∧
      ∀ f ∈ found, ∃ item ∈ m.items, ∃ above function, item.Leads above function ∧
        (f.requiresContext = true ↔ TakesFirst m.items above function "serverfn" "Context") := by
  intro m found
  obtain ⟨flags, plain⟩ : found.map ServerFunction.requiresContext = [true, false] ∧
      ∀ f ∈ found, ((Discovery.mk .standard none).origin? m f.exportedName).all fun declared =>
        ((Discovery.mk .standard none).functionOf? declared.1).all fun function =>
          function.allParams.head?.all fun p => Parse.isReceiver p == false := by
    decide +kernel
  refine ⟨flags, fun f member => ?_⟩
  obtain ⟨n, c, function, origin, -, declared, item, within, above, leads, context⟩ :=
    Discovery.context_of_functions Sample.contextual.parsed member
  have first := plain f member
  simp only [Option.all_eq_true, beq_iff_eq] at first
  exact ⟨item, within, above, function, leads, (context (first _ origin _ declared)).1⟩

end ServerLink
