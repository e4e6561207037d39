import ServerLink.Proofs.Items
import ServerLink.Proofs.Matching

/-!
Modules without the functions that become stubs. The function literal of a variable that is one of
the module's server functions is taken out of the tree and leaves a hole of the same place; a
client has no other use for it, so the module is rewritten as if it had never been there.
-/

set_option autoImplicit false

namespace ServerLink

open Script Text

/-- The function literal of a variable that is one of the server functions: the only argument of
the marker's call. -/
def recordedLiteral? (is : Imports) (library : LibraryNames) (own : FunctionMap)
    (declarator : Node) : Option Node :=
  match declarator with
  | .mk .declarator _ (.mk (.bind name _) _ _ :: value :: _) =>
      if is.isCallOf library.specifier library.marker value
          && own.values.any (·.localName == name) then
        match value.args with
        | [f] => if isFunctionLiteral f then some f else none
        | _ => none
      else none
  | _ => none

/-- A hole in the place of a tree. -/
def hole (n : Node) : Node := .mk .hole n.span []

/-- A list of arguments with holes in their places; any other tree stays. -/
def hollowArguments (n : Node) : Node :=
  match n with
  | .mk .arguments span ps => .mk .arguments span (ps.map hole)
  | n => n

def hollowCall (call : Node) : Node := .mk call.kind call.span (call.parts.map hollowArguments)

/-- A variable with a hole for the function literal that is recorded. -/
def hollowDeclarator (is : Imports) (library : LibraryNames) (own : FunctionMap) (d : Node) :
    Node :=
  match recordedLiteral? is library own d, d with
  | some _, .mk k span (name :: value :: more) => .mk k span (name :: hollowCall value :: more)
  | _, d => d

/-- An item with holes for the function literals of its variables that are recorded. -/
def hollowItem (is : Imports) (library : LibraryNames) (own : FunctionMap) (item : Node) : Node :=
  match item with
  | .mk (.variables hoisted) span ds =>
      .mk (.variables hoisted) span (ds.map (hollowDeclarator is library own))
  | .mk .exportDecl span (.mk (.variables hoisted) span' ds :: more) =>
      .mk .exportDecl span
        (.mk (.variables hoisted) span' (ds.map (hollowDeclarator is library own)) :: more)
  | item => item

/-! ### What stays the same -/

section Recorded

variable {is : Imports} {library : LibraryNames} {own : FunctionMap}

-- What is known of a variable whose literal is recorded.
theorem recordedLiteral?_eq_some {d f : Node} (h : recordedLiteral? is library own d = some f) :
    ∃ span name outer place ps value more,
      d = .mk .declarator span (.mk (.bind name outer) place ps :: value :: more) ∧
      is.isCallOf library.specifier library.marker value = true ∧
      own.values.any (·.localName == name) = true ∧ value.args = [f] ∧
      isFunctionLiteral f = true := by
  unfold recordedLiteral? at h
  split at h
  · rename_i span name outer place ps value more
    split at h
    · rename_i recorded
      simp only [Bool.and_eq_true] at recorded
      split at h
      · rename_i g given
        split at h
        · rename_i literal
          obtain rfl : g = f := by simpa using h
          exact ⟨span, name, outer, place, ps, value, more, rfl, recorded.1, recorded.2, given,
            literal⟩
        · simp at h
      · simp at h
    · simp at h
  · simp at h

-- The callee of a call of an export is a name or a property of one.
theorem isCallOf_callee {exported : String} {value : Node}
    (h : is.isCallOf library.specifier exported value = true) :
    ∃ span callee more, value = .mk .call span (callee :: more) ∧
      callee.kind ≠ .arguments ∧ callee.kind ≠ .typeArgs := by
  unfold Imports.isCallOf at h
  split at h
  · rename_i span callee more
    refine ⟨span, callee, more, rfl, ?_⟩
    have named : is.export? library.specifier callee = some exported := by simpa using h
    obtain ⟨k, place, ps⟩ := callee
    cases k with
    | use name outer => simp
    | member property => simp
    | _ => simp [Imports.export?] at named
  · simp at h

theorem kind_hollowArguments (n : Node) : (hollowArguments n).kind = n.kind := by
  unfold hollowArguments
  split <;> rfl

theorem hollowArguments_of_ne {n : Node} (other : n.kind ≠ .arguments) : hollowArguments n = n := by
  obtain ⟨k, span, ps⟩ := n
  cases k with
  | arguments => simp at other
  | _ => rfl

theorem part?_hollowCall (call : Node) (k : Kind) :
    (hollowCall call).part? k = (call.part? k).map hollowArguments := by
  have same : ((·.kind == k) ∘ hollowArguments) = (·.kind == k) := by
    funext n
    simp [kind_hollowArguments]
  simp only [Node.part?, hollowCall, Node.parts_mk, List.find?_map, same]

theorem args_hollowCall (call : Node) : (hollowCall call).args = call.args.map hole := by
  simp only [Node.args, part?_hollowCall]
  cases found : call.part? .arguments with
  | none => rfl
  | some args =>
    have kind : args.kind = .arguments := by simpa using List.find?_some found
    obtain ⟨k, span, ps⟩ := args
    simp only [Node.kind_mk] at kind
    subst kind
    rfl

theorem typeArgs?_hollowCall (call : Node) : (hollowCall call).typeArgs? = call.typeArgs? := by
  simp only [Node.typeArgs?, part?_hollowCall]
  cases found : call.part? .typeArgs with
  | none => rfl
  | some types =>
    have kind : types.kind = .typeArgs := by simpa using List.find?_some found
    rw [Option.map_some, hollowArguments_of_ne (by simp [kind])]

theorem argValue_of_isFunctionLiteral {f : Node} (literal : isFunctionLiteral f = true) :
    f.argValue = f := by
  obtain ⟨k, span, ps⟩ := f
  cases k <;> simp_all [isFunctionLiteral, Node.argValue]

theorem bindingsOf_hollowItem (item : Node) :
    Imports.bindingsOf (hollowItem is library own item) = Imports.bindingsOf item := by
  unfold hollowItem
  split <;> rfl

theorem topVariables_hollowItem (item : Node) :
    Rewriting.topVariables (hollowItem is library own item) =
      (Rewriting.topVariables item).map (hollowDeclarator is library own) := by
  unfold hollowItem
  split
  · rfl
  · rfl
  · rename_i none exported
    unfold Rewriting.topVariables
    split
    · exact absurd rfl (none _ _ _)
    · exact absurd rfl (exported _ _ _ _ _)
    · rfl

theorem stubOf?_hollowDeclarator (d : Node) :
    Rewriting.stubOf? is library own (hollowDeclarator is library own d) =
      Rewriting.stubOf? is library own d := by
  cases recorded : recordedLiteral? is library own d with
  | none => simp [hollowDeclarator, recorded]
  | some f =>
    obtain ⟨span, name, outer, place, ps, value, more, rfl, called, known, given, literal⟩ :=
      recordedLiteral?_eq_some recorded
    obtain ⟨at', callee, rest, rfl, other, -⟩ := isCallOf_callee called
    have args := args_hollowCall (.mk .call at' (callee :: rest))
    have same : is.isCallOf library.specifier library.marker
        (hollowCall (.mk .call at' (callee :: rest))) = true := by
      simpa [hollowCall, Imports.isCallOf, hollowArguments_of_ne other] using called
    simp only [hollowDeclarator, recorded, Rewriting.stubOf?, args, given, same, called]
    rfl

-- A variable whose literal is recorded becomes a stub.
theorem stubOf?_of_recorded {d f : Node} (h : recordedLiteral? is library own d = some f) :
    (Rewriting.stubOf? is library own d).isSome = true := by
  obtain ⟨span, name, outer, place, ps, value, more, rfl, called, known, given, -⟩ :=
    recordedLiteral?_eq_some h
  have named : (Rewriting.ownId? own name).isSome = true := by
    simpa [Rewriting.ownId?, List.find?_isSome] using known
  simp [Rewriting.stubOf?, given, called, named]

end Recorded

namespace Rewriting

section Hollow

variable (r : Rewriting) {is : Imports} {library : LibraryNames} {own : FunctionMap}

/-- The calls that become stubs take in that of the variable. -/
def HasStub (is : Imports) (library : LibraryNames) (own : FunctionMap) (d : Node) : Prop :=
  ∀ start id, stubOf? is library own d = some (start, id) → (r.stubs.lookup start).isSome = true

-- Where arguments do not stand it does not matter what is in them.
theorem parts_hollowArguments {stands : Kind → Bool} (skips : stands .arguments = false)
    (ps : List Node) :
    r.orderedParts stands (ps.map hollowArguments) = r.orderedParts stands ps ∧
      r.partUses stands (ps.map hollowArguments) = r.partUses stands ps := by
  induction ps with
  | nil => exact ⟨rfl, rfl⟩
  | cons p ps ih =>
    simp only [List.map_cons, orderedParts, partUses, kind_hollowArguments, ih.1, ih.2]
    by_cases list : p.kind = .arguments
    · simp [list, skips]
    · simp [hollowArguments_of_ne list]

-- A call that becomes a stub is rewritten without a look at its argument.
theorem hollowCall_stub {value f : Node} {exported id : String}
    (called : is.isCallOf library.specifier exported value = true) (given : value.args = [f])
    (literal : isFunctionLiteral f = true) (stub : r.stubs.lookup value.start = some id) :
    r.ordered (hollowCall value) = r.ordered value ∧ r.uses (hollowCall value) = r.uses value := by
  obtain ⟨span, callee, rest, rfl, other, -⟩ := isCallOf_callee called
  have hollowed : hollowCall (.mk .call span (callee :: rest)) =
      .mk .call span (callee :: rest.map hollowArguments) := by
    simp [hollowCall, hollowArguments_of_ne other]
  have plan : r.plan (.mk .call span (callee :: rest)) = .stub id := by
    simp only [Rewriting.plan, planCall, stub]
  have plan' : r.plan (.mk .call span (callee :: rest.map hollowArguments)) = .stub id := by
    have stub' : r.stubs.lookup
        (Node.mk .call span (callee :: rest.map hollowArguments)).start = some id := stub
    simp only [Rewriting.plan, planCall, stub']
  have skips : r.survives (.stub id) .arguments = false := by simp [survives]
  obtain ⟨parts, uses⟩ := r.parts_hollowArguments skips (callee :: rest)
  rw [List.map_cons, hollowArguments_of_ne other] at parts uses
  have args := args_hollowCall (.mk .call span (callee :: rest))
  have types := typeArgs?_hollowCall (.mk .call span (callee :: rest))
  rw [hollowed] at args types
  have lead : r.leadEdits (.mk .call span (callee :: rest.map hollowArguments)) (.stub id) =
      r.leadEdits (.mk .call span (callee :: rest)) (.stub id) := by
    simp only [leadEdits, calleeEdit, types]
    rfl
  have trail : r.trailEdits (.mk .call span (callee :: rest.map hollowArguments)) (.stub id) =
      r.trailEdits (.mk .call span (callee :: rest)) (.stub id) := by
    simp only [trailEdits, stubEdits, args, given, List.map_cons, List.head?_cons,
      argValue_of_isFunctionLiteral literal]
    rfl
  rw [hollowed]
  simp only [ordered, Rewriting.uses, plan, plan', parts, uses, lead, trail]
  exact ⟨trivial, trivial⟩

-- The call of a variable whose literal is recorded becomes a stub.
theorem recorded_stub {d f : Node} (known : r.HasStub is library own d)
    (recorded : recordedLiteral? is library own d = some f) :
    ∃ span name value more id, d = .mk .declarator span (name :: value :: more) ∧
      is.isCallOf library.specifier library.marker value = true ∧ value.args = [f] ∧
      isFunctionLiteral f = true ∧ r.stubs.lookup value.start = some id := by
  obtain ⟨⟨start, id⟩, stub⟩ := Option.isSome_iff_exists.1 (stubOf?_of_recorded recorded)
  have looked := known start id stub
  obtain ⟨span, name, outer, place, ps, value, more, rfl, called, -, given, literal⟩ :=
    recordedLiteral?_eq_some recorded
  have begins : value.start = start := by
    simp only [stubOf?, given, called] at stub
    obtain ⟨_, -, same⟩ := Option.map_eq_some_iff.1 stub
    exact (Prod.mk.inj same).1
  obtain ⟨looked, found⟩ := Option.isSome_iff_exists.1 (begins ▸ looked)
  exact ⟨span, _, value, more, looked, rfl, called, given, literal, found⟩

-- A variable is rewritten without a look at the literal that is recorded.
theorem hollowDeclarator_stub {d : Node} (known : r.HasStub is library own d) :
    r.ordered (hollowDeclarator is library own d) = r.ordered d ∧
      r.uses (hollowDeclarator is library own d) = r.uses d := by
  cases recorded : recordedLiteral? is library own d with
  | none => simp [hollowDeclarator, recorded]
  | some f =>
    obtain ⟨span, name, value, more, id, rfl, called, given, literal, found⟩ :=
      r.recorded_stub known recorded
    obtain ⟨ordered, uses⟩ := r.hollowCall_stub called given literal found
    have kept (qs : List Node) : r.plan (.mk .declarator span qs) = .keep :=
      r.plan_eq_keep (by simp)
    have kind : (hollowCall value).kind = value.kind := rfl
    simp only [hollowDeclarator, recorded, Rewriting.ordered, Rewriting.uses, kept, orderedParts,
      partUses, ordered, uses, leadEdits, trailEdits, kind]
    exact ⟨trivial, trivial⟩

theorem hollowDeclarators {ds : List Node} (known : ∀ d ∈ ds, r.HasStub is library own d)
    (stands : Kind → Bool) :
    r.orderedParts stands (ds.map (hollowDeclarator is library own)) = r.orderedParts stands ds ∧
      r.partUses stands (ds.map (hollowDeclarator is library own)) = r.partUses stands ds := by
  induction ds with
  | nil => exact ⟨rfl, rfl⟩
  | cons d ds ih =>
    obtain ⟨ordered, uses⟩ := r.hollowDeclarator_stub (known d (by simp))
    obtain ⟨parts, mentions⟩ := ih fun e member => known e (List.mem_cons_of_mem _ member)
    have kind : (hollowDeclarator is library own d).kind = d.kind := by
      unfold hollowDeclarator
      split <;> rfl
    simp only [List.map_cons, orderedParts, partUses, ordered, uses, parts, mentions, kind]
    exact ⟨trivial, trivial⟩

-- An item is rewritten without a look at the literals that are recorded.
theorem hollowItem_stubs {item : Node}
    (known : ∀ d ∈ topVariables item, r.HasStub is library own d) :
    r.ordered (hollowItem is library own item) = r.ordered item ∧
      r.uses (hollowItem is library own item) = r.uses item := by
  have kept {k : Kind} (span : Span) (qs : List Node) (plain : k ≠ .call) :
      r.plan (.mk k span qs) = .keep := r.plan_eq_keep plain
  unfold hollowItem
  split
  · rename_i hoisted span ds
    obtain ⟨parts, mentions⟩ := r.hollowDeclarators known (r.survives .keep)
    simp only [topVariables] at parts mentions
    simp [Rewriting.ordered, Rewriting.uses, kept, parts, mentions, leadEdits, trailEdits]
  · rename_i span hoisted span' ds more
    obtain ⟨parts, mentions⟩ := r.hollowDeclarators known (r.survives .keep)
    simp only [topVariables] at parts mentions
    simp [Rewriting.ordered, Rewriting.uses, kept, parts, mentions, orderedParts, partUses,
      leadEdits, trailEdits]
  · exact ⟨rfl, rfl⟩

end Hollow

-- A rewriting with stubs has them for all variables at the top of its module.
theorem hasStub_of_mem {m : Module} {o : Options} {passes : Passes} {own : FunctionMap}
    {imported : ImportedFunctions} (stubs : passes.clientStubs = true) {item d : Node}
    (here : item ∈ m.items) (top : d ∈ topVariables item) :
    (ofModule m o passes own imported).HasStub m.imports o.library own d := by
  intro start id stub
  have listed : (start, id) ∈ (ofModule m o passes own imported).stubs := by
    simp only [ofModule, stubs, if_true, stubsOf]
    exact List.mem_filterMap.2 ⟨d, List.mem_flatMap.2 ⟨item, here, top⟩, stub⟩
  generalize (ofModule m o passes own imported).stubs = all at listed
  induction all with
  | nil => simp at listed
  | cons a all ih =>
    rw [List.lookup_cons]
    split
    · rfl
    · rename_i miss
      rcases List.mem_cons.1 listed with rfl | later
      · simp at miss
      · exact ih later

-- On the client all variables at the top of a module have their stubs.
theorem hasStub_of_client {m : Module} (o : Options) (own : FunctionMap)
    (imported : ImportedFunctions) {item d : Node} (here : item ∈ m.items)
    (top : d ∈ topVariables item) :
    (ofModule m o (o.passes .client !own.isEmpty) own imported).HasStub m.imports o.library own d := by
  by_cases empty : own.isEmpty = true
  · intro start id stub
    have nothing : own.values = [] := by
      simp only [FunctionMap.isEmpty, List.isEmpty_iff] at empty
      simp [FunctionMap.values, empty]
    have unknown (name : String) : ownId? own name = none := by
      simp [ownId?, nothing]
    unfold stubOf? at stub
    split at stub
    · simp [unknown] at stub
    · simp at stub
  · exact hasStub_of_mem (by simp [Options.passes, empty]) here top

end Rewriting

end ServerLink
