import ServerLink.Proofs.Items
import ServerLink.Proofs.Recorded

/-!
Identifiers under which a client sends its calls. Each is that of a server function, either one
that an import brings or one of the module's own; no edit sends a call in any other way.
-/

set_option autoImplicit false

namespace ServerLink

open Script Text

/-- The identifier under which a plan sends calls. -/
def CallPlan.id? : CallPlan → Option String
  | .stub id => some id
  | .dispatch id => some id
  | _ => none

namespace Rewriting

mutual

/-- The identifiers under which a tree that is rewritten sends calls. -/
def sentIds (r : Rewriting) : Node → List String
  | .mk k span ps =>
      let p := r.plan (.mk k span ps)
      if isImport k then [] else p.id?.toList ++ r.partIds (r.survives p) ps

def partIds (r : Rewriting) (stands : Kind → Bool) : List Node → List String
  | [] => []
  | p :: ps => (if stands p.kind then r.sentIds p else []) ++ r.partIds stands ps

end

end Rewriting

/-- The identifiers under which a module sends calls once it is ready for the client. -/
def dispatchedIds (o : Options) (t : FileTree) (r : Registry) (m : Module) (own : FunctionMap) :
    List String :=
  let passes := o.passes .client !own.isEmpty
  match passes.clientStubs, o.detection with
  | true, .filePattern _ => own.values.map (·.id)
  | _, _ =>
      (Rewriting.ofModule m o passes own
        (importedFunctions t r o.extensions m.path m.imports own)).partIds (fun _ => true) m.items

namespace Rewriting

/-! ### Where identifiers are from -/

-- What a call can become, and why.
theorem planCall_cases (r : Rewriting) (start : Nat) (callee : Node) (args : List Node) :
    (∃ id, r.stubs.lookup start = some id ∧ r.planCall start callee args = .stub id) ∨
    (∃ f, r.imported.calledBy? callee = some f ∧ r.planCall start callee args = .dispatch f.id) ∨
    (∃ code, r.helperCode? callee args.length = some code ∧
      r.planCall start callee args = .inlined code) ∨
    r.planCall start callee args = .keep := by
  unfold planCall
  split
  · rename_i id stub
    exact Or.inl ⟨id, stub, rfl⟩
  · split
    · rename_i f called
      split at called
      · exact Or.inr (Or.inl ⟨f, called, rfl⟩)
      · simp at called
    · split
      · split
        · rename_i code helper
          exact Or.inr (Or.inr (Or.inl ⟨code, helper, rfl⟩))
        · exact Or.inr (Or.inr (Or.inr rfl))
      · exact Or.inr (Or.inr (Or.inr rfl))

theorem function_of_calledBy? {fs : ImportedFunctions} {callee : Node} {f : ServerFunction}
    (called : fs.calledBy? callee = some f) : ∃ entry ∈ fs.entries, entry.function = f := by
  have found (key name : String) (h : fs.find? key name = some f) :
      ∃ entry ∈ fs.entries, entry.function = f := by
    obtain ⟨entry, kept, rfl⟩ := Option.map_eq_some_iff.1 h
    exact ⟨entry, List.mem_of_find?_eq_some (Option.filter_eq_some_iff.1 kept).1, rfl⟩
  unfold ImportedFunctions.calledBy? at called
  split at called
  · exact found _ _ called
  · exact found _ _ called
  · simp at called

theorem function_of_stub {m : Module} {o : Options} {passes : Passes} {own : FunctionMap}
    {imported : ImportedFunctions} {start : Nat} {id : String}
    (stub : (ofModule m o passes own imported).stubs.lookup start = some id) :
    ∃ f ∈ own.values, f.id = id := by
  obtain ⟨before, after, stubs, -⟩ := List.lookup_eq_some_iff.1 stub
  have member : (start, id) ∈ (ofModule m o passes own imported).stubs := by simp [stubs]
  simp only [ofModule] at member
  split at member
  · obtain ⟨d, -, found⟩ := List.mem_filterMap.1 member
    unfold stubOf? at found
    split at found
    · split at found
      · rename_i name _ _ _ _ _ _
        obtain ⟨known, named, same⟩ := Option.map_eq_some_iff.1 found
        obtain ⟨f, here, rfl⟩ := Option.map_eq_some_iff.1 named
        have listed := List.mem_of_find?_eq_some here
        exact ⟨f, by simpa using listed, (Prod.mk.inj same).2⟩
      · simp at found
    · simp at found
  · simp at member

-- A call is sent under the identifier of an imported function or of one of the module's own.
theorem function_of_plan {m : Module} {o : Options} {passes : Passes} {own : FunctionMap}
    {imported : ImportedFunctions} {n : Node} {id : String}
    (sent : ((ofModule m o passes own imported).plan n).id? = some id) :
    (∃ f ∈ own.values, f.id = id) ∨ ∃ entry ∈ imported.entries, entry.function.id = id := by
  unfold plan at sent
  split at sent
  · rename_i span callee rest
    generalize args : Node.args _ = as at sent
    rcases (ofModule m o passes own imported).planCall_cases
      (Node.mk .call span (callee :: rest)).start callee as with
      ⟨known, stub, plan⟩ | ⟨f, called, plan⟩ | ⟨code, -, plan⟩ | plan
    · rw [plan] at sent
      obtain rfl : known = id := by simpa [CallPlan.id?] using sent
      exact Or.inl (function_of_stub stub)
    · rw [plan] at sent
      obtain ⟨entry, member, rfl⟩ := function_of_calledBy? called
      exact Or.inr ⟨entry, member, by simpa [CallPlan.id?] using sent⟩
    · simp [plan, CallPlan.id?] at sent
    · simp [plan, CallPlan.id?] at sent
  · simp [CallPlan.id?] at sent

theorem plan_of_sentIds (r : Rewriting) {id : String} (n : Node) (sent : id ∈ r.sentIds n) :
    ∃ call, (r.plan call).id? = some id := by
  induction n using Node.induct with
  | step k span ps ih =>
    simp only [sentIds] at sent
    split at sent
    · simp at sent
    · rcases List.mem_append.1 sent with own | inner
      · exact ⟨.mk k span ps, by simpa using own⟩
      · clear sent
        generalize r.survives _ = stands at inner
        induction ps with
        | nil => simp [partIds] at inner
        | cons p ps more =>
          simp only [partIds, List.mem_append] at inner
          rcases inner with first | rest
          · split at first
            · exact ih p (by simp) first
            · simp at first
          · exact more (fun q member => ih q (List.mem_cons_of_mem _ member)) rest

theorem plan_of_partIds (r : Rewriting) {stands : Kind → Bool} {id : String} {ps : List Node}
    (sent : id ∈ r.partIds stands ps) : ∃ call, (r.plan call).id? = some id := by
  induction ps with
  | nil => simp [partIds] at sent
  | cons p ps ih =>
    simp only [partIds, List.mem_append] at sent
    rcases sent with first | rest
    · split at first
      · exact r.plan_of_sentIds p first
      · simp at first
    · exact ih rest

end Rewriting

/-! ### Edits that send calls -/

/-- The code sends no call, or it does so under the identifiers: those of a call, of a stub, or of a
whole module of stubs. -/
def SendsUnder (g : GlobalNames) (ids : List String) (code : String) : Prop :=
  code ∈ ["", GlobalNames.dispatchClosing, g.handler, g.handlerSetter] ∨
    (∃ id ∈ ids, code ∈ [g.dispatchOpening id,
      g.dispatchOpening id ++ GlobalNames.dispatchClosing, g.stub id]) ∨
    ∃ functions : FunctionMap, (∀ f ∈ functions.values, f.id ∈ ids) ∧ code = functions.stubModule g

theorem SendsUnder.mono {g : GlobalNames} {ids more : List String} {code : String}
    (h : SendsUnder g ids code) (le : ids ⊆ more) : SendsUnder g more code := by
  rcases h with silent | ⟨id, member, sends⟩ | ⟨functions, each, same⟩
  · exact Or.inl silent
  · exact Or.inr (Or.inl ⟨id, le member, sends⟩)
  · exact Or.inr (Or.inr ⟨functions, fun f here => le (each f here), same⟩)

namespace Rewriting

theorem helperCode?_mem {r : Rewriting} {callee : Node} {count : Nat} {code : String}
    (found : r.helperCode? callee count = some code) :
    code ∈ ["", r.globals.handler, r.globals.handlerSetter] := by
  obtain ⟨exported, -, inner⟩ := Option.bind_eq_some_iff.1 found
  split at inner
  · split at inner <;> simp_all
  · split at inner
    · split at inner <;> simp_all
    · split at inner
      · split at inner <;> simp_all
      · simp at inner

-- What a plan does to a call sends nothing but under the plan's identifier.
theorem ownEdits_send (r : Rewriting) (n : Node) :
    ∀ e ∈ r.ownEdits n (r.plan n), SendsUnder r.globals (r.plan n).id?.toList e.content := by
  cases p : r.plan n with
  | keep => simp [ownEdits]
  | stub id =>
    intro e member
    simp only [ownEdits, List.mem_append] at member
    rcases member with callee | stub
    · split at callee
      · obtain rfl := List.mem_singleton.1 callee
        exact Or.inl (by simp [calleeEdit])
      · simp at callee
    · simp only [stubEdits] at stub
      split at stub
      · obtain rfl := List.mem_singleton.1 stub
        exact Or.inr (Or.inl ⟨id, by simp [CallPlan.id?], by simp⟩)
      · simp at stub
  | dispatch id =>
    intro e member
    have under : id ∈ (CallPlan.dispatch id).id?.toList := by simp [CallPlan.id?]
    simp only [ownEdits, dispatchEdits] at member
    split at member
    · rcases List.mem_cons.1 member with rfl | closing
      · exact Or.inr (Or.inl ⟨id, under, by simp⟩)
      · obtain rfl := List.mem_singleton.1 closing
        exact Or.inl (by simp)
    · obtain rfl := List.mem_singleton.1 member
      exact Or.inr (Or.inl ⟨id, under, by simp⟩)
  | inlined code =>
    have helper : code ∈ ["", r.globals.handler, r.globals.handlerSetter] := by
      unfold plan at p
      split at p
      · rename_i span callee rest
        generalize args : Node.args _ = as at p
        rcases r.planCall_cases (Node.mk .call span (callee :: rest)).start callee as with
          ⟨known, -, plan⟩ | ⟨f, -, plan⟩ | ⟨other, found, plan⟩ | plan
        · simp [plan] at p
        · simp [plan] at p
        · obtain rfl : other = code := by simpa [plan] using p
          exact helperCode?_mem found
        · simp [plan] at p
      · simp at p
    intro e member
    simp only [ownEdits] at member
    obtain rfl := List.mem_singleton.1 member
    refine Or.inl ?_
    simp only [calleeEdit, List.mem_cons, List.not_mem_nil, or_false] at helper ⊢
    rcases helper with rfl | rfl | rfl <;> simp

theorem edits_send (r : Rewriting) (n : Node) :
    ∀ e ∈ r.edits n, SendsUnder r.globals (r.sentIds n) e.content := by
  induction n using Node.induct with
  | step k span ps ih =>
    intro e member
    simp only [edits, sentIds] at member ⊢
    split at member
    · simp at member
    · rename_i stays
      rw [if_neg stays]
      rcases List.mem_append.1 member with own | inner
      · exact (r.ownEdits_send _ e own).mono (List.subset_append_left _ _)
      · refine SendsUnder.mono ?_ (List.subset_append_right _ _)
        clear member
        generalize r.survives _ = stands at inner ⊢
        induction ps with
        | nil => simp [partEdits] at inner
        | cons p ps more =>
          simp only [partEdits, partIds, List.mem_append] at inner ⊢
          rcases inner with first | rest
          · split at first
            · rename_i here
              rw [if_pos here]
              exact (ih p (by simp) e first).mono (List.subset_append_left _ _)
            · simp at first
          · exact (more (fun q here => ih q (List.mem_cons_of_mem _ here)) rest).mono
              (List.subset_append_right _ _)

theorem partEdits_send (r : Rewriting) (stands : Kind → Bool) (ps : List Node) :
    ∀ e ∈ r.partEdits stands ps, SendsUnder r.globals (r.partIds stands ps) e.content := by
  induction ps with
  | nil => simp [partEdits]
  | cons p ps ih =>
    intro e member
    simp only [partEdits, partIds, List.mem_append] at member ⊢
    rcases member with first | rest
    · split at first
      · rename_i here
        rw [if_pos here]
        exact (r.edits_send p e first).mono (List.subset_append_left _ _)
      · simp at first
    · exact (ih e rest).mono (List.subset_append_right _ _)

-- The edits of a rewriting send calls under its identifiers only.
theorem allEdits_send (r : Rewriting) :
    ∀ e ∈ r.allEdits, SendsUnder r.globals (r.partIds (fun _ => true) r.module.items) e.content := by
  intro e member
  unfold allEdits at member
  split at member
  · rcases List.mem_append.1 member with rewritten | removal
    · exact r.partEdits_send _ _ e rewritten
    · split at removal
      · obtain ⟨item, -, rfl⟩ := List.mem_map.1 removal
        exact Or.inl (by simp [Edit.removal])
      · simp at removal
  · simp at member

end Rewriting

-- The edits that make a module ready for the client send calls under its identifiers only.
theorem moduleEdits_send (o : Options) (t : FileTree) (r : Registry) (m : Module)
    (own : FunctionMap) :
    ∀ e ∈ moduleEdits o t r .client m own,
      SendsUnder o.globals (dispatchedIds o t r m own) e.content := by
  have sites : (o.passes .client !own.isEmpty).callSites = true := rfl
  have registers : (o.passes .client !own.isEmpty).registration = false := rfl
  have rewritten : ∀ e ∈ (Rewriting.ofModule m o (o.passes .client !own.isEmpty) own
      (importedFunctions t r o.extensions m.path m.imports own)).allEdits,
      SendsUnder o.globals ((Rewriting.ofModule m o (o.passes .client !own.isEmpty) own
        (importedFunctions t r o.extensions m.path m.imports own)).partIds (fun _ => true) m.items)
        e.content := Rewriting.allEdits_send _
  intro e member
  simp only [moduleEdits, dispatchedIds, sites, registers, if_true, Bool.false_eq_true, if_false,
    List.append_nil] at member ⊢
  cases stubs : (o.passes .client !own.isEmpty).clientStubs with
  | false =>
    simp only [stubs, Bool.false_and, Bool.false_eq_true, if_false] at member
    exact rewritten e member
  | true =>
    cases detection : o.detection with
    | marker =>
      simp only [stubs, detection, Bool.and_false, Bool.false_eq_true, if_false] at member
      exact rewritten e member
    | filePattern pattern =>
      simp only [stubs, detection, Bool.and_true, if_true, List.mem_singleton] at member
      subst member
      exact Or.inr (Or.inr ⟨own, fun f here => List.mem_map.2 ⟨f, here, rfl⟩, rfl⟩)

-- What an import brings is in a file of the registry.
theorem function_of_import {o : Options} {t : FileTree} {r : Registry} {importer : Path}
    {is : Imports} {own : FunctionMap} {entry : ImportedFunction}
    (member : entry ∈ (importedFunctions t r o.extensions importer is own).entries) :
    ∃ p functions, r.get? p = some functions ∧ entry.function ∈ functions.values := by
  simp only [importedFunctions, ImportedFunctions.ofImports, List.mem_filter, List.mem_flatMap]
    at member
  obtain ⟨⟨b, -, brought⟩, -⟩ := member
  split at brought
  · simp at brought
  · split at brought
    · rename_i functions found
      obtain ⟨p, -, known⟩ := Option.bind_eq_some_iff.1 found
      refine ⟨p, functions, known, ?_⟩
      unfold ImportedFunctions.ofBinding at brought
      split at brought
      · rename_i name _
        obtain ⟨f, named, rfl⟩ := Option.map_eq_some_iff.1 (Option.mem_toList.1 brought)
        obtain ⟨before, after, entries, -⟩ := List.lookup_eq_some_iff.1 named
        simp [FunctionMap.values, entries]
      · obtain ⟨⟨name, f⟩, here, rfl⟩ := List.mem_map.1 brought
        exact List.mem_map.2 ⟨_, here, rfl⟩
      · simp at brought
    · simp at brought

/-- Every identifier under which a module sends calls is that of a function: one of its own, or one
of a file that the registry knows. -/
theorem function_of_dispatchedIds {o : Options} {t : FileTree} {r : Registry} {m : Module}
    {own : FunctionMap} {id : String} (sent : id ∈ dispatchedIds o t r m own) :
    ∃ f, f.id = id ∧ (f ∈ own.values ∨
      ∃ p functions, r.get? p = some functions ∧ f ∈ functions.values) := by
  have planned {n : Node} (h : ((Rewriting.ofModule m o (o.passes .client !own.isEmpty) own
      (importedFunctions t r o.extensions m.path m.imports own)).plan n).id? = some id) :
      ∃ f, f.id = id ∧ (f ∈ own.values ∨
        ∃ p functions, r.get? p = some functions ∧ f ∈ functions.values) := by
    rcases Rewriting.function_of_plan h with ⟨f, member, same⟩ | ⟨entry, member, same⟩
    · exact ⟨f, same, Or.inl member⟩
    · exact ⟨entry.function, same, Or.inr (function_of_import member)⟩
  unfold dispatchedIds at sent
  simp only at sent
  split at sent
  · obtain ⟨f, member, same⟩ := List.mem_map.1 sent
    exact ⟨f, same, Or.inl member⟩
  · obtain ⟨call, plan⟩ := Rewriting.plan_of_partIds _ sent
    exact planned plan

end ServerLink
