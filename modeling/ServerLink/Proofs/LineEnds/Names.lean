import ServerLink.Proofs.LineEnds.Widening
import ServerLink.Script.Scope

/-!
What names mean in a tree and in its counterpart. Which names are declared where does not depend on
where the trees stand, so settling them and moving the trees may come in either order.
-/

set_option autoImplicit false

namespace ServerLink.Script

variable (text : List Char)

/-! ### What is declared where -/

mutual

theorem declaredNames_widen (n : Node) : (widen text n).declaredNames = n.declaredNames := by
  obtain ⟨k, span, ps⟩ := n
  rw [widen_mk]
  cases k <;> simp only [Node.declaredNames, allDeclaredNames_widen ps,
    firstDeclaredNames_widen ps, lastDeclaredNames_widen ps]

theorem allDeclaredNames_widen (ps : List Node) :
    allDeclaredNames (widen text ps) = allDeclaredNames ps := by
  cases ps with
  | nil => rfl
  | cons p ps =>
    simp only [widen_cons, allDeclaredNames, declaredNames_widen p, allDeclaredNames_widen ps]

theorem firstDeclaredNames_widen (ps : List Node) :
    firstDeclaredNames (widen text ps) = firstDeclaredNames ps := by
  cases ps with
  | nil => rfl
  | cons p ps => simpa only [widen_cons, firstDeclaredNames] using declaredNames_widen p

theorem lastDeclaredNames_widen (ps : List Node) :
    lastDeclaredNames (widen text ps) = lastDeclaredNames ps := by
  match ps with
  | [] => rfl
  | [p] => simpa only [widen_cons, widen_nil, lastDeclaredNames] using declaredNames_widen p
  | _ :: p :: ps =>
    simpa only [widen_cons, lastDeclaredNames] using lastDeclaredNames_widen (p :: ps)

end

theorem declaratorNames_widen (ps : List Node) :
    declaratorNames (widen text ps) = declaratorNames ps := by
  induction ps with
  | nil => rfl
  | cons p ps ih =>
    obtain ⟨k, span, qs⟩ := p
    rw [widen_cons, widen_mk]
    cases k with
    | declarator => cases qs <;> simp [declaratorNames, declaredNames_widen, ih]
    | _ => simp only [declaratorNames, ih]

mutual

theorem hoisted_widen (n : Node) : (widen text n).hoisted = n.hoisted := by
  obtain ⟨k, span, ps⟩ := n
  rw [widen_mk]
  cases k with
  | «variables» hoisted =>
    cases hoisted <;> simp only [Node.hoisted, declaratorNames_widen, allHoisted_widen ps]
  | _ => simp only [Node.hoisted, allHoisted_widen ps]

theorem allHoisted_widen (ps : List Node) : allHoisted (widen text ps) = allHoisted ps := by
  cases ps with
  | nil => rfl
  | cons p ps => simp only [widen_cons, allHoisted, hoisted_widen p, allHoisted_widen ps]

end

theorem ownNames_widen (ps : List Node) : ownNames (widen text ps) = ownNames ps := by
  induction ps with
  | nil => rfl
  | cons p ps ih =>
    obtain ⟨k, span, qs⟩ := p
    rw [widen_cons, widen_mk]
    cases k with
    | bind | typeBind => rfl
    | _ => exact ih

theorem importedNames_widen (ps : List Node) :
    importedNames (widen text ps) = importedNames ps := by
  refine flatMap_widen text (fun n => ?_) ps
  obtain ⟨k, span, qs⟩ := n
  rw [widen_mk]
  cases k <;> simp only [ownNames_widen]

theorem lexicalNames_widen (n : Node) : (widen text n).lexicalNames = n.lexicalNames := by
  obtain ⟨k, span, ps⟩ := n
  rw [widen_mk]
  cases k with
  | «variables» hoisted => cases hoisted <;> simp only [Node.lexicalNames, declaratorNames_widen]
  | exportDecl =>
    match ps with
    | [] | _ :: _ :: _ => rfl
    | [d] => simpa only [widen_cons, widen_nil, Node.lexicalNames] using lexicalNames_widen d
  | _ =>
    simp only [Node.lexicalNames, declaratorNames_widen, ownNames_widen, importedNames_widen]

theorem typeNames_widen (n : Node) : (widen text n).typeNames = n.typeNames := by
  obtain ⟨k, span, ps⟩ := n
  rw [widen_mk]
  cases k with
  | exportDecl =>
    match ps with
    | [] | _ :: _ :: _ => rfl
    | [d] => simpa only [widen_cons, widen_nil, Node.typeNames] using typeNames_widen d
  | _ => simp only [Node.typeNames, ownNames_widen, importedNames_widen]

theorem typeParamNames_widen (ps : List Node) :
    typeParamNames (widen text ps) = typeParamNames ps := by
  have names := flatMap_widen text (g := fun p : Node => ownNames p.parts) fun n => by
    rw [parts_widen, ownNames_widen]
  rw [typeParamNames, find?_widen text (by simp), typeParamNames]
  cases ps.find? (·.kind == .typeParams) with
  | none => rfl
  | some p => simp only [widen_some, parts_widen, names]

theorem paramNames_widen (ps : List Node) : paramNames (widen text ps) = paramNames ps := by
  rw [paramNames, find?_widen text (by simp), paramNames]
  cases ps.find? (·.kind == .params) with
  | none => rfl
  | some p => simp only [widen_some, parts_widen, allDeclaredNames_widen]

mutual

theorem inferredNames_widen (n : Node) : (widen text n).inferredNames = n.inferredNames := by
  obtain ⟨k, span, ps⟩ := n
  rw [widen_mk]
  cases k <;> simp only [Node.inferredNames, ownNames_widen, allInferredNames_widen ps]

theorem allInferredNames_widen (ps : List Node) :
    allInferredNames (widen text ps) = allInferredNames ps := by
  cases ps with
  | nil => rfl
  | cons p ps =>
    simp only [widen_cons, allInferredNames, inferredNames_widen p, allInferredNames_widen ps]

end

/-! ### What is visible where -/

theorem memberNames_widen (ps : List Node) :
    ((widen text ps).filterMap fun p : Node => match p.kind with
      | .enumMember name => name
      | _ => none) =
    ps.filterMap fun p : Node => match p.kind with
      | .enumMember name => name
      | _ => none :=
  filterMap_widen text (fun n => by rw [kind_widen]) ps

theorem views_widen (k : Kind) (ps : List Node) (l : Locals) :
    k.views (widen text ps) l = k.views ps l := by
  have lexical := flatMap_widen text (lexicalNames_widen text)
  have types := flatMap_widen text (typeNames_widen text)
  cases k with
  | params =>
    have plain := filter_widen text (p := fun n : Node => n.kind != .rest) (by simp) ps
    simp only [Kind.views, plain, allDeclaredNames_widen]
  | switchBody =>
    have items : (widen text ps).flatMap Node.parts = widen text (ps.flatMap Node.parts) := by
      induction ps with
      | nil => rfl
      | cons p ps ih => simp [ih]
    simp only [Kind.views, items, lexical, types]
  | enumDecl =>
    exact congrArg (fun names => Views.mk l l l (l.addValues names)) (memberNames_widen text ps)
  | _ =>
    simp only [Kind.views, ownNames_widen, typeParamNames_widen, paramNames_widen, lexical, types,
      allHoisted_widen, firstDeclaredNames_widen, allInferredNames_widen]

mutual

theorem resolve_widen (l : Locals) (n : Node) :
    (widen text n).resolve l = widen text (n.resolve l) := by
  obtain ⟨k, span, ps⟩ := n
  rw [widen_mk, Node.resolve, Node.resolve, widen_mk, views_widen, resolveParts_widen _ ps]

theorem resolveParts_widen (v : Views) (ps : List Node) :
    resolveParts v (widen text ps) = widen text (resolveParts v ps) := by
  cases ps with
  | nil => rfl
  | cons p ps =>
    have sees : v.at (widen text p) = v.at p := by rw [Views.at, kind_widen, Views.at]
    rw [widen_cons, resolveParts, resolveParts, widen_cons, sees, resolve_widen _ p,
      resolveParts_widen v ps]

end

end ServerLink.Script
