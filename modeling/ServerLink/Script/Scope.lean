import ServerLink.Script.Pattern

/-!
What names mean. A name means the module's own declaration unless a scope between it and the
module declares it; `resolve` marks every name that means the module's own. Values and types have
names of their own. A scope holds its names from its beginning to its end, wherever in it they
are declared.
-/

set_option autoImplicit false

namespace ServerLink.Script

/-! ### What is declared where -/

mutual

/-- Names declared with `var` anywhere inside, functions and the like apart. -/
def Node.hoisted : Node → List String
  | .mk (.variables true) _ ps => declaratorNames ps
  | .mk .function _ _ | .mk .functionDecl _ _ | .mk .arrow _ _ | .mk .classDecl _ _
  | .mk .classExpr _ _ | .mk .namespaceDecl _ _ => []
  | .mk _ _ ps => allHoisted ps

def allHoisted : List Node → List String
  | [] => []
  | p :: ps => p.hoisted ++ allHoisted ps

def declaratorNames : List Node → List String
  | [] => []
  | .mk .declarator _ (p :: _) :: ps => p.declaredNames ++ declaratorNames ps
  | _ :: ps => declaratorNames ps

end

/-- The name a declaration gives to the value or type it declares. -/
def ownNames (parts : List Node) : List String :=
  match parts.find? fun p => match p.kind with
    | .bind _ _ | .typeBind _ => true
    | _ => false
  with
  | some (.mk (.bind s _) _ _) | some (.mk (.typeBind s) _ _) => [s]
  | _ => []

/-- The names that the entries of an import declare. -/
def importedNames (parts : List Node) : List String :=
  parts.flatMap fun p => match p with
    | .mk (.importSpec _ _) _ ps => ownNames ps
    | _ => []

/-- Values that an item of a list of statements declares for the whole list. -/
def Node.lexicalNames : Node → List String
  | .mk (.variables false) _ ps | .mk .resources _ ps => declaratorNames ps
  | .mk .functionDecl _ ps | .mk .classDecl _ ps | .mk .enumDecl _ ps | .mk .namespaceDecl _ ps
  | .mk .importAlias _ ps => ownNames ps
  | .mk (.importDecl _ _) _ ps => importedNames ps
  | .mk .exportDecl _ [d] => d.lexicalNames
  | _ => []

/-- Types that an item of a list of statements declares for the whole list. -/
def Node.typeNames : Node → List String
  | .mk .classDecl _ ps | .mk .interfaceDecl _ ps | .mk .aliasDecl _ ps => ownNames ps
  | .mk (.importDecl _ _) _ ps => importedNames ps
  | .mk .exportDecl _ [d] => d.typeNames
  | _ => []

/-- The names of the type parameters among the parts. -/
def typeParamNames (parts : List Node) : List String :=
  match parts.find? (·.kind == .typeParams) with
  | some ps => ps.parts.flatMap fun p => ownNames p.parts
  | none => []

/-- The names of the parameters among the parts. -/
def paramNames (parts : List Node) : List String :=
  match parts.find? (·.kind == .params) with
  | some ps => allDeclaredNames ps.parts
  | none => []

mutual

/-- Types that a conditional type finds by matching. -/
def Node.inferredNames : Node → List String
  | .mk .inferType _ ps => ownNames ps
  | .mk _ _ ps => allInferredNames ps

def allInferredNames : List Node → List String
  | [] => []
  | p :: ps => p.inferredNames ++ allInferredNames ps

end

/-! ### What is visible where -/

/-- The names declared between a place and the module. -/
structure Locals where
  values : List String
  types : List String

namespace Locals

def none : Locals := ⟨[], []⟩

def addValues (l : Locals) (names : List String) : Locals := { l with values := names ++ l.values }

def addTypes (l : Locals) (names : List String) : Locals := { l with types := names ++ l.types }

end Locals

/-- What the parts of one tree can see: its own name, its head, a rest parameter, and all else. -/
structure Views where
  name : Locals
  head : Locals
  rest : Locals
  other : Locals

def Views.uniform (l : Locals) : Views := ⟨l, l, l, l⟩

def Views.at (v : Views) (part : Node) : Locals :=
  match part.kind with
  | .bind _ _ => v.name
  | .params | .typeParams | .extends | .decorator => v.head
  | .rest => v.rest
  | _ => v.other

/-- What the parts of a tree see, given what the tree itself sees. -/
def Kind.views (k : Kind) (parts : List Node) (l : Locals) : Views :=
  match k with
  | .function =>
      let own := l.addValues (ownNames parts)
      let head := own.addTypes (typeParamNames parts)
      ⟨own, head, head, head.addValues (paramNames parts)⟩
  | .functionDecl | .arrow =>
      let head := l.addTypes (typeParamNames parts)
      ⟨l, head, head, head.addValues (paramNames parts)⟩
  | .params =>
      let plain := l.addValues (allDeclaredNames (parts.filter (·.kind != .rest)))
      ⟨plain, plain, l.addValues (allDeclaredNames parts), plain⟩
  | .body =>
      .uniform ((l.addValues (parts.flatMap Node.lexicalNames ++ allHoisted parts)).addTypes
        (parts.flatMap Node.typeNames))
  | .block =>
      .uniform ((l.addValues (parts.flatMap Node.lexicalNames)).addTypes
        (parts.flatMap Node.typeNames))
  | .switchBody =>
      let items := parts.flatMap Node.parts
      .uniform ((l.addValues (items.flatMap Node.lexicalNames)).addTypes
        (items.flatMap Node.typeNames))
  | .forLoop => .uniform (l.addValues (parts.flatMap Node.lexicalNames))
  | .catchClause => .uniform (l.addValues (firstDeclaredNames parts))
  | .classDecl =>
      let inner := l.addTypes (typeParamNames parts)
      ⟨l, inner, inner, inner⟩
  | .classExpr =>
      let own := l.addValues (ownNames parts)
      let types := typeParamNames parts
      ⟨own, l.addTypes types, l, own.addTypes types⟩
  | .enumDecl =>
      let members := parts.filterMap fun p => match p.kind with
        | .enumMember name => name
        | _ => Option.none
      ⟨l, l, l, l.addValues members⟩
  | .interfaceDecl | .aliasDecl => .uniform (l.addTypes (typeParamNames parts))
  | .functionType =>
      let head := l.addTypes (typeParamNames parts)
      let names := paramNames parts
      ⟨l, head, head, (head.addValues names).addTypes names⟩
  | .indexSignature => .uniform (l.addValues (ownNames parts))
  | .mappedType => .uniform (l.addTypes (ownNames parts))
  | .conditionalType => .uniform (l.addTypes (allInferredNames parts))
  | _ => .uniform l

/-- A name marked as the module's own unless something nearer declares it. -/
def Kind.settle (k : Kind) (l : Locals) : Kind :=
  match k with
  | .use s _ => .use s (!l.values.contains s)
  | .bind s _ => .bind s (!l.values.contains s)
  | .typeUse s _ => .typeUse s (!l.types.contains s)
  | k => k

mutual

def Node.resolve (l : Locals) : Node → Node
  | .mk k span ps => .mk (k.settle l) span (resolveParts (k.views ps l) ps)

def resolveParts (v : Views) : List Node → List Node
  | [] => []
  | p :: ps => p.resolve (v.at p) :: resolveParts v ps

end

end ServerLink.Script
