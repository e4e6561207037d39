import ServerLink.Script.Tree

/-!
Expressions read as patterns. Before `=>` an expression between parentheses turns out to have been
a list of parameters, and before `=` an array or object turns out to have been taken apart.
-/

set_option autoImplicit false

namespace ServerLink.Script

/-- What a pattern does with its names: it declares them, or assigns to whatever they mean. -/
inductive PatternRole where
  | declare
  | assign
  deriving DecidableEq, Repr

/-- Names that may be neither declared nor assigned. -/
def isFixedName (s : String) : Bool := s == "eval" || s == "arguments"

/-- The names left over by an object pattern are gathered under a single name. -/
def gathersName : Node → Bool
  | .mk .spread _ ps | .mk .rest _ ps => match ps with
      | .mk (.use _ _) _ _ :: _ | .mk (.bind _ _) _ _ :: _ => true
      | _ => false
  | _ => true

mutual

/-- A single place that can be assigned to. -/
def Node.isPlace : Node → Bool
  | .mk (.use s _) _ _ => !isFixedName s
  | .mk (.member _) _ _ | .mk .privateMember _ _ | .mk .index _ _ => true
  | .mk .paren _ ps | .mk .cast _ ps | .mk .nonNull _ ps => firstIsPlace ps
  | .mk .assertion _ ps => lastIsPlace ps
  | _ => false

def firstIsPlace : List Node → Bool
  | [] => false
  | p :: _ => p.isPlace

def lastIsPlace : List Node → Bool
  | [] => false
  | [p] => p.isPlace
  | _ :: p :: ps => lastIsPlace (p :: ps)

end

mutual

/-- The pattern that an expression spells, if it spells one. Nothing follows a rest. -/
def Node.toPattern? (role : PatternRole) : Node → Option Node
  | .mk (.use s o) span ps =>
      if isFixedName s then none
      else match role with
        | .declare => some (.mk (.bind s false) span ps)
        | .assign => some (.mk (.use s o) span ps)
  | .mk .array span ps | .mk .arrayPattern span ps =>
      (toPatterns? role ps).map (.mk .arrayPattern span)
  | .mk .object span ps | .mk .objectPattern span ps =>
      if role = .declare && !ps.all gathersName then none
      else (toPatterns? role ps).map (.mk .objectPattern span)
  | .mk .property span ps | .mk .patternProperty span ps =>
      (toPatternLast? role ps).map (.mk .patternProperty span)
  | .mk .shorthand _ [p] => p.toPattern? role
  | .mk .initialized span ps | .mk .defaulted span ps =>
      (toPatternFirst? role ps).map (.mk .defaulted span)
  | .mk (.assign op) span ps =>
      if op == "=" then (toPatternFirst? role ps).map (.mk .defaulted span) else none
  | .mk .spread span ps | .mk .rest span ps => (toPatternFirst? role ps).map (.mk .rest span)
  | .mk (.bind s o) span ps => some (.mk (.bind s o) span ps)
  | .mk .hole span ps => some (.mk .hole span ps)
  | .mk .typeAnn span ps => some (.mk .typeAnn span ps)
  | .mk k span ps =>
      if role = .assign && (Node.mk k span ps).isPlace then some (.mk k span ps) else none

def toPatterns? (role : PatternRole) : List Node → Option (List Node)
  | [] => some []
  | p :: ps => do
      let q ← p.toPattern? role
      let qs ← toPatterns? role ps
      if q.kind == .rest && !qs.all (·.kind == .typeAnn) then none else some (q :: qs)

/-- Reads only the first part as a pattern. -/
def toPatternFirst? (role : PatternRole) : List Node → Option (List Node)
  | [] => none
  | p :: ps => (p.toPattern? role).map (· :: ps)

/-- Reads only the last part as a pattern. -/
def toPatternLast? (role : PatternRole) : List Node → Option (List Node)
  | [] => none
  | [p] => (p.toPattern? role).map ([·])
  | p :: ps => (toPatternLast? role ps).map (p :: ·)

end

mutual

/-- The names a pattern declares, in order. Defaults and computed keys declare nothing. -/
def Node.declaredNames : Node → List String
  | .mk (.bind s _) _ _ => [s]
  | .mk .arrayPattern _ ps | .mk .objectPattern _ ps => allDeclaredNames ps
  | .mk .patternProperty _ ps => lastDeclaredNames ps
  | .mk .defaulted _ ps | .mk .rest _ ps => firstDeclaredNames ps
  | _ => []

def allDeclaredNames : List Node → List String
  | [] => []
  | p :: ps => p.declaredNames ++ allDeclaredNames ps

def firstDeclaredNames : List Node → List String
  | [] => []
  | p :: _ => p.declaredNames

def lastDeclaredNames : List Node → List String
  | [] => []
  | [p] => p.declaredNames
  | _ :: p :: ps => lastDeclaredNames (p :: ps)

end

end ServerLink.Script
