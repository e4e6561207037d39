import ServerLink.Script.Reader

/-!
What can be read at a cursor. The rules of the grammar are written over a reader `self` of all
goals, and only `Grammar` ties them together.
-/

set_option autoImplicit false

namespace ServerLink.Script

inductive Goal where
  /-- Expressions between commas. -/
  | expression
  | assignment
  /-- Operands joined by operators that bind tighter than the given rank. -/
  | operation (rank : Nat)
  | unary
  /-- A callee or target: members and calls, but no operator. -/
  | leftHand
  /-- What `new` constructs. -/
  | constructed
  /-- A name, array or object pattern that declares. -/
  | pattern
  | type
  | returnType
  /-- Markup up to its last `>`, which stays the current token. -/
  | markup
  | statement
  /-- A statement or declaration in a list. -/
  | item
  /-- An item that may also be an import or export. -/
  | moduleItem
  /-- Statements between braces. -/
  | block
  /-- The statements of a function between braces. -/
  | body
  deriving DecidableEq, Repr

/-- Reads a goal with what `self` can read. -/
abbrev Rule := (Goal → Parse Node) → Parse Node

namespace Parse

variable (self : Goal → Parse Node)

/-- A colon and a type. -/
def typeAnnotation : Parse Node := do
  let start ← here
  expect ":"
  let t ← self .type
  node .typeAnn start [t]

/-- A type annotation where one may stand, in a language with types. -/
def typeAnnotation? : Parse (List Node) := do
  if (← typed) && (← isPunct ":") then return [← typeAnnotation self] else return []

/-- A colon and the type a function returns. -/
def returnAnnotation? : Parse (List Node) := do
  if (← typed) && (← isPunct ":") then
    let start ← here
    advance
    let t ← self .returnType
    return [← node .typeAnn start [t]]
  else return []

/-- An opening angle bracket; of two in a row only the first is taken. -/
def openAngle : Parse Unit := do
  match ← token with
  | .punct "<" => advance
  | .punct "<<" =>
      let c ← cursor
      moveTo (.at ⟨c.here.chars.drop 1, c.here.offset + 1⟩)
  | _ => fail

def angleAhead : Parse Bool := isAnyPunct ["<", "<<"]

/-- Types between angle brackets. -/
def typeArguments : Parse Node := do
  let start ← here
  openAngle
  failIf (← isPunct ">")
  let ts ← within (fun s => { s with plainTypes := false }) <| listUntil ">" (self .type)
  node .typeArgs start ts

def typeArguments? : Parse (List Node) := do
  if (← typed) && (← angleAhead) then return [← typeArguments self] else return []

/-- What the type parameters belong to, which decides on the words before them. -/
inductive TypeParamPlace where
  | ofClass
  /-- Those of an interface or alias. -/
  | ofType
  | ofFunction
  deriving DecidableEq

/-- The words before a type parameter: whether `in` and `out` have been among them. -/
def varianceWords (place : TypeParamPlace) : Parse (Bool × Bool) :=
  loop (fun ((isIn, isOut) : Bool × Bool) => do
    if ← eatWord "const" then
      faultIf (place == .ofType)
      pure ((isIn, isOut), true)
    else if ← eatWord "in" then
      faultIf (place == .ofFunction || isIn || isOut)
      pure ((true, isOut), true)
    else if ← isWord "out" then
      match (← following).token with
      | .name n _ =>
          if n == "extends" then pure ((isIn, isOut), false)
          else
            advance
            faultIf (place == .ofFunction || isOut)
            pure ((isIn, true), true)
      | _ => pure ((isIn, isOut), false)
    else pure ((isIn, isOut), false)) (false, false)

/-- A type parameter, with its bound and default. -/
def typeParameter (place : TypeParamPlace) : Parse Node := do
  let start ← here
  let _ ← varianceWords place
  let nameStart ← here
  let s ← plainName
  let name ← node (.typeBind s) nameStart []
  let bound ← if ← eatWord "extends" then (do return [← self .type]) else pure []
  let default ← if ← eat "=" then (do return [← self .type]) else pure []
  node .typeParam start (name :: (bound ++ default))

def typeParameters (place : TypeParamPlace) : Parse Node := do
  let start ← here
  openAngle
  failIf (← isPunct ">")
  let ps ← within (fun s => { s with plainTypes := false }) <| listUntil ">" (typeParameter self place)
  node .typeParams start ps

def typeParameters? (place : TypeParamPlace) : Parse (List Node) := do
  if (← typed) && (← angleAhead) then return [← typeParameters self place] else return []

/-- A name in brackets. -/
def computedName : Parse Node := do
  let start ← here
  expect "["
  let e ← within (fun s => { s with allowIn := true }) (self .assignment)
  expect "]"
  node .computed start [e]

/-- The name of a property. -/
def propertyName : Parse Node := do
  match ← token with
  | .punct "[" => computedName self
  | .name _ _ => word
  | .text s =>
      let start ← here
      advance
      node (.text s) start []
  | .number =>
      let start ← here
      advance
      node .literal start []
  | .privateName s =>
      let start ← here
      faultIf (s == "constructor")
      advance
      node (.word ("#" ++ s)) start []
  | _ => fail

/-- The token may begin the name of a property. -/
def startsPropertyName (t : Token) : Bool :=
  match t with
  | .punct p => p == "["
  | .name _ _ | .text _ | .number | .privateName _ => true
  | _ => false

end Parse

end ServerLink.Script
