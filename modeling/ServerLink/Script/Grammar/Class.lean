import ServerLink.Script.Grammar.TypeExpr

/-!
Classes.
-/

set_option autoImplicit false

namespace ServerLink.Script.Parse

variable (self : Goal → Parse Node)

/-- The words that stand before a member. -/
structure Modifiers where
  isStatic : Bool
  declared : Bool
  /-- One of `public`, `private` and `protected`. -/
  hasAccess : Bool
  isAbstract : Bool
  isOverride : Bool
  isReadonly : Bool

def Modifiers.none : Modifiers := ⟨false, false, false, false, false, false⟩

/-- Names that a language with types keeps for types of its own. -/
def ownTypeNames : List String :=
  ["any", "bigint", "boolean", "intrinsic", "never", "null", "number", "object", "string", "symbol",
   "unknown", "void"]

/-- What ends the name of a member, so that a word before it is that name. -/
def endsMemberName (t : Token) : Bool :=
  match t with
  | .punct p => ["(", "<", "<<", "=", ";", "\x7d", "?", "!", ":", ","].contains p
  | .done => true
  | _ => false

/-- Reads one of the words, if it stands before the name of a member in a language with types. -/
def eatModifier (words : List String) : Parse Bool := do
  match ← token with
  | .name s false =>
      let next ← following
      if (← typed) && words.contains s && !next.newline && !endsMemberName next.token then
        advance
        pure true
      else pure false
  | _ => pure false

/-- The word `static` before the name of a member. -/
def eatStatic : Parse Bool := do
  let next := (← following).token
  if (← isWord "static") && !endsMemberName next && next != .punct "\x7b" then
    advance
    pure true
  else pure false

/-- One of the words that may come last before a member. Each stands there once, `override` before
`readonly` and after the other two, and only in a class that extends another. -/
def lastModifier (derived : Bool) (m : Modifiers) : Parse (Modifiers × Bool) := do
  if ← eatModifier ["abstract"] then
    faultIf (m.isAbstract || m.isOverride)
    return ({ m with isAbstract := true }, true)
  else if ← eatModifier ["override"] then
    faultIf (m.isOverride || m.isReadonly || m.declared || !derived)
    return ({ m with isOverride := true }, true)
  else if ← eatModifier ["readonly"] then
    faultIf m.isReadonly
    return ({ m with isReadonly := true }, true)
  else if (← typed) && !m.isStatic then
    if ← eatStatic then
      faultIf m.isOverride
      return ({ m with isStatic := true }, true)
    else return (m, false)
  else return (m, false)

def modifiers (derived : Bool) : Parse Modifiers := do
  let early ← eatModifier ["declare"]
  let hasAccess ← eatModifier ["public", "private", "protected"]
  let late ← if early then pure false else eatModifier ["declare"]
  let isStatic ← eatStatic
  let _ ← eatModifier ["accessor"]
  let m ← loop (lastModifier derived)
    { Modifiers.none with isStatic := isStatic, declared := early || late, hasAccess := hasAccess }
  let _ ← eatModifier ["accessor"]
  pure m

/-- The plain name of a member, however it is written. -/
def memberName? (key : Node) : Option String :=
  match key.kind with
  | .word s => some s
  | .text s => some s
  | _ => none

def isPrivateKey (key : Node) : Bool :=
  match key.kind with
  | .word s => s.toList.head? == some '#'
  | _ => false

/-- A method after its name; `kind` is its kind. -/
def methodTail (start : Nat) (m : Modifiers) (key : Node) (kind : Kind) (form : FunctionForm)
    (accepts : Node → Bool) : Parse Node := do
  let isConstructor := !m.isStatic && memberName? key == some "constructor"
  faultIf (isConstructor && (kind != .method || form.async || form.generator))
  faultIf (m.isStatic && memberName? key == some "prototype")
  faultIf (m.declared || m.isReadonly || (m.hasAccess && isPrivateKey key))
  let f ← functionTail self .function (← here) []
    { form with ofConstructor := isConstructor && kind == .method }
  faultIf (m.isAbstract && (f.part? .body).isSome)
  faultIf (isConstructor &&
    (m.isOverride || (f.part? .typeParams).isSome || (f.part? .typeAnn).isSome))
  match f.part? .params with
  | some ps => faultIf (!accepts ps)
  | none => pure ()
  node kind start [key, f]

def acceptsAny (_ : Node) : Bool := true

def isReceiver (p : Node) : Bool :=
  match p.kind with
  | .bind s _ => s == "this"
  | _ => false

/-- A getter takes nothing. -/
def acceptsNone (ps : Node) : Bool := ps.undecorated.all isReceiver

/-- A setter takes one value. -/
def acceptsOne (ps : Node) : Bool :=
  match ps.undecorated.filter (!isReceiver ·) with
  | [p] => p.kind != .rest
  | _ => false

/-- A field after its name. -/
def fieldTail (start : Nat) (m : Modifiers) (key : Node) : Parse Node := do
  faultIf (memberName? key == some "constructor")
  faultIf (m.isStatic && memberName? key == some "prototype")
  faultIf (isPrivateKey key && (m.hasAccess || m.declared || m.isAbstract))
  if ← typed then
    if ← isAnyPunct ["?", "!"] then advance
  let ann ← typeAnnotation? self
  let value ←
    if ← eat "=" then
      let e ← within
        (fun s => { s with allowIn := true, constructible := true, arrowAt := none,
                           colonAhead := false, inField := true })
        (self .assignment)
      pure [e]
    else pure []
  faultIf (m.isAbstract && !value.isEmpty)
  semicolon
  node .field start (key :: (ann ++ value))

/-- A member whose name is next, with what the words before the name make of it. -/
def namedMember (start : Nat) (m : Modifiers) : Parse Node := do
  let next ← following
  let w : String := match ← token with
    | .name s false => if endsMemberName next.token then "" else s
    | _ => ""
  if w == "async" && !next.newline then
    advance
    let generator ← eat "*"
    let key ← propertyName self
    methodTail self start m key .method ⟨true, generator, false⟩ acceptsAny
  else if ← eat "*" then
    let key ← propertyName self
    methodTail self start m key .method ⟨false, true, false⟩ acceptsAny
  else if (w == "get" || w == "set") && startsPropertyName next.token then
    advance
    let key ← propertyName self
    if w == "get" then methodTail self start m key .getter .plain acceptsNone
    else methodTail self start m key .setter .plain acceptsOne
  else
    let key ← propertyName self
    if ← typed then
      if (← isPunct "?") && ((← followedBy "(") || (← followedBy "<")) then advance
    if (← isPunct "(") || ((← typed) && (← angleAhead)) then
      methodTail self start m key .method .plain acceptsAny
    else fieldTail self start m key

def classMember (derived : Bool) : Parse Node := do
  let first ← here
  let ds ← decorators self
  let start ← here
  let m ← modifiers derived
  let n ←
    if (← isWord "static") && (← followedBy "\x7b") then
      faultIf (m.declared || m.hasAccess || m.isAbstract || m.isOverride || m.isReadonly)
      advance
      let b ← within
        (fun s => { s with labels := [], allowBreak := false, allowContinue := false,
                           constructible := true, async := false, generator := false,
                           inField := true })
        (self .block)
      node .staticBlock start [b.withKind .body]
    else if (← typed) && !m.isAbstract && !m.isOverride && !m.hasAccess && (← indexSignatureAhead) then
      indexSignature self start
    else namedMember self start m
  return .mk n.kind ⟨first, n.stop⟩ (ds ++ n.parts)

/-- A constructor with a body. -/
def isConstructorNode (n : Node) : Bool :=
  n.kind == .method &&
    match n.parts.find? (fun p => p.kind != .decorator), n.part? .function with
    | some key, some f => memberName? key == some "constructor" && (f.part? .body).isSome
    | _, _ => false

def classMembers (derived : Bool) : Parse (List Node) := do
  expect "\x7b"
  let (ms, _) ← loop (fun ((ms, constructed) : List Node × Bool) => do
    if ← isPunct "\x7d" then pure ((ms, constructed), false)
    else if ← eat ";" then pure ((ms, constructed), true)
    else
      let isStatic ← isWord "static"
      let m ← classMember self derived
      let made := !isStatic && isConstructorNode m
      faultIf (made && constructed)
      pure ((m :: ms, constructed || made), true)) ([], false)
  expect "\x7d"
  pure ms.reverse

/-- What a class implements, or an interface extends. -/
def heritageList (kind : Kind) : Parse Node := do
  let start ← here
  let ts ← loop (fun ts => do
    let s ← here
    let name ← entityName
    let args ← typeArguments? self
    let t ← node .typePart s (name :: args)
    if ← eat "," then pure (t :: ts, true) else pure (t :: ts, false)) []
  node kind start ts.reverse

/-- A class after the word `class`. -/
def classTail (kind : Kind) (start : Nat) (ds : List Node) (nameNeeded : Bool) :
    Parse Node := do
  let nameStart ← here
  let named := match ← token with
    | .name s escaped => (!isReserved s || escaped) && s != "implements"
    | _ => false
  failIf (nameNeeded && !named)
  let name ←
    if named then
      let s ← bindingName
      faultIf ((← typed) && ownTypeNames.contains s)
      pure [← node (.bind s false) nameStart []]
    else pure []
  let typeParams ← typeParameters? self .ofClass
  let superclass ←
    if ← isWord "extends" then
      let s ← here
      advance
      let e ← within (fun t => { t with arrowAt := none }) (self .leftHand)
      let args ← typeArguments? self
      pure [← node .extends s (e :: args)]
    else pure []
  let promised ←
    if (← typed) && (← eatWord "implements") then
      pure [← heritageList self .implements]
    else pure []
  let members ← within
    (fun s => { s with constructible := true, inParams := false })
    (classMembers self !superclass.isEmpty)
  node kind start (ds ++ name ++ typeParams ++ superclass ++ promised ++ members)

end ServerLink.Script.Parse
