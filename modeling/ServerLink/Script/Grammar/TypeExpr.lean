import ServerLink.Script.Grammar.Function

/-!
Types.
-/

set_option autoImplicit false

namespace ServerLink.Script.Parse

variable (self : Goal → Parse Node)

/-- Names of types that the language itself provides. -/
def builtinTypes : List String :=
  ["any", "boolean", "bigint", "never", "number", "object", "string", "symbol", "undefined",
   "unknown", "intrinsic"]

/-- A type where conditional types may be taken up again. -/
def innerType : Parse Node :=
  within (fun s => { s with plainTypes := false }) (self .type)

/-- A name with the names it is qualified by. -/
def entityName : Parse Node := do
  let start ← here
  let s ← anyName
  failIf (isReserved s && s != "this")
  let n ← node (.typeUse s false) start []
  loop (fun n => do
    if ← eat "." then
      let p ← match ← token with
        | .privateName p => (do advance; pure p)
        | _ => anyName
      return (← node (.qualified p) start [n], true)
    else return (n, false)) n

def sameLineTypeArguments? : Parse (List Node) := do
  if !(← newline) then typeArguments? self else pure []

def typeReference : Parse Node := do
  let start ← here
  let name ← entityName
  let args ← sameLineTypeArguments? self
  node .typeRef start (name :: args)

/-- `import("module")` inside a type, with what it is narrowed to. -/
def importType (start : Nat) : Parse Node := do
  expectWord "import"
  expect "("
  match ← token with
  | .text _ => advance
  | _ => fail
  let options ←
    if ← eat "," then
      if ← isPunct ")" then pure []
      else
        let e ← self .assignment
        let _ ← eat ","
        pure [e]
    else pure []
  expect ")"
  let _ ← loop (fun (_ : Unit) => do
    if ← eat "." then
      let _ ← anyName
      pure ((), true)
    else pure ((), false)) ()
  let args ← sameLineTypeArguments? self
  node .typePart start (options ++ args)

def typeQuery (start : Nat) : Parse Node := do
  expectWord "typeof"
  if ← isWord "import" then
    let t ← importType self start
    node .typePart start [t]
  else
    let name ← entityName
    let args ← sameLineTypeArguments? self
    node .typePart start (name :: args)

/-- Template text whose substitutions are read by `hole`; the cursor is at its opening quote. -/
def templateParts (hole : Parse Node) (soundOnly : Bool) : Parse (List Node) := do
  let c ← cursor
  let piece (t : Tail) : Parse Tail.TemplatePiece := fun _ c =>
    (Tail.takePiece t.chars t.offset []).map (·, c)
  let p ← piece c.next
  let (parts, _) ← loop (fun ((parts, p) : List Node × Tail.TemplatePiece) => do
    faultIf (soundOnly && !p.sound)
    moveTo (.at p.rest)
    if p.last then pure ((parts, p), false)
    else
      let h ← hole
      failIf (!(← isPunct "\x7d"))
      let p ← piece (← cursor).next
      pure ((h :: parts, p), true)) ([], p)
  pure parts.reverse

/-- An element of a tuple, and whether its type may be left out (`none` for a rest). -/
def tupleElement : Parse (Node × Option Bool) := do
  let start ← here
  let label : Parse Bool := do
    let spread ← eat "..."
    let _ ← anyName
    let _ ← eat "?"
    expect ":"
    pure spread
  let labelled ← lookahead label
  if labelled.isSome then
    let _ ← label
  let spread ← eat "..."
  let t ← innerType self
  let optional ← if spread then pure false else eat "?"
  let n ← node .typePart start [t]
  return (n, if spread then none else some optional)

/-- A tuple after its opening bracket. After an element that may be left out, none may be needed. -/
def tupleTail (start : Nat) : Parse Node := do
  let (parts, _) ← loop (fun ((parts, omitted) : List Node × Bool) => do
    if ← isPunct "]" then pure ((parts, omitted), false)
    else
      let (t, optional) ← tupleElement self
      failIf (omitted && optional == some false)
      let omitted := omitted || optional == some true
      if ← isPunct "]" then pure ((t :: parts, omitted), false)
      else
        expect ","
        pure ((t :: parts, omitted), true)) ([], false)
  expect "]"
  node .typePart start parts.reverse

/-- What separates the members of a type. -/
def memberEnd : Parse Unit := do
  if ← isAnyPunct [";", ","] then advance
  else if (← isPunct "\x7d") || (← newline) then pure ()
  else fail

/-- The parameters of a type, which have no defaults. -/
def typeOfParameters : Parse Node := do
  let ps ← within (·.forParams .plain) (parameters self false)
  failIf (ps.parts.any (·.kind == .defaulted))
  pure ps

def signature (start : Nat) (before : List Node) : Parse Node := do
  let opened ← here
  let typeParams ← typeParameters? self .ofFunction
  let ps ← typeOfParameters self
  let result ← returnAnnotation? self
  memberEnd
  let f ← node .functionType opened (typeParams ++ [ps] ++ result)
  node .typePart start (before ++ [f])

/-- An opening bracket, a name and a colon are ahead. -/
def indexSignatureAhead : Parse Bool := do
  return (← lookahead (do
    expect "["
    let _ ← anyName
    expect ":")).isSome

/-- The type of every property whose key has some type. -/
def indexSignature (start : Nat) : Parse Node := do
  expect "["
  let s ← here
  let name ← anyName
  let p ← node (.bind name false) s []
  let key ← typeAnnotation self
  expect "]"
  let result ← typeAnnotation? self
  memberEnd
  node .indexSignature start (p :: key :: result)

/-- A getter or setter in a type, after its word. -/
def accessorSignature (start : Nat) (isGetter : Bool) : Parse Node := do
  let key ← propertyName self
  let opened ← here
  let ps ← typeOfParameters self
  failIf (if isGetter then !ps.parts.isEmpty else ps.parts.isEmpty)
  let result ← if isGetter then typeAnnotation? self else pure []
  memberEnd
  let f ← node .functionType opened (ps :: result)
  node .typePart start [key, f]

def typeMember : Parse Node := do
  let start ← here
  let next ← following
  if (← isPunct "(") || (← angleAhead) then signature self start []
  else if (← isWord "new") && (next.token == .punct "(" || next.token == .punct "<") then
    advance
    signature self start []
  else
    let isReadonly := (← isWord "readonly") && startsPropertyName next.token && !next.newline
    if isReadonly then advance
    if ← indexSignatureAhead then indexSignature self start
    else
      let next ← following
      let isGetter ← isWord "get"
      if (isGetter || (← isWord "set")) && startsPropertyName next.token then
        failIf isReadonly
        advance
        accessorSignature self start isGetter
      else
        let key ← propertyName self
        let _ ← eat "?"
        if (← isPunct "(") || (← angleAhead) then
          failIf isReadonly
          signature self start [key]
        else
          let ann ← typeAnnotation? self
          memberEnd
          node .typePart start (key :: ann)

def mappedAhead : Parse Bool := do
  return (← lookahead (do
    expect "\x7b"
    if ← isAnyPunct ["+", "-"] then
      advance
      expectWord "readonly"
    else if (← isWord "readonly") && (← followedBy "[") then advance
    expect "["
    let _ ← anyName
    expectWord "in")).isSome

def mappedType (start : Nat) : Parse Node := do
  expect "\x7b"
  if ← isAnyPunct ["+", "-"] then advance
  let _ ← eatWord "readonly"
  expect "["
  let s ← here
  let name ← anyName
  let p ← node (.typeBind name) s []
  expectWord "in"
  let source ← innerType self
  let renamed ← if ← eatWord "as" then (do return [← innerType self]) else pure []
  expect "]"
  if ← isAnyPunct ["+", "-"] then
    advance
    expect "?"
  else
    let _ ← eat "?"
  let ann ← if ← isPunct ":" then (do return [← typeAnnotation self]) else pure []
  if ← isAnyPunct [";", ","] then advance
  expect "\x7d"
  node .mappedType start (p :: source :: (renamed ++ ann))

def typeLiteral (start : Nat) : Parse Node := do
  expect "\x7b"
  let members ← loop (fun members => do
    if ← isPunct "\x7d" then pure (members, false)
    else
      let m ← typeMember self
      pure (m :: members, true)) []
  expect "\x7d"
  node .typePart start members.reverse

/-- The bound of an inferred type, unless it opens a conditional type. -/
def inferredBound : Parse (List Node) := do
  let found ← trial (do
    expectWord "extends"
    let t ← within (fun s => { s with plainTypes := true }) (self .type)
    failIf (!(← setting).plainTypes && (← isPunct "?"))
    pure t)
  pure found.toList

def simpleType : Parse Node := do
  let start ← here
  match ← token with
  | .text _ | .number =>
      advance
      node .typePart start []
  | .punct "-" =>
      advance
      failIf ((← token) != .number)
      advance
      node .typePart start []
  | .punct "\x60" =>
      let parts ← templateParts (innerType self) true
      node .typePart start parts
  | .punct "\x7b" => if ← mappedAhead then mappedType self start else typeLiteral self start
  | .punct "[" =>
      advance
      tupleTail self start
  | .punct "(" =>
      advance
      let t ← innerType self
      expect ")"
      node .typePart start [t]
  | .name s escaped =>
      if escaped then typeReference self
      else if s == "typeof" then typeQuery self start
      else if s == "import" then importType self start
      else if s == "true" || s == "false" || s == "null" || s == "void" then
        advance
        node .typePart start []
      else if s == "this" then
        advance
        if (← isWord "is") && !(← newline) then
          advance
          let t ← self .type
          node .typePart start [t]
        else node .typePart start []
      else if builtinTypes.contains s && !(← followedBy ".") then
        advance
        node .typePart start []
      else typeReference self
  | _ => fail

/-- A type with the brackets that follow it on its line. -/
def arrayType : Parse Node := do
  let start ← here
  let t ← simpleType self
  loop (fun t => do
    if (← isPunct "[") && !(← newline) then
      advance
      if ← eat "]" then return (← node .typePart start [t], true)
      else
        let i ← innerType self
        expect "]"
        return (← node .typePart start [t, i], true)
    else return (t, false)) t

/-- A type with the words before it that act on it. -/
def operatorType : Parse Node := do
  let start ← here
  let (count, inferred) ← loop (fun ((n, i) : Nat × Bool) => do
    match ← token with
    | .name s false =>
        if ["keyof", "unique", "readonly"].contains s then
          match (← following).token with
          | .name _ _ | .text _ | .number =>
              advance
              pure ((n + 1, i), true)
          | .punct p =>
              if ["\x7b", "[", "(", "\x60", "-"].contains p then
                advance
                pure ((n + 1, i), true)
              else pure ((n, i), false)
          | _ => pure ((n, i), false)
        else if s == "infer" then
          match (← following).token with
          | .name _ _ => pure ((n, true), false)
          | _ => pure ((n, i), false)
        else pure ((n, i), false)
    | _ => pure ((n, i), false)) (0, false)
  let t ←
    if inferred then
      let s ← here
      advance
      let nameStart ← here
      let name ← plainName
      let p ← node (.typeBind name) nameStart []
      let bound ← inferredBound self
      node .inferType s (p :: bound)
    else arrayType self
  if count == 0 then pure t else node .typePart start [t]

/-- Operands joined by `sign`, which may also stand before the first one. -/
def joinedTypes (sign : String) (operand : Parse Node) : Parse Node := do
  let start ← here
  let led ← eat sign
  let first ← operand
  let ts ← loop (fun ts => do
    if ← eat sign then
      let t ← operand
      pure (t :: ts, true)
    else pure (ts, false)) [first]
  if led || ts.length > 1 then node .typePart start ts.reverse else pure first

def functionType (start : Nat) : Parse Node := do
  let typeParams ← typeParameters? self .ofFunction
  let ps ← typeOfParameters self
  expect "=>"
  let result ← self .returnType
  node .functionType start (typeParams ++ [ps, result])

def unconditionalType : Parse Node := do
  let start ← here
  if ← angleAhead then functionType self start
  else if ← isWord "new" then
    advance
    functionType self start
  else if (← isWord "abstract") && (← following).token == .name "new" false then
    advance
    advance
    functionType self start
  else
    let union := joinedTypes "|" (joinedTypes "&" (operatorType self))
    if ← isPunct "(" then
      match ← trial (functionType self start) with
      | some t => pure t
      | none => union
    else union

def typeExpression : Parse Node := do
  let start ← here
  let t ← unconditionalType self
  if (← isWord "extends") && !(← newline) && !(← setting).plainTypes then
    advance
    let bound ← within (fun s => { s with plainTypes := true }) (self .type)
    expect "?"
    let yes ← innerType self
    expect ":"
    let no ← innerType self
    node .conditionalType start [t, bound, yes, no]
  else pure t

/-- What a function returns: a type, or what its answer says about a parameter. -/
def returnType : Parse Node := do
  let start ← here
  let next ← following
  let sameLineName : Bool := !next.newline && match next.token with
    | .name _ _ => true
    | _ => false
  let subject : Parse Node := do
    let s ← here
    let name ← anyName
    if name == "this" then node .typePart s [] else node (.typeUse name false) s []
  if (← isWord "asserts") && sameLineName && next.token != .name "is" false then
    advance
    let x ← subject
    if ← eatWord "is" then
      let t ← self .type
      node .typePart start [x, t]
    else node .typePart start [x]
  else match ← token with
    | .name _ _ =>
        if sameLineName && next.token == .name "is" false then
          let x ← subject
          advance
          let t ← self .type
          node .typePart start [x, t]
        else self .type
    | _ => self .type

end ServerLink.Script.Parse
