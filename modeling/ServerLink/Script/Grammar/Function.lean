import ServerLink.Script.Goal
import ServerLink.Script.Pattern

/-!
Patterns that declare names, parameters, and functions.
-/

set_option autoImplicit false

namespace ServerLink.Script

/-- The tree with a type annotation at its end, if there is one. -/
def Node.annotated (n : Node) (ann : List Node) : Node :=
  .mk n.kind ⟨n.start, (ann.getLast?.map Node.stop).getD n.stop⟩ (n.parts ++ ann)

/-- How a function is called and entered. -/
structure FunctionForm where
  async : Bool
  generator : Bool
  ofConstructor : Bool

def FunctionForm.plain : FunctionForm := ⟨false, false, false⟩

/-- The setting inside the parameters of a function. -/
def Setting.forParams (s : Setting) (form : FunctionForm) : Setting :=
  { s with async := form.async, generator := form.generator, inParams := true, allowIn := true,
           constructible := true, colonAhead := false, arrowAt := none }

/-- The setting inside the body of a function. -/
def Setting.forBody (s : Setting) (async generator : Bool) : Setting :=
  { s with async := async, generator := generator, inFunction := true, inParams := false,
           allowIn := true, allowBreak := false, allowContinue := false, labels := [],
           colonAhead := false }

namespace Parse

variable (self : Goal → Parse Node)

/-- The pattern, or the pattern with the default that follows it. -/
def withDefault (start : Nat) (p : Node) : Parse Node := do
  if ← eat "=" then
    let d ← within (fun s => { s with allowIn := true }) (self .assignment)
    node .defaulted start [p, d]
  else pure p

def patternElement : Parse Node := do
  let start ← here
  let p ← self .pattern
  withDefault self start p

def arrayPatternTail (start : Nat) : Parse Node := do
  let parts ← loop (fun (parts : List Node) => do
    let s ← here
    if ← isPunct "]" then pure (parts, false)
    else if ← eat "," then return ((← node .hole s []) :: parts, true)
    else if ← eat "..." then
      let p ← self .pattern
      return ((← node .rest s [p]) :: parts, false)
    else
      let p ← patternElement self
      if ← isPunct "]" then pure (p :: parts, false)
      else
        expect ","
        pure (p :: parts, true)) []
  expect "]"
  node .arrayPattern start parts.reverse

def patternProperty : Parse Node := do
  let start ← here
  let keyed : Parse Node := do
    let key ← propertyName self
    expect ":"
    let value ← patternElement self
    node .patternProperty start [key, value]
  if ← eat "..." then
    let s ← here
    let name ← bindingName
    let p ← node (.bind name false) s []
    failIf (!(← isPunct "\x7d"))
    node .rest start [p]
  else match ← token with
    | .name _ _ =>
        if ← followedBy ":" then keyed
        else
          let name ← bindingName
          let p ← node (.bind name false) start []
          withDefault self start p
    | _ => keyed

def bindingPattern : Parse Node := do
  let start ← here
  if ← eat "[" then arrayPatternTail self start
  else if ← eat "\x7b" then
    let parts ← listUntil "\x7d" (patternProperty self)
    node .objectPattern start parts
  else
    let name ← bindingName
    node (.bind name false) start []

/-! ### Decorators -/

/-- Arguments between parentheses. -/
def callArguments : Parse Node := do
  let start ← here
  expect "("
  let args ← within (fun s => { s with allowIn := true, colonAhead := false }) <|
    listUntil ")" (do
      let s ← here
      if ← eat "..." then
        let e ← self .assignment
        node .spread s [e]
      else self .assignment)
  node .arguments start args

/-- The name after a dot: a property or a private one. -/
def dotted (start : Nat) (object : Node) : Parse Node := do
  match ← token with
  | .privateName _ =>
      advance
      node .privateMember start [object]
  | _ =>
      let s ← anyName
      node (.member s) start [object]

def decorator : Parse Node := do
  let start ← here
  expect "@"
  let s ← here
  let target ←
    if ← eat "(" then
      let e ← within (fun t => { t with allowIn := true }) (self .expression)
      expect ")"
      node .paren s [e]
    else
      let name ← plainName
      let n ← node (.use name false) s []
      loop (fun n => do
        if ← eat "." then return (← dotted s n, true)
        else if (← typed) && (← isPunct "!") && !(← newline) then
          advance
          return (← node .nonNull s [n], true)
        else return (n, false)) n
  let args ← typeArguments? self
  let e ←
    if !args.isEmpty || (← isPunct "(") then
      let given ← callArguments self
      node .call s (target :: (args ++ [given]))
    else pure target
  node .decorator start [e]

def decorators : Parse (List Node) := do
  let ds ← loop (fun ds => do
    if ← isPunct "@" then
      let d ← decorator self
      pure (d :: ds, true)
    else pure (ds, false)) []
  pure ds.reverse

/-! ### Parameters -/

def startsPattern (t : Token) : Bool :=
  match t with
  | .punct p => p == "[" || p == "\x7b" || p == "..."
  | .name s _ => !isReserved s || s == "this"
  | _ => false

/-- Reads one of the words, if it stands before a parameter in a language with types. -/
def eatParameterWord (words : List String) : Parse Bool := do
  match ← token with
  | .name s false =>
      if (← typed) && words.contains s && startsPattern (← following).token then
        advance
        pure true
      else pure false
  | _ => pure false

/-- Words before a parameter that make it a property of the constructed object. -/
def parameterModifiers : Parse Bool := do
  let access ← eatParameterWord ["public", "private", "protected"]
  let isOverride ← eatParameterWord ["override"]
  let isReadonly ← eatParameterWord ["readonly"]
  return access || isOverride || isReadonly

/-- A parameter, and the decorators before it. -/
def parameter (ofConstructor : Bool) : Parse (List Node × Node) := do
  let ds ← decorators self
  let modified ← parameterModifiers
  faultIf (modified && !ofConstructor)
  let start ← here
  let p ←
    if ← eat "..." then
      let p ← self .pattern
      let ann ← typeAnnotation? self
      node .rest start (p :: ann)
    else if (← typed) && (← isWord "this") then
      advance
      let p ← node (.bind "this" false) start []
      let ann ← typeAnnotation? self
      pure (p.annotated ann)
    else
      let p ← self .pattern
      failIf (modified && (p.kind == .arrayPattern || p.kind == .objectPattern))
      let optional ← if ← typed then eat "?" else pure false
      let ann ← typeAnnotation? self
      faultIf ((← isPunct "=") && (optional || (← setting).ambient))
      withDefault self start (p.annotated ann)
  pure (ds, p)

/-- Parameters between parentheses, each behind its decorators; a rest parameter is the last
one. -/
def parameters (ofConstructor : Bool) : Parse Node := do
  let start ← here
  expect "("
  let ps ← loop (fun ps => do
    if ← isPunct ")" then pure (ps, false)
    else
      let (ds, p) ← parameter self ofConstructor
      let ps := p :: (ds.reverse ++ ps)
      if p.kind == .rest || (← isPunct ")") then pure (ps, false)
      else
        expect ","
        pure (ps, true)) []
  expect ")"
  node .params start ps.reverse

/-! ### Functions -/

/-- The body asks for strictness in its opening. -/
def asksStrict (body : List Node) : Bool :=
  match body with
  | .mk .expressionStatement _ [.mk (.text s) _ _] :: rest => s == "use strict" || asksStrict rest
  | _ => false

def isSimpleParams (ps : Node) : Bool :=
  ps.undecorated.all fun p => match p.kind with
    | .bind _ _ => true
    | _ => false

/-- The body of a function whose parameters are known. -/
def functionBody (form : FunctionForm) (ps : Node) : Parse Node := do
  let b ← within (fun s => { s.forBody form.async form.generator with
                             constructible := true, inField := false }) (self .body)
  faultIf (asksStrict b.parts && !isSimpleParams ps)
  pure b

/-- Parameters, return type and body of a function. A language with types allows the body to be
left out. -/
def functionTail (kind : Kind) (start : Nat) (name : List Node) (form : FunctionForm) :
    Parse Node := do
  let typeParams ← typeParameters? self .ofFunction
  let ps ← within (fun s => { s.forParams form with inField := false })
    (parameters self form.ofConstructor)
  let result ← returnAnnotation? self
  let body ←
    if ← isPunct "\x7b" then
      faultIf (← setting).ambient
      let b ← functionBody self form ps
      pure [b]
    else
      failIf (!(← typed))
      semicolon
      pure []
  node kind start (name ++ typeParams ++ [ps] ++ result ++ body)

/-- A function after the word `function`, which begins at `start` or follows `async` there. -/
def functionAfterWord (kind : Kind) (start : Nat) (async nameNeeded : Bool) : Parse Node := do
  let generator ← eat "*"
  let nameStart ← here
  let name ←
    if ← isPunct "(" then
      failIf nameNeeded
      pure []
    else if (← typed) && (← angleAhead) && !nameNeeded then pure []
    else
      let s ← bindingName
      return (← functionTail self kind start [← node (.bind s false) nameStart []]
        ⟨async, generator, false⟩)
  functionTail self kind start name ⟨async, generator, false⟩

end Parse

end ServerLink.Script
