import ServerLink.Script.Grammar.Expression

/-!
Statements and declarations.
-/

set_option autoImplicit false

namespace ServerLink.Script.Parse

variable (self : Goal → Parse Node)

/-- Reads items up to the closing brace, which is read too. -/
def itemsUntilBrace (goal : Goal) : Parse (List Node) := do
  let items ← loop (fun items => do
    if ← isPunct "\x7d" then pure (items, false)
    else
      let i ← self goal
      pure (i :: items, true)) []
  expect "\x7d"
  pure items.reverse

def bracedItems (kind : Kind) : Parse Node := do
  let start ← here
  expect "\x7b"
  let items ← itemsUntilBrace self .item
  node kind start items

/-- An expression in parentheses that belongs to a statement. -/
def condition : Parse Node := do
  expect "("
  let e ← enclosed (self .expression)
  expect ")"
  pure e

/-! ### Variables -/

/-- Where variables are declared, which decides whether a value must be given. -/
inductive VariablePlace where
  | list
  | loopHead
  deriving DecidableEq

def declarator (place : VariablePlace) (valueNeeded : Bool) : Parse Node := do
  let start ← here
  let p ← self .pattern
  if ← typed then
    if (← isPunct "!") && !(← newline) then advance
  let ann ← typeAnnotation? self
  let p := p.annotated ann
  let value ←
    if ← eat "=" then pure [← self .assignment]
    else
      let needed := place == .list && !(← setting).ambient &&
        (valueNeeded || p.kind == .arrayPattern || p.kind == .objectPattern)
      faultIf needed
      pure []
  node .declarator start (p :: value)

/-- Variables between commas, after the word that declares them. -/
def declarators (place : VariablePlace) (valueNeeded : Bool) : Parse (List Node) := do
  let vs ← loop (fun vs => do
    let v ← declarator self place valueNeeded
    if ← eat "," then pure (v :: vs, true) else pure (v :: vs, false)) []
  pure vs.reverse

/-- The words that begin a declaration of variables, if the cursor is at any: what it declares,
whether values are needed, and how many words they are. -/
def variableWords : Parse (Option (Kind × Bool × Nat)) := do
  let next ← following
  let nameNext : Bool := match next.token with
    | .name s _ => !isReserved s
    | _ => false
  match ← token with
  | .name "var" false => pure (some (.variables true, false, 1))
  | .name "const" false => pure (some (.variables false, true, 1))
  | .name "let" false =>
      if nameNext || next.token == .punct "[" || next.token == .punct "\x7b" then
        pure (some (.variables false, false, 1))
      else pure none
  | .name "using" false =>
      if (← typed) && nameNext && !next.newline then
        if next.token == .name "of" false &&
            (Cursor.at next.next).token != .punct "=" then pure none
        else pure (some (.resources, true, 1))
      else pure none
  | .name "await" false =>
      if (← typed) && next.token == .name "using" false && !next.newline then
        let after := Cursor.at next.next
        match after.token with
        | .name s _ =>
            if !isReserved s && !after.newline then pure (some (.resources, true, 2)) else pure none
        | _ => pure none
      else pure none
  | _ => pure none

def skipWords (n : Nat) : Parse Unit := do
  advance
  if n == 2 then advance

def variableStatement (start : Nat) (kind : Kind) (valueNeeded : Bool) (words : Nat) :
    Parse Node := do
  skipWords words
  let vs ← declarators self .list valueNeeded
  semicolon
  node kind start vs

/-! ### Loops -/

def loopBody : Parse Node :=
  within (fun s => { s with allowBreak := true, allowContinue := true }) (self .statement)

/-- The rest of a loop head after its first semicolon, and the body. -/
def countingLoop (start : Nat) (init : List Node) : Parse Node := do
  expect ";"
  let test ← if ← isPunct ";" then pure [] else pure [← enclosed (self .expression)]
  expect ";"
  let step ← if ← isPunct ")" then pure [] else pure [← enclosed (self .expression)]
  expect ")"
  let b ← loopBody self
  node .forLoop start (init ++ test ++ step ++ [b])

/-- A variable that a walking loop declares has no value of its own and no type. -/
def isWalkVariable (v : Node) : Bool :=
  match v.parts with
  | [p] => (p.part? .typeAnn).isNone
  | _ => false

/-- The rest of a loop head from `of` or `in` on, and the body. -/
def walkingLoop (start : Nat) (head : Node) (isAwait : Bool) : Parse Node := do
  let source ←
    if ← eatWord "of" then enclosed (self .assignment)
    else
      failIf isAwait
      expectWord "in"
      enclosed (self .expression)
  expect ")"
  let b ← loopBody self
  node .forLoop start [head, source, b]

def walkAhead : Parse Bool := do
  return (← isWord "of") || (← isWord "in")

def forStatement : Parse Node := do
  let start ← here
  expectWord "for"
  let isAwait ← eatWord "await"
  expect "("
  let headStart ← here
  match ← variableWords with
  | some (kind, _, words) =>
      skipWords words
      let vs ← within (fun s => { s with allowIn := false }) (declarators self .loopHead false)
      let head ← node kind headStart vs
      if ← walkAhead then
        faultIf (vs.length != 1 || !vs.all isWalkVariable)
        walkingLoop self start head isAwait
      else
        failIf isAwait
        countingLoop self start [head]
  | none =>
      if ← isPunct ";" then
        failIf isAwait
        countingLoop self start []
      else
        let asyncOf := (← isWord "async") && (← following).token == .name "of" false
        let letFirst ← isWord "let"
        let e ← within (fun s => { s with allowIn := false, colonAhead := false })
          (self .expression)
        if ← walkAhead then
          faultIf ((asyncOf && !isAwait && e.kind == .use "async" false) || letFirst)
          match e.toPattern? .assign with
          | some p =>
              faultIf ((← typed) && (← isWord "in") &&
                (p.kind == .arrayPattern || p.kind == .objectPattern))
              walkingLoop self start p isAwait
          | none =>
              fault
              walkingLoop self start e isAwait
        else
          failIf isAwait
          countingLoop self start [e]

def whileStatement : Parse Node := do
  let start ← here
  expectWord "while"
  let e ← condition self
  let b ← loopBody self
  node .statement start [e, b]

def doStatement : Parse Node := do
  let start ← here
  expectWord "do"
  let b ← loopBody self
  expectWord "while"
  let e ← condition self
  let _ ← eat ";"
  node .statement start [b, e]

/-! ### Other statements -/

def ifStatement : Parse Node := do
  let start ← here
  expectWord "if"
  let e ← condition self
  let yes ← self .statement
  let no ← if ← eatWord "else" then pure [← self .statement] else pure []
  node .statement start (e :: yes :: no)

def switchCase (seenDefault : Bool) : Parse (Node × Bool) := do
  let start ← here
  let isDefault ← isWord "default"
  faultIf (isDefault && seenDefault)
  let test ←
    if isDefault then
      advance
      pure []
    else
      expectWord "case"
      pure [← enclosed (self .expression)]
  expect ":"
  let items ← loop (fun items => do
    if (← isPunct "\x7d") || (← isWord "case") || (← isWord "default") then pure (items, false)
    else
      let i ← self .item
      pure (i :: items, true)) []
  let n ← node .statement start (test ++ items.reverse)
  pure (n, seenDefault || isDefault)

def switchStatement : Parse Node := do
  let start ← here
  expectWord "switch"
  let e ← condition self
  let s ← here
  expect "\x7b"
  let (cases, _) ← within (fun s => { s with allowBreak := true }) <|
    loop (fun ((cases, seen) : List Node × Bool) => do
      if ← isPunct "\x7d" then pure ((cases, seen), false)
      else
        let (c, seen) ← switchCase self seen
        pure ((c :: cases, seen), true)) ([], false)
  expect "\x7d"
  let b ← node .switchBody s cases.reverse
  node .statement start [e, b]

/-- No type is ahead, or one that says nothing of what is caught. -/
def vagueTypeAhead : Parse Bool := do
  if ← isPunct ":" then
    let next ← following
    let after := (Cursor.at next.next).token
    return (next.token == .name "any" false || next.token == .name "unknown" false) &&
      after == .punct ")"
  else return true

def catchClause : Parse Node := do
  let start ← here
  expectWord "catch"
  let p ←
    if ← eat "(" then
      let p ← self .pattern
      faultIf (!(← vagueTypeAhead))
      let ann ← typeAnnotation? self
      expect ")"
      pure [p.annotated ann]
    else pure []
  let b ← self .block
  node .catchClause start (p ++ [b])

def tryStatement : Parse Node := do
  let start ← here
  expectWord "try"
  let b ← self .block
  let c ← if ← isWord "catch" then pure [← catchClause self] else pure []
  let f ← if ← eatWord "finally" then pure [← self .block] else pure []
  failIf (c.isEmpty && f.isEmpty)
  node .statement start (b :: (c ++ f))

/-- A jump out of a loop or switch, or on in a loop. -/
def jumpStatement : Parse Node := do
  let start ← here
  let isBreak ← isWord "break"
  advance
  let s ← setting
  if ← semicolonAhead then
    faultIf (if isBreak then !s.allowBreak else !s.allowContinue)
    semicolon
    node .statement start []
  else
    let l ← plainName
    faultIf (!s.labels.contains l || (!isBreak && !s.allowContinue))
    semicolon
    node .statement start []

def returnStatement : Parse Node := do
  let start ← here
  expectWord "return"
  faultIf (!(← setting).inFunction)
  let e ← if ← semicolonAhead then pure [] else pure [← enclosed (self .expression)]
  semicolon
  node .statement start e

def throwStatement : Parse Node := do
  let start ← here
  expectWord "throw"
  failIf (← newline)
  let e ← enclosed (self .expression)
  semicolon
  node .statement start [e]

def labelledStatement : Parse Node := do
  let start ← here
  let l ← plainName
  expect ":"
  faultIf ((← setting).labels.contains l)
  let b ← within (fun s => { s with labels := l :: s.labels }) (self .statement)
  node (.labelled l) start [b]

def expressionStatement : Parse Node := do
  let start ← here
  let e ← enclosed (self .expression)
  semicolon
  node .expressionStatement start [e]

/-! ### Declarations of types -/

def interfaceDecl (start : Nat) : Parse Node := do
  let s ← here
  let name ← plainName
  faultIf (ownTypeNames.contains name)
  let n ← node (.typeBind name) s []
  let ts ← typeParameters? self .ofType
  let above ←
    if ← eatWord "extends" then pure [← heritageList self .extends] else pure []
  let b ← typeLiteral self (← here)
  node .interfaceDecl start (n :: (ts ++ above ++ [b]))

def aliasDecl (start : Nat) : Parse Node := do
  let s ← here
  let name ← plainName
  let n ← node (.typeBind name) s []
  let ts ← typeParameters? self .ofType
  expect "="
  let t ← self .type
  semicolon
  node .aliasDecl start (n :: (ts ++ [t]))

def enumMember : Parse Node := do
  let start ← here
  let name ← match ← token with
    | .name s _ => (do advance; pure (some s))
    | .text _ => (do advance; pure none)
    | _ => fail
  let value ← if ← eat "=" then pure [← enclosed (self .assignment)] else pure []
  node (.enumMember name) start value

def enumDecl (start : Nat) : Parse Node := do
  let s ← here
  let name ← bindingName
  let n ← node (.bind name false) s []
  expect "\x7b"
  let ms ← listUntil "\x7d" (enumMember self)
  node .enumDecl start (n :: ms)

def moduleBlock : Parse Node := do
  let start ← here
  expect "\x7b"
  let items ← itemsUntilBrace self .moduleItem
  node .body start items

/-- A namespace after its word; a dotted name nests one in the other. -/
def namespaceDecl (start : Nat) : Parse Node := do
  let s ← here
  let name ← plainName
  let n ← node (.bind name false) s []
  let _ ← loop (fun (_ : Unit) => do
    if ← eat "." then
      let _ ← anyName
      pure ((), true)
    else pure ((), false)) ()
  let b ← within (fun t => { t with inFunction := false, labels := [], allowBreak := false,
                                    allowContinue := false })
    (moduleBlock self)
  node .namespaceDecl start [n, b]

/-- A module named by a text, or the global one, whose block may be left out. -/
def foreignModule (start : Nat) : Parse Node := do
  advance
  if ← isPunct "\x7b" then
    let b ← moduleBlock self
    node .namespaceDecl start [b]
  else
    semicolon
    node .namespaceDecl start []

/-- The token after the current one is a name on the same line. -/
def nameOnLine : Parse Bool := do
  let next ← following
  match next.token with
  | .name s _ => return !next.newline && !isReserved s
  | _ => return false

/-- A declaration that begins with a word only languages with types know; `start` is where the
whole begins. -/
def typeDeclaration? (start : Nat) (ds : List Node) : Parse (Option Node) := do
  if !(← typed) then return none
  let next ← following
  match ← token with
  | .name "interface" false =>
      if ← nameOnLine then
        advance
        return some (← interfaceDecl self start)
      else return none
  | .name "type" false =>
      if ← nameOnLine then
        advance
        return some (← aliasDecl self start)
      else return none
  | .name "enum" false =>
      advance
      return some (← enumDecl self start)
  | .name "const" false =>
      if next.token == .name "enum" false then
        advance
        advance
        return some (← enumDecl self start)
      else return none
  | .name "abstract" false =>
      if next.token == .name "class" false && !next.newline then
        advance
        advance
        return some (← classTail self .classDecl start ds true)
      else return none
  | .name "namespace" false =>
      if ← nameOnLine then
        advance
        return some (← namespaceDecl self start)
      else return none
  | .name "module" false =>
      match next.token with
      | .text _ =>
          if next.newline then return none
          else
            advance
            return some (← foreignModule self start)
      | _ =>
          if ← nameOnLine then
            advance
            return some (← namespaceDecl self start)
          else return none
  | .name "global" false =>
      if next.token == .punct "\x7b" && !next.newline then
        return some (← foreignModule self start)
      else return none
  | _ => return none

/-- A function declaration, or `async` before one on the same line. -/
def functionDecl? (nameNeeded : Bool) : Parse (Option Node) := do
  let start ← here
  if ← eatWord "function" then
    return some (← functionAfterWord self .functionDecl start false nameNeeded)
  else
    let next ← following
    if (← isWord "async") && next.token == .name "function" false && !next.newline then
      advance
      advance
      return some (← functionAfterWord self .functionDecl start true nameNeeded)
    else return none

/-- A thing that is only declared to exist; the cursor is after `declare`. -/
def ambientDecl (start : Nat) (ds : List Node) : Parse Node :=
  within (fun s => { s with ambient := true }) do
    match ← typeDeclaration? self start ds with
    | some d => pure d
    | none =>
        match ← functionDecl? self true with
        | some f => return .mk f.kind ⟨start, f.stop⟩ f.parts
        | none =>
            if ← eatWord "class" then classTail self .classDecl start ds true
            else match ← variableWords with
              | some (kind, needed, words) => variableStatement self start kind needed words
              | none => fail

/-- The word `declare` begins a declaration here. -/
def ambientAhead : Parse Bool := do
  if (← typed) && (← isWord "declare") then
    let next ← following
    match next.token with
    | .name s _ =>
        return !next.newline &&
          ["function", "class", "var", "const", "let", "enum", "abstract", "interface", "type",
           "namespace", "module", "global"].contains s
    | _ => return false
  else return false

/-- A declaration, if one is ahead; `start` is where the whole begins. -/
def declaration? (start : Nat) (ds : List Node) : Parse (Option Node) := do
  match ← functionDecl? self true with
  | some f => return some f
  | none =>
      if ← isWord "class" then
        advance
        return some (← classTail self .classDecl start ds true)
      else if ← ambientAhead then
        faultIf (← setting).ambient
        advance
        return some (← ambientDecl self start ds)
      else match ← typeDeclaration? self start ds with
        | some d => return some d
        | none =>
            match ← variableWords with
            | some (kind, needed, words) =>
                return some (← variableStatement self start kind needed words)
            | none => return none

/-! ### One statement -/

def statement : Parse Node := do
  let start ← here
  match ← token with
  | .punct "\x7b" => bracedItems self .block
  | .punct ";" =>
      advance
      node .statement start []
  | .name s false =>
      if s == "if" then ifStatement self
      else if s == "for" then forStatement self
      else if s == "while" then whileStatement self
      else if s == "do" then doStatement self
      else if s == "switch" then switchStatement self
      else if s == "try" then tryStatement self
      else if s == "break" || s == "continue" then jumpStatement
      else if s == "return" then returnStatement self
      else if s == "throw" then throwStatement self
      else if s == "debugger" then
        advance
        semicolon
        node .statement start []
      else if s == "var" then variableStatement self start (.variables true) false 1
      else if s == "function" || s == "class" then fail
      else if isPlainName (.name s false) && (← followedBy ":") then labelledStatement self
      else
        let next ← following
        failIf (s == "async" && next.token == .name "function" false && !next.newline)
        expressionStatement self
  | .name s true =>
      if isPlainName (.name s true) && (← followedBy ":") then labelledStatement self
      else expressionStatement self
  | _ => expressionStatement self

/-- A statement or declaration. Decorators may stand before a class; before a function they
declare nothing. -/
def item : Parse Node := do
  let first ← here
  if ← isPunct "@" then
    let ds ← decorators self
    let start ← here
    match ← declaration? self first ds with
    | some d =>
        match d.kind with
        | .classDecl => pure d
        | .functionDecl => return .mk d.kind ⟨start, d.stop⟩ (ds ++ d.parts)
        | _ => fail
    | none => fail
  else match ← declaration? self first [] with
    | some d => pure d
    | none => statement self

end ServerLink.Script.Parse
