import ServerLink.Script.Grammar.Class
import ServerLink.Script.Grammar.Markup

/-!
Expressions.
-/

set_option autoImplicit false

namespace ServerLink.Script

/-- How tightly a binary operator binds. -/
def operatorRank? (op : String) : Option Nat :=
  match op with
  | "??" | "||" => some 1
  | "&&" => some 2
  | "|" => some 3
  | "^" => some 4
  | "&" => some 5
  | "==" | "!=" | "===" | "!==" => some 6
  | "<" | ">" | "<=" | ">=" | "in" | "instanceof" => some 7
  | "<<" | ">>" | ">>>" => some 8
  | "+" | "-" => some 9
  | "*" | "/" | "%" => some 10
  | "**" => some 11
  | _ => none

def assignmentOperators : List String :=
  ["=", "+=", "-=", "*=", "/=", "%=", "**=", "<<=", ">>=", ">>>=", "&=", "|=", "^=", "&&=", "||=",
   "??="]

/-- The token may begin an expression. -/
def startsExpression (t : Token) : Bool :=
  match t with
  | .name s escaped =>
      escaped || !isReserved s ||
        ["class", "delete", "false", "function", "import", "new", "null", "super", "this", "true",
         "typeof", "void"].contains s
  | .privateName _ | .number | .text _ => true
  | .punct p =>
      ["(", "[", "\x7b", "\x60", "+", "-", "~", "!", "++", "--", "<", "<<", "/", "/=", "@"].contains p
  | .done | .invalid => false

/-- The expression is a link of an optional chain, or one with a mark that it is not null. -/
def Node.inChain : Node → Bool
  | .mk .chain _ _ => true
  | .mk .nonNull _ [p] => p.inChain
  | _ => false

/-- The expression is a property of another. -/
def Node.isProperty (n : Node) : Bool :=
  match n.kind with
  | .member _ | .privateMember | .index => true
  | _ => false

/-- The expression under parentheses. -/
def Node.bare : Node → Node
  | .mk .paren _ [p] => p.bare
  | n => n

namespace Parse

variable (self : Goal → Parse Node)

/-- Reads between brackets, where the text outside has no say. -/
def enclosed {α : Type} (p : Parse α) : Parse α :=
  within (fun s => { s with allowIn := true, colonAhead := false }) p

/-- The operator at the cursor, and the text after it. -/
def operatorAhead : Parse (Option (String × Tail)) := do
  let c ← cursor
  match c.token with
  | .punct ">" =>
      match [">>>=", ">>>", ">>=", ">>", ">="].find? fun op =>
        op.toList.isPrefixOf ('>' :: c.next.chars) with
      | some op =>
          let extra := op.length - 1
          pure (some (op, ⟨c.next.chars.drop extra, c.next.offset + extra⟩))
      | none => pure (some (">", c.next))
  | .punct p => pure (some (p, c.next))
  | .name "in" false => if (← setting).allowIn then pure (some ("in", c.next)) else pure none
  | .name "instanceof" false => pure (some ("instanceof", c.next))
  | _ => pure none

/-! ### Literals -/

def template (soundOnly : Bool) : Parse Node := do
  let start ← here
  let parts ← templateParts (enclosed (self .expression)) soundOnly
  node .template start parts

def regex : Parse Node := do
  let start ← here
  let t := (← cursor).here
  match Tail.takeRegex ⟨t.chars.drop 1, t.offset + 1⟩ with
  | some rest =>
      moveTo (.at rest)
      node .literal start []
  | none => fail

def arrayLiteral : Parse Node := do
  let start ← here
  expect "["
  let parts ← enclosed <| loop (fun (parts : List Node) => do
    let s ← here
    if ← isPunct "]" then pure (parts, false)
    else if ← eat "," then return ((← node .hole s []) :: parts, true)
    else if ← eat "..." then
      let e ← self .assignment
      let p ← node .spread s [e]
      if ← eat "," then
        if ← isPunct "]" then return ((← node .hole p.stop []) :: p :: parts, false)
        else return (p :: parts, true)
      else return (p :: parts, false)
    else
      let e ← self .assignment
      if ← eat "," then return (e :: parts, true) else return (e :: parts, false)) []
  expect "]"
  node .array start parts.reverse

/-- A method, getter or setter of an object, after its name. -/
def objectMethod (start : Nat) (key : Node) (kind : Kind) (form : FunctionForm)
    (accepts : Node → Bool) : Parse Node := do
  let f ← functionTail self .function (← here) [] form
  failIf (f.part? .body).isNone
  match f.part? .params with
  | some ps => faultIf (!accepts ps)
  | none => pure ()
  node kind start [key, f]

def endsObjectName (t : Token) : Bool :=
  match t with
  | .punct p => ["(", "<", "<<", ",", ":", "\x7d", "="].contains p
  | _ => false

def objectMember : Parse Node := do
  let start ← here
  let next ← following
  let current ← token
  let w : String := match current with
    | .name s false => if endsObjectName next.token then "" else s
    | _ => ""
  if ← eat "..." then
    let e ← self .assignment
    node .spread start [e]
  else if w == "async" && !next.newline then
    advance
    let generator ← eat "*"
    let key ← propertyName self
    objectMethod self start key .method ⟨true, generator, false⟩ acceptsAny
  else if ← eat "*" then
    let key ← propertyName self
    objectMethod self start key .method ⟨false, true, false⟩ acceptsAny
  else if (w == "get" || w == "set") && startsPropertyName next.token then
    advance
    let key ← propertyName self
    if w == "get" then objectMethod self start key .getter .plain acceptsNone
    else objectMethod self start key .setter .plain acceptsOne
  else
    let key ← propertyName self
    if ← eat ":" then
      let v ← self .assignment
      node .property start [key, v]
    else if (← isPunct "(") || ((← typed) && (← angleAhead)) then
      objectMethod self start key .method .plain acceptsAny
    else match current with
      | .name s escaped =>
          failIf (isReserved s && !escaped)
          faultIf (isStrictReserved s && !(escaped && isKeyword s))
          let use : Node := .mk (.use s false) key.span []
          if ← eat "=" then
            let e ← self .assignment
            node .initialized start [use, e]
          else node .shorthand start [use]
      | _ => fail

def objectLiteral : Parse Node := do
  let start ← here
  expect "\x7b"
  let parts ← enclosed <| loop (fun (parts : List Node) => do
    if ← isPunct "\x7d" then pure (parts, false)
    else
      let p ← objectMember self
      if ← eat "," then
        if p.kind == .spread && (← isPunct "\x7d") then
          return ((← node .hole p.stop []) :: p :: parts, false)
        else return (p :: parts, true)
      else return (p :: parts, false)) []
  expect "\x7d"
  node .object start parts.reverse

/-! ### Arrow functions and parentheses -/

/-- The end of an arrow function: the cursor is at the arrow, on the line of what is before it. -/
def arrowTail (start : Nat) (async : Bool) (before : List Node) (ps : Node) (result : List Node) :
    Parse Node := do
  failIf (← newline)
  expect "=>"
  let body ←
    if ← isPunct "\x7b" then
      let b ← within (·.forBody async false) (self .body)
      faultIf (asksStrict b.parts && !isSimpleParams ps)
      pure b
    else
      within
        (fun s => { s with async := async, generator := false, inFunction := true,
                           inParams := false, allowBreak := false, allowContinue := false,
                           labels := [] })
        (self .assignment)
  node .arrow start (before ++ ps :: (result ++ [body]))

/-- The branches of a conditional expression; the cursor is at its question mark. -/
def branches (start : Nat) (test : Node) : Parse Node := do
  expect "?"
  let yes ← within (fun s => { s with allowIn := true, colonAhead := true }) (self .assignment)
  expect ":"
  let no ← within (fun s => { s with colonAhead := false }) (self .assignment)
  node .conditional start [test, yes, no]

/-- An assignment to what has been read, if an assignment operator follows. -/
def assignmentTail (start : Nat) (target : Node) : Parse Node := do
  match ← operatorAhead with
  | some (op, after) =>
      if op == "=" then
        let target ← match target.toPattern? .assign with
          | some p => pure p
          | none => (do fault; pure target)
        advance
        let value ← self .assignment
        node (.assign op) start [target, value]
      else if assignmentOperators.contains op then
        faultIf (!target.isPlace)
        moveTo (.at after)
        let value ← self .assignment
        node (.assign op) start [target, value]
      else pure target
  | none => pure target

/-- Decorators before a parameter, which say nothing. Those before a class belong to it. -/
def skipDecorators : Parse Unit := do
  if ← isPunct "@" then
    let before ← lookahead (do
      let _ ← decorators self
      failIf (← isWord "class"))
    if before.isSome then
      let _ ← decorators self

/-- One thing between parentheses: an expression, or already a pattern when a type annotation or
question mark shows that it declares. -/
def parenItem : Parse Node := do
  skipDecorators self
  let start ← here
  let spread ← eat "..."
  if !(← typed) then
    let e ← self .assignment
    if spread then node .spread start [e] else pure e
  else
    let named := isPlainName (← token)
    let e ←
      if named then
        let s ← here
        let e ← within (fun t => { t with arrowAt := some s }) (self (.operation 0))
        if spread || e.kind == .arrow then pure e else assignmentTail self s e
      else self .assignment
    let (e, optional) ←
      if e.kind != .arrow && (← isPunct "?") then
        let next := (← following).token
        if [Token.punct ",", .punct ":", .punct ")", .punct "="].contains next then
          failIf spread
          match e.kind with
          | .use _ _ =>
              advance
              pure (e, true)
          | _ => fail
        else if spread then pure (e, false)
        else return ← branches self start e
      else pure (e, false)
    if optional || (← isPunct ":") then
      match e.toPattern? .declare with
      | none => fail
      | some p =>
          let ann ← typeAnnotation? self
          if spread then node .rest start (p :: ann)
          else withDefault self start (p.annotated ann)
    else if spread then node .spread start [e]
    else pure e

/-- Things between parentheses, and whether a comma ends them. -/
def parenItems : Parse (List Node × Bool) := do
  expect "("
  let (items, comma) ← enclosed <| loop (fun ((items, _) : List Node × Bool) => do
    if ← isPunct ")" then pure ((items, !items.isEmpty), false)
    else
      let i ← parenItem self
      if ← eat "," then pure ((i :: items, true), true)
      else pure ((i :: items, false), false)) ([], false)
  expect ")"
  pure (items.reverse, comma)

/-- The items read as parameters. -/
def itemsAsParams (start stop : Nat) (items : List Node) (comma : Bool) : Parse Node := do
  match toPatterns? .declare items with
  | none => fail
  | some ps =>
      failIf (comma && ps.getLast?.any (·.kind == .rest))
      return .mk .params ⟨start, stop⟩ ps

def isDeclaring (n : Node) : Bool :=
  match n.kind with
  | .bind _ _ | .arrayPattern | .objectPattern | .defaulted | .rest => true
  | _ => false

/-- An arrow function if the text after the parentheses says so. -/
def arrowAfterItems? (start opened : Nat) (async : Bool) (items : List Node) (comma : Bool) :
    Parse (Option Node) := do
  let stop ← lastStop
  if (← typed) && (← isPunct ":") then
    let found ← trial (do
      let result ← returnAnnotation? self
      failIf (!(← isPunct "=>"))
      let ps ← itemsAsParams opened stop items comma
      let f ← arrowTail self start async [] ps result
      failIf ((← setting).colonAhead && !(← isPunct ":"))
      pure f)
    if found.isSome then return found
  if ← isPunct "=>" then
    let ps ← itemsAsParams opened stop items comma
    return some (← arrowTail self start async [] ps [])
  else return none

/-- Parentheses around an expression, or around the parameters of an arrow function. -/
def parenthesized : Parse Node := do
  let start ← here
  let mayArrow := (← setting).arrowAt == some start
  let (items, comma) ← parenItems self
  let stop ← lastStop
  let arrow ← if mayArrow then arrowAfterItems? self start start false items comma else pure none
  match arrow with
  | some f => pure f
  | none =>
      failIf (comma || items.any fun i => i.kind == .spread || isDeclaring i)
      match items with
      | [] => fail
      | [e] => return .mk .paren ⟨start, stop⟩ [e]
      | e :: _ =>
          let seq : Node := .mk .sequence
            ⟨e.start, (items.getLast?.map (·.stop)).getD stop⟩ items
          return .mk .paren ⟨start, stop⟩ [seq]

/-- An arrow function with type parameters, which the cursor is at. -/
def genericArrow (start : Nat) (async : Bool) : Parse Node := do
  let ts ← typeParameters self .ofFunction
  let ps ← within (·.forParams ⟨async, false, false⟩) (parameters self false)
  let result ← returnAnnotation? self
  arrowTail self start async [ts] ps result

/-- What begins with the word `async`: a function, a call, or the name itself. -/
def asyncStart : Parse Node := do
  let start ← here
  let next ← following
  let mayArrow := (← setting).arrowAt == some start
  let self' := self
  let nameHere : Parse Node := do
    let s ← plainName
    let n ← node (.use s false) start []
    if mayArrow && !(← newline) && (← isPunct "=>") then
      let p : Node := .mk (.bind s false) n.span []
      arrowTail self' start false [] (.mk .params n.span [p]) []
    else pure n
  if next.newline then nameHere
  else match next.token with
    | .name "function" false =>
        advance
        advance
        let f ← functionAfterWord self .function start true false
        failIf (f.part? .body).isNone
        pure f
    | .name s _ =>
        let arrowNext := (Cursor.at next.next).token == .punct "=>"
        if mayArrow && arrowNext && isPlainName (.name s false) then
          advance
          let nameStart ← here
          let s ← bindingName
          let p ← node (.bind s false) nameStart []
          arrowTail self start true [] (.mk .params p.span [p]) []
        else nameHere
    | .punct "(" =>
        if mayArrow then
          advance
          let opened ← here
          let (items, comma) ← parenItems self
          let stop ← lastStop
          match ← arrowAfterItems? self start opened true items comma with
          | some f => pure f
          | none =>
              failIf (items.any isDeclaring)
              let callee : Node := .mk (.use "async" false) ⟨start, start + 5⟩ []
              return .mk .call ⟨start, stop⟩
                [callee, .mk .arguments ⟨opened, stop⟩ items]
        else nameHere
    | .punct "<" =>
        if mayArrow && (← typed) then
          match ← trial (do
            advance
            genericArrow self start true) with
          | some f => pure f
          | none => nameHere
        else nameHere
    | _ => nameHere

/-! ### Members and calls -/

/-- `super`, with what must follow it. -/
def superStart : Parse Node := do
  let start ← here
  expectWord "super"
  let s ← node .literal start []
  if ← isPunct "(" then
    let args ← callArguments self
    node .superCall start [s, args]
  else
    failIf (!(← isAnyPunct [".", "["]))
    pure s

/-- `import` inside an expression. -/
def importStart : Parse Node := do
  let start ← here
  expectWord "import"
  if ← eat "." then
    let w ← anyName
    if w == "meta" then node .literal start []
    else
      failIf (w != "defer" && w != "source")
      let args ← callArguments self
      node .importCall start [args]
  else
    let args ← callArguments self
    node .importCall start [args]

def primary : Parse Node := do
  let start ← here
  match ← token with
  | .number =>
      advance
      node .literal start []
  | .text s =>
      advance
      node (.text s) start []
  | .punct p =>
      if p == "(" then parenthesized self
      else if p == "[" then arrayLiteral self
      else if p == "\x7b" then objectLiteral self
      else if p == "\x60" then template self true
      else if p == "/" || p == "/=" then regex
      else if p == "@" then
        let ds ← decorators self
        expectWord "class"
        classTail self .classExpr start ds false
      else fail
  | .name s escaped =>
      if escaped then
        let s ← plainName
        let n ← node (.use s false) start []
        if (← setting).arrowAt == some start && !(← newline) && (← isPunct "=>") then
          arrowTail self start false [] (.mk .params n.span [.mk (.bind s false) n.span []]) []
        else pure n
      else if ["this", "null", "true", "false"].contains s then
        advance
        node .literal start []
      else if s == "function" then
        advance
        let f ← functionAfterWord self .function start false false
        failIf (f.part? .body).isNone
        pure f
      else if s == "class" then
        advance
        classTail self .classExpr start [] false
      else if s == "super" then superStart self
      else if s == "import" then importStart self
      else if s == "async" then asyncStart self
      else
        let s ← plainName
        let n ← node (.use s false) start []
        if (← setting).arrowAt == some start && !(← newline) && (← isPunct "=>") then
          faultIf (isFixedName s)
          arrowTail self start false [] (.mk .params n.span [.mk (.bind s false) n.span []]) []
        else pure n
  | .privateName _ | .done | .invalid => fail

/-- The link as part of an optional chain, when there is one. -/
def linked (chained : Bool) (n : Node) : Node :=
  if chained then .mk .chain n.span [n] else n

/-- What follows types between angle brackets shows that they belong to the expression before. -/
def typeArgumentsEnd : Parse Bool := do
  let t ← token
  if t == .punct "<" || t == .punct ">" || t == .punct "+" || t == .punct "-" then pure false
  else if ← newline then pure true
  else
    let operator := match ← operatorAhead with
      | some (op, _) => (operatorRank? op).isSome
      | none => t == .name "as" false || t == .name "satisfies" false
    pure (operator || !startsExpression t)

/-- A call, template or bare instantiation with types given. -/
def typedLink (start : Nat) (object : Node) (noCall : Bool) : Parse Node := do
  let ts ← typeArguments self
  if ← isPunct "(" then
    failIf noCall
    let args ← callArguments self
    if object.inChain then
      let c ← node .chainCall start [object, ts, args]
      pure (linked true c)
    else node .call start [object, ts, args]
  else if ← isPunct "\x60" then
    failIf object.inChain
    let t ← template self false
    node .tagged start [object, ts, t]
  else
    failIf (!(← typeArgumentsEnd))
    node .instantiation start [object, ts]

/-- A link after `?.`. -/
def optionalLink (start : Nat) (object : Node) : Parse Node := do
  if ← isPunct "(" then
    let args ← callArguments self
    return linked true (← node .chainCall start [object, args])
  else if ← eat "[" then
    let e ← enclosed (self .expression)
    expect "]"
    return linked true (← node .index start [object, e])
  else if (← typed) && (← angleAhead) then
    let ts ← typeArguments self
    let args ← callArguments self
    return linked true (← node .chainCall start [object, ts, args])
  else return linked true (← dotted start object)

/-- The members, calls and templates that follow an expression. -/
def links (start : Nat) (object : Node) (noCall : Bool) : Parse Node :=
  loop (fun (object : Node) => do
    let chained := object.inChain
    if ← eat "." then return (linked chained (← dotted start object), true)
    else if ← isPunct "?." then
      failIf noCall
      advance
      return (← optionalLink self start object, true)
    else if ← eat "[" then
      let e ← enclosed (self .expression)
      expect "]"
      return (linked chained (← node .index start [object, e]), true)
    else if !noCall && (← isPunct "(") then
      let args ← callArguments self
      if chained then return (linked true (← node .chainCall start [object, args]), true)
      else return (← node .call start [object, args], true)
    else if ← isPunct "\x60" then
      failIf chained
      let t ← template self false
      return (← node .tagged start [object, t], true)
    else if (← typed) && (← isPunct "!") && !(← newline) then
      advance
      return (← node .nonNull start [object], true)
    else if (← typed) && (← angleAhead) then
      match ← trial (typedLink self start object noCall) with
      | some n => return (n, true)
      | none => return (object, false)
    else return (object, false)) object

/-- A construction; the cursor is at `new`. -/
def newExpression : Parse Node := do
  let start ← here
  expectWord "new"
  if ← eat "." then
    expectWord "target"
    faultIf (!(← setting).constructible)
    node .literal start []
  else
    let callee ← within (fun s => { s with arrowAt := none }) (self .constructed)
    let ts ←
      if (← typed) && (← angleAhead) then
        trial (do
          let ts ← typeArguments self
          failIf (!(← isPunct "("))
          pure ts)
      else pure none
    let args ← if ← isPunct "(" then pure [← callArguments self] else pure []
    node .construct start (callee :: (ts.toList ++ args))

def constructed : Parse Node := do
  let start ← here
  let e ← if ← isWord "new" then newExpression self else primary self
  failIf (e.kind == .importCall)
  links self start e true

def leftHand : Parse Node := do
  let start ← here
  if (← setting).markup && (← isPunct "<") then
    let m ← self .markup
    advance
    pure m
  else
    let e ← if ← isWord "new" then newExpression self else primary self
    if e.kind == .arrow then pure e else links self start e false

/-! ### Operators -/

def postfixOperation : Parse Node := do
  let start ← here
  let e ← self .leftHand
  if e.kind != .arrow && !(← newline) && (← isAnyPunct ["++", "--"]) then
    faultIf (!e.isPlace)
    advance
    node .update start [e]
  else pure e

/-- A type between angle brackets before an expression. -/
def typeAssertion : Parse Node := do
  let start ← here
  openAngle
  let t ←
    if (← isWord "const") && (← followedBy ">") then
      advance
      pure []
    else pure [← self .type]
  expect ">"
  let e ← self .unary
  node .assertion start (t ++ [e])

def awaitExpression : Parse Node := do
  let start ← here
  let s ← setting
  faultIf ((s.inFunction && !s.async) || s.inParams)
  advance
  let e ← self .unary
  node .await start [e]

/-- What `delete` may stand before: not a name, and in a language with types only a property. -/
def isDeletable (typed : Bool) (e : Node) : Bool :=
  match e.bare with
  | .mk (.use _ _) _ _ => false
  | .mk .chain _ [p] => !typed || p.isProperty
  | p => !typed || p.isProperty

def unary : Parse Node := do
  let start ← here
  match ← token with
  | .punct p =>
      if ["+", "-", "~", "!"].contains p then
        advance
        let e ← self .unary
        node (.unary p) start [e]
      else if p == "++" || p == "--" then
        advance
        let e ← self .unary
        faultIf (!e.isPlace)
        node .update start [e]
      else if (p == "<" || p == "<<") && (← typed) && !(← setting).markup then typeAssertion self
      else postfixOperation self
  | .name s false =>
      if ["delete", "void", "typeof"].contains s then
        advance
        let e ← self .unary
        faultIf (s == "delete" && !isDeletable (← typed) e)
        node (.unary s) start [e]
      else if s == "await" then awaitExpression self
      else postfixOperation self
  | _ => postfixOperation self

/-- The two operators cannot stand next to each other without parentheses. -/
def mixesDefaults (op : String) (operand : Node) : Bool :=
  match operand.kind with
  | .binary other =>
      (op == "??" && (other == "||" || other == "&&"))
        || ((op == "||" || op == "&&") && other == "??")
  | _ => false

/-- The first operand of an operation: an operand of its own, or a private name before `in`. -/
def firstOperand (rank : Nat) : Parse Node := do
  match ← token with
  | .privateName s =>
      let start ← here
      advance
      failIf (rank ≥ 7 || !((← operatorAhead).any fun (op, _) => op == "in"))
      node (.word ("#" ++ s)) start []
  | _ => self .unary

def operation (rank : Nat) : Parse Node := do
  let start ← here
  let first ← firstOperand self rank
  match first.kind with
  | .arrow => pure first
  | _ =>
      loop (fun (left : Node) => do
        if (← typed) && rank < 7 && !(← newline) && (← isWord "as") then
          advance
          if ← eatWord "const" then return (← node .cast start [left], true)
          else
            let t ← self .type
            return (← node .cast start [left, t], true)
        else if (← typed) && rank < 7 && !(← newline) && (← isWord "satisfies") then
          advance
          let t ← self .type
          return (← node .cast start [left, t], true)
        else match ← operatorAhead with
          | none => return (left, false)
          | some (op, after) =>
              match operatorRank? op with
              | none => return (left, false)
              | some r =>
                  if r ≤ rank then return (left, false)
                  else
                    failIf (op == "**" && match left.kind with
                      | .unary _ | .await => true
                      | _ => false)
                    moveTo (.at after)
                    let right ← self (.operation (if op == "**" then r - 1 else r))
                    faultIf (mixesDefaults op left || mixesDefaults op right)
                    return (← node (.binary op) start [left, right], true)) first

def yieldExpression : Parse Node := do
  let start ← here
  advance
  faultIf (← setting).inParams
  if (← newline) || !((← isPunct "*") || startsExpression (← token)) then node .yield start []
  else
    let _ ← eat "*"
    let e ← self .assignment
    node .yield start [e]

def assignmentBase : Parse Node := do
  if (← setting).generator && (← isWord "yield") then yieldExpression self
  else
    let start ← here
    let arrowAt := match ← token with
      | .name _ _ => some start
      | .punct p => if p == "(" then some start else none
      | _ => none
    let test ← within (fun s => { s with arrowAt := arrowAt }) (self (.operation 0))
    match test.kind with
    | .arrow => pure test
    | k =>
        if ← isPunct "?" then branches self start test
        else match k with
          | .binary _ | .unary _ | .update => pure test
          | _ => assignmentTail self start test

def assignment : Parse Node := do
  let start ← here
  if (← typed) && (← angleAhead) then
    let asMarkup ← if (← setting).markup then trial (assignmentBase self) else pure none
    match asMarkup with
    | some e => pure e
    | none =>
        let named := match (← following).token with
          | .name _ _ => true
          | _ => false
        let generic ←
          if named then
            trial (do
              let ts ← typeParameters self .ofFunction
              let e ← within (fun s => { s with colonAhead := false }) (assignmentBase self)
              failIf (e.kind != .arrow)
              return .mk .arrow ⟨start, e.stop⟩ (ts :: e.parts))
          else pure none
        match generic with
        | some f => pure f
        | none => assignmentBase self
  else assignmentBase self

def expression : Parse Node := do
  let start ← here
  let first ← self .assignment
  if ← isPunct "," then
    let es ← loop (fun es => do
      if ← eat "," then
        let e ← self .assignment
        pure (e :: es, true)
      else pure (es, false)) [first]
    node .sequence start es.reverse
  else pure first

end Parse

end ServerLink.Script
