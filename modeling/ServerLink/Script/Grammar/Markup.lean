import ServerLink.Script.Grammar.TypeExpr

/-!
Markup: elements with attributes and children. Text between tags is no token, so children are
read from the text itself. An element ends at its last `>`, which is left as the current token;
who reads the element decides whether text or a token follows.
-/

set_option autoImplicit false

namespace ServerLink.Script.Parse

open Text

variable (self : Goal → Parse Node)

/-- The end of a run of text between tags; brackets and braces do not stand in it. -/
def markupText : List Char → Nat → Option Tail
  | [], _ => none
  | c :: cs, o =>
      if c = '<' || c = '\x7b' then some ⟨c :: cs, o⟩
      else if c = '>' || c = '\x7d' then none
      else markupText cs (o + c.utf8Size)

/-- A name in markup, in which hyphens may stand. -/
def markupName : Parse String := do
  match ← token with
  | .name _ false =>
      let t := (← cursor).here
      let (name, rest) := t.chars.span fun c => isNameContinue c || c == '-'
      moveTo (.at ⟨rest, t.offset + byteLength name⟩)
      pure (String.ofList name)
  | _ => fail

/-- The name of an element. A plain name that begins with a small letter means nothing declared. -/
def elementName : Parse (String × Node) := do
  let start ← here
  let s ← markupName
  if ← eat ":" then
    let t ← markupName
    return (s ++ ":" ++ t, ← node (.word t) start [])
  else if ← isPunct "." then
    let n ← node (.use s false) start []
    loop (fun ((s, n) : String × Node) => do
      if ← eat "." then
        let p ← markupName
        return ((s ++ "." ++ p, ← node (.member p) start [n]), true)
      else return ((s, n), false)) (s, n)
  else if s.toList.head?.any (fun c => 'a' ≤ c && c ≤ 'z') || s.toList.contains '-' then
    return (s, ← node (.word s) start [])
  else return (s, ← node (.use s false) start [])

def attributeValue : Parse Node := do
  let c ← cursor
  let start := c.next.offset
  let quotedValue := match Tail.skipGap .code c.next.chars c.next.offset false with
    | some (⟨q :: cs, o⟩, _) =>
        if q = '"' || q = '\'' then Tail.takeVerbatim q cs (o + 1) else none
    | _ => none
  match quotedValue with
  | some rest =>
      moveTo (.at rest)
      node .literal start []
  | none =>
      advance
      let start ← here
      if ← eat "\x7b" then
        let e ← within (fun s => { s with allowIn := true }) (self .expression)
        expect "\x7d"
        node .markup start [e]
      else if ← isPunct "<" then
        let e ← self .markup
        advance
        pure e
      else fail

def elementProperty : Parse Node := do
  let start ← here
  if ← eat "\x7b" then
    expect "..."
    let e ← self .assignment
    expect "\x7d"
    node .markup start [e]
  else
    let _ ← markupName
    if ← eat ":" then
      let _ ← markupName
    if ← isPunct "=" then
      let v ← attributeValue self
      node .markup start [v]
    else node .markup start []

/-- An expression between braces among children; the closing brace stays the current token. -/
def substitution : Parse (List Node) := do
  if ← isPunct "\x7d" then pure []
  else
    let _ ← eat "..."
    let e ← within (fun s => { s with allowIn := true }) (self .expression)
    failIf (!(← isPunct "\x7d"))
    pure [e]

/-- Children up to a closing tag, at whose name the cursor then stands; `t` follows the `>` of
the opening tag. -/
def children (t : Tail) : Parse (List Node) := do
  let (parts, _) ← loop (fun ((parts, t) : List Node × Tail) => do
    match markupText t.chars t.offset with
    | none => fail
    | some t =>
        moveTo (.at t)
        if ← eat "\x7b" then
          let e ← substitution self
          pure ((e ++ parts, (← cursor).next), true)
        else if ← followedBy "/" then
          advance
          advance
          pure ((parts, t), false)
        else
          let e ← self .markup
          pure ((e :: parts, (← cursor).next), true)) ([], t)
  pure parts.reverse

/-- The tree of markup whose last token is the current one. -/
def markupNode (start : Nat) (parts : List Node) : Parse Node := do
  failIf (!(← isPunct ">"))
  return .mk .markup ⟨start, (← cursor).next.offset⟩ parts

def element : Parse Node := do
  let start ← here
  expect "<"
  if ← isPunct ">" then
    let parts ← children self (← cursor).next
    markupNode start parts
  else
    let (name, n) ← elementName
    let args ← typeArguments? self
    let attributes ← loop (fun as => do
      if ← isAnyPunct [">", "/"] then pure (as, false)
      else
        let a ← elementProperty self
        pure (a :: as, true)) []
    let opened := n :: (args ++ attributes.reverse)
    if ← eat "/" then markupNode start opened
    else
      let parts ← children self (← cursor).next
      let (closing, _) ← elementName
      failIf (closing != name)
      markupNode start (opened ++ parts)

end ServerLink.Script.Parse
