import ServerLink.Script.Grammar.Statement

/-!
Imports and exports.
-/

set_option autoImplicit false

namespace ServerLink.Script.Parse

variable (self : Goal → Parse Node)

/-- The name of a module, as it is written between quotes. -/
def moduleText : Parse String := do
  match ← token with
  | .text s => advance; pure s
  | _ => fail

/-- The options that say how a module is loaded. -/
def importOptions : Parse (List Node) := do
  if ← newline then pure []
  else if (← isWord "with") || ((← typed) && (← isWord "assert")) then
    advance
    return [← objectLiteral self]
  else pure []

def nameAhead : Parse Bool := do
  match ← token with
  | .name _ _ => pure true
  | _ => pure false

/-- A name or text by which a module knows one of its exports. -/
def exportName : Parse (String × Bool) := do
  match ← token with
  | .name s _ => advance; pure (s, false)
  | .text s => advance; pure (s, true)
  | _ => fail

/-- The words of one entry of an import or export list. -/
structure Entry where
  name : String
  isText : Bool
  span : Span
  /-- The name on the other side, if the entry gives one. -/
  other : Option (String × Bool × Span)
  typeOnly : Bool

/-- One more name of an entry, whether it is text, and its span. -/
def entryName : Parse (String × Bool × Span) := do
  let start ← here
  let (s, isText) ← exportName
  return (s, isText, ⟨start, ← lastStop⟩)

/-- An entry of a list. The word `type` makes the entry one of a type, unless the words after it
show that it is itself the name. -/
def entry : Parse Entry := do
  let start ← here
  let (s, isText) ← exportName
  let span : Span := ⟨start, ← lastStop⟩
  let plain (name : String) (isText : Bool) (span : Span) (typeOnly : Bool) : Parse Entry := do
    if ← eatWord "as" then
      let other ← entryName
      return ⟨name, isText, span, some other, typeOnly⟩
    else return ⟨name, isText, span, none, typeOnly⟩
  if (← typed) && s == "type" && !isText && (← nameAhead) then
    let (second, secondIsText, secondSpan) ← entryName
    if second != "as" then plain second secondIsText secondSpan true
    else if !(← nameAhead) then return ⟨"as", false, secondSpan, none, true⟩
    else
      let third ← entryName
      if third.1 != "as" then return ⟨"type", false, span, some third, false⟩
      else if ← nameAhead then
        let fourth ← entryName
        return ⟨"as", false, secondSpan, some fourth, true⟩
      else return ⟨"type", false, span, some third, false⟩
  else plain s isText span false

/-! ### Imports -/

def importEntry (allTypes : Bool) : Parse Node := do
  let start ← here
  let e ← entry
  faultIf (e.typeOnly && allTypes)
  let (name, span) ← match e.other with
    | some (s, isText, span) => (do
        failIf isText
        pure (s, span))
    | none => (do
        failIf e.isText
        pure (e.name, e.span))
  faultIf (e.other.isSome && (isReserved name || isStrictReserved name || isFixedName name))
  node (.importSpec (.named e.name) e.typeOnly) start [.mk (.bind name false) span []]

def wholeImport (imported : Imported) (start : Nat) : Parse Node := do
  let s ← here
  let name ← bindingName
  let b ← node (.bind name false) s []
  node (.importSpec imported false) start [b]

/-- A name for what another module or namespace holds; the cursor is at the equals sign. -/
def importAlias (start : Nat) (name : Node) : Parse Node := do
  expect "="
  if (← isWord "require") && (← followedBy "(") then
    advance
    advance
    let _ ← moduleText
    expect ")"
    semicolon
    node .importAlias start [name]
  else
    let e ← entityName
    semicolon
    node .importAlias start [name, e]

/-- Another name may be read here, and is not the word before the module's name. -/
def nameBeforeFrom : Parse Bool := do
  if isPlainName (← token) then
    if ← isWord "from" then return (← following).token == .name "from" false else return true
  else return false

/-- The parts of an import between its words and the module's name. -/
def importParts (start : Nat) : Parse (List Node × Bool) := do
  let rest (allTypes : Bool) : Parse (List Node) := do
    let s ← here
    if ← eat "*" then
      expectWord "as"
      return [← wholeImport .namespace s]
    else
      expect "\x7b"
      listUntil "\x7d" (importEntry allTypes)
  if isPlainName (← token) then
    let allTypes ←
      if (← typed) && (← isWord "type") then
        let ahead ← lookahead (do
          advance
          if ← isAnyPunct ["\x7b", "*"] then pure true
          else if ← nameBeforeFrom then pure true
          else
            failIf (!((← isWord "from") && (← followedBy "=")))
            pure true)
        if ahead.isSome then
          advance
          pure true
        else pure false
      else pure false
    if ← isAnyPunct ["\x7b", "*"] then return (← rest allTypes, allTypes)
    else
      let phased ← lookahead (do
        if ← eatWord "defer" then failIf (!(← isPunct "*"))
        else
          expectWord "source"
          failIf (!(← nameBeforeFrom)))
      if phased.isSome then advance
      if ← isPunct "*" then return (← rest allTypes, allTypes)
      else
        let s ← here
        let d ← wholeImport .default s
        if (← typed) && (← isPunct "=") then
          let a ← importAlias start (.mk (.bind "" false) d.span [])
          return ([.mk .importAlias a.span (d.parts ++ a.parts.drop 1)], allTypes)
        else if ← eat "," then
          let more ← rest allTypes
          return (d :: more, allTypes)
        else return ([d], allTypes)
  else return (← rest false, false)

def importItem : Parse Node := do
  let start ← here
  expectWord "import"
  match ← token with
  | .text s =>
      advance
      let options ← importOptions self
      let _ ← eat ";"
      node (.importDecl s false) start options
  | _ =>
      let (parts, allTypes) ← importParts start
      match parts with
      | [.mk .importAlias span ps] => pure (.mk .importAlias span ps)
      | _ =>
          expectWord "from"
          let s ← moduleText
          let options ← importOptions self
          semicolon
          node (.importDecl s allTypes) start (parts ++ options)

/-- `import` begins an expression here. -/
def importExpressionAhead : Parse Bool := do
  return (← followedBy "(") || (← followedBy ".")

/-! ### Exports -/

def fromModule : Parse String := do
  expectWord "from"
  let s ← moduleText
  let _ ← importOptions self
  semicolon
  pure s

/-- Everything another module exports. -/
def exportAll (start : Nat) : Parse Node := do
  expect "*"
  if ← eatWord "as" then
    let _ ← exportName
  let _ ← fromModule self
  node .exportAll start []

def exportList (start : Nat) (allTypes : Bool) : Parse Node := do
  expect "\x7b"
  let entries ← loop (fun (entries : List Entry) => do
    if ← isPunct "\x7d" then pure (entries, false)
    else
      let e ← entry
      faultIf (e.typeOnly && allTypes)
      if ← eat "," then pure (e :: entries, true) else pure (e :: entries, false)) []
  expect "\x7d"
  let entries := entries.reverse
  let source ←
    if ← isWord "from" then pure (some (← fromModule self))
    else
      faultIf (entries.any fun e => e.isText || isReserved e.name)
      semicolon
      pure none
  let specs := entries.map fun e =>
    let kind : Kind :=
      if source.isSome then .word e.name else if e.isText then .text e.name else .use e.name false
    let stop := match e.other with
      | some (_, _, s) => s.stop
      | none => e.span.stop
    Node.mk (.exportSpec ((e.other.map Prod.fst).getD e.name) e.typeOnly) ⟨e.span.start, stop⟩
      [.mk kind e.span []]
  node (.exportList source allTypes) start specs

def exportDefault (start : Nat) (ds : List Node) : Parse Node := do
  expectWord "default"
  let more ← decorators self
  let s ← here
  let ds := ds ++ more
  match ← functionDecl? self false with
  | some f => node .exportDefault start [f]
  | none =>
      if ← eatWord "class" then
        let c ← classTail self .classDecl s ds false
        node .exportDefault start [c]
      else
        let next ← following
        let abstractNext := (← typed) && (← isWord "abstract") &&
          next.token == .name "class" false && !next.newline
        if abstractNext then
          advance
          advance
          let c ← classTail self .classDecl s ds false
          node .exportDefault start [c]
        else if (← typed) && (← isWord "interface") && (← nameOnLine) then
          advance
          let i ← interfaceDecl self s
          node .exportDefault start [i]
        else
          failIf (!ds.isEmpty)
          let e ← enclosed (self .assignment)
          semicolon
          node .exportDefault start [e]

/-- An export that only languages with types know. -/
def typedExport? (start : Nat) : Parse (Option Node) := do
  if !(← typed) then return none
  else if ← eat "=" then
    let e ← enclosed (self .expression)
    semicolon
    return some (← node .exportAssign start [e])
  else
    let next := (← following).token
    if (← isWord "as") && next == .name "namespace" false then
      advance
      advance
      let _ ← plainName
      semicolon
      return some (← node .statement start [])
    else if ← isWord "import" then
      advance
      let typeNext ← lookahead (do
        expectWord "type"
        let _ ← plainName
        expect "=")
      if typeNext.isSome then advance
      let s ← here
      let name ← bindingName
      let n ← node (.bind name false) s []
      let a ← importAlias start n
      return some a
    else if (← isWord "type") && next == .punct "\x7b" then
      advance
      return some (← exportList self start true)
    else if (← isWord "type") && next == .punct "*" then
      advance
      return some (← exportAll self start)
    else return none

def exportItem (ds : List Node) : Parse Node := do
  let start ← here
  expectWord "export"
  if ← isPunct "*" then exportAll self start
  else if ← isPunct "\x7b" then exportList self start false
  else if ← isWord "default" then exportDefault self start ds
  else match ← typedExport? self start with
    | some e => pure e
    | none =>
        let more ← decorators self
        let s ← here
        match ← declaration? self s (ds ++ more) with
        | some d =>
            failIf (!(ds ++ more).isEmpty && d.kind != .classDecl && d.kind != .functionDecl)
            node .exportDecl start [d]
        | none => fail

def moduleItem : Parse Node := do
  if ← isWord "export" then exportItem self []
  else if (← isWord "import") && !(← importExpressionAhead) then importItem self
  else if ← isPunct "@" then
    let exported ← lookahead (do
      let ds ← decorators self
      failIf (!(← isWord "export"))
      pure ds)
    match exported with
    | some _ =>
        let ds ← decorators self
        exportItem self ds
    | none => item self
  else item self

end ServerLink.Script.Parse
