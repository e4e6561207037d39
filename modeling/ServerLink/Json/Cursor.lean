/-!
Reading JSON with exact places for what is wrong. A cursor walks over the text and counts lines and
bytes. A problem is placed where it is noticed; one that is noticed only after the text was read
has no place yet, and gets the place of the cursor when the value it belongs to ends.
-/

set_option autoImplicit false

namespace ServerLink.Json

inductive Cause where
  | listEnds
  | objectEnds
  | textEnds
  | valueEnds
  | colonExpected
  | listGoesOn
  | objectGoesOn
  | wordExpected
  | valueExpected
  | invalidEscape
  | invalidNumber
  | numberTooLarge
  | controlCharacter
  | keyExpected
  | loneSurrogate
  | commaAtEnd
  | moreCharacters
  | surrogateMissing
  | tooDeep
  /-- The value is read, but cannot be used. -/
  | unfit (text : String)
  deriving DecidableEq, Repr

def Cause.message : Cause → String
  | .listEnds => "EOF while parsing a list"
  | .objectEnds => "EOF while parsing an object"
  | .textEnds => "EOF while parsing a string"
  | .valueEnds => "EOF while parsing a value"
  | .colonExpected => "expected `:`"
  | .listGoesOn => "expected `,` or `]`"
  | .objectGoesOn => "expected `,` or `\x7d`"
  | .wordExpected => "expected ident"
  | .valueExpected => "expected value"
  | .invalidEscape => "invalid escape"
  | .invalidNumber => "invalid number"
  | .numberTooLarge => "number out of range"
  | .controlCharacter => "control character (\\u0000-\\u001F) found while parsing a string"
  | .keyExpected => "key must be a string"
  | .loneSurrogate => "lone leading surrogate in hex escape"
  | .commaAtEnd => "trailing comma"
  | .moreCharacters => "trailing characters"
  | .surrogateMissing => "unexpected end of hex escape"
  | .tooDeep => "recursion limit exceeded"
  | .unfit text => text

/-- A line, counted from one, and a number of bytes on it. -/
structure Place where
  line : Nat
  column : Nat
  deriving DecidableEq, Repr

structure Problem where
  cause : Cause
  place : Option Place
  deriving DecidableEq, Repr

def Problem.message (p : Problem) : String :=
  match p.place with
  | some there => p.cause.message ++ " at line " ++ toString there.line ++ " column "
      ++ toString there.column
  | none => p.cause.message

structure Cursor where
  rest : List Char
  place : Place
  /-- How many lists and objects more may be opened. -/
  depth : Nat

/-- The place after a number of bytes of the text. -/
def Place.after (p : Place) : List Char → Nat → Place
  | _, 0 => p
  | [], _ => p
  | c :: cs, n + 1 =>
      if c = '\n' then Place.after ⟨p.line + 1, 0⟩ cs n
      else if c.utf8Size ≤ n + 1 then
        Place.after ⟨p.line, p.column + c.utf8Size⟩ cs (n + 1 - c.utf8Size)
      else ⟨p.line, p.column + n + 1⟩

abbrev Read := ExceptT Problem (StateM Cursor)

namespace Read

/-- Fails at the cursor. -/
def failHere {α : Type} (cause : Cause) : Read α := do
  throw ⟨cause, some (← get).place⟩

/-- Fails one byte behind the cursor, where the byte that was looked at ends. -/
def failNext {α : Type} (cause : Cause) : Read α := do
  let c ← get
  throw ⟨cause, some (c.place.after c.rest 1)⟩

/-- Fails for a value that cannot be used. -/
def unfit {α : Type} (text : String) : Read α := throw ⟨.unfit text, none⟩

def peek : Read (Option Char) := return (← get).rest.head?

/-- Goes past the next character. -/
def advance : Read Unit := modify fun c =>
  match c.rest with
  | [] => c
  | x :: xs => { c with rest := xs, place := c.place.after c.rest x.utf8Size }

/-- The next character, which is gone past. -/
def next : Read (Option Char) := do
  let c ← peek
  advance
  return c

def isBlank (c : Char) : Bool := c == ' ' || c == '\n' || c == '\t' || c == '\r'

/-- Goes past blanks; answers the character behind them. -/
def skipBlanks : Read (Option Char) := do
  let c ← get
  let blanks := c.rest.takeWhile isBlank
  set { c with rest := c.rest.drop blanks.length, place := c.place.after c.rest blanks.length }
  peek

/-- The number of characters left, which bounds every loop over them. -/
def left : Read Nat := return (← get).rest.length

/-- Goes past the rest of a word. -/
def word (letters : String) : Read Unit :=
  letters.toList.forM fun letter => do
    match ← next with
    | none => failHere .valueEnds
    | some c => if c = letter then pure () else failHere .wordExpected

/-- Gives a problem without a place the place of the cursor. -/
def placed {α : Type} (r : Read α) : Read α := fun c =>
  match r.run c with
  | (.error ⟨cause, none⟩, c) => (.error ⟨cause, some c.place⟩, c)
  | other => other

/-- Goes into a list or an object, past its bracket. -/
def enter : Read Unit := do
  if (← get).depth ≤ 1 then failNext .tooDeep
  else
    modify fun c => { c with depth := c.depth - 1 }
    advance

def leave : Read Unit := modify fun c => { c with depth := c.depth + 1 }

/-- Reads what is between brackets. The end is looked for even if something is wrong inside, and
what is wrong inside is told first. -/
def closed {α : Type} (inside : Read α) (close : Read Unit) : Read α := fun c =>
  match inside.run c with
  | (.ok a, c) =>
      match (do leave; close : Read Unit).run c with
      | (.ok _, c) => (.ok a, c)
      | (.error p, c) => (.error p, c)
  | (.error p, c) =>
      let (_, c) := close.run c
      (.error p, c)

def closeList : Read Unit := do
  match ← skipBlanks with
  | some ']' => advance
  | some ',' =>
      advance
      if (← skipBlanks) == some ']' then failNext .commaAtEnd else failNext .moreCharacters
  | some _ => failNext .moreCharacters
  | none => failNext .listEnds

def closeObject : Read Unit := do
  match ← skipBlanks with
  | some '\x7d' => advance
  | some ',' => failNext .commaAtEnd
  | some _ => failNext .moreCharacters
  | none => failNext .objectEnds

/-- Another element follows in a list; the cursor is then at it. -/
def hasElement (first : Bool) : Read Bool := do
  let atElement (c : Option Char) : Read Bool :=
    match c with
    | some ']' => failNext .commaAtEnd
    | some _ => pure true
    | none => failNext .valueEnds
  match ← skipBlanks with
  | some ']' => return false
  | none => failNext .listEnds
  | some c =>
      if c = ',' && !first then
        advance
        atElement (← skipBlanks)
      else if first then return true
      else failNext .listGoesOn

/-- Another key follows in an object; the cursor is then at it. -/
def hasKey (first : Bool) : Read Bool := do
  let atKey (c : Option Char) : Read Bool :=
    match c with
    | some '"' => pure true
    | some '\x7d' => failNext .commaAtEnd
    | some _ => failNext .keyExpected
    | none => failNext .valueEnds
  match ← skipBlanks with
  | some '\x7d' => return false
  | none => failNext .objectEnds
  | some c =>
      if c = ',' && !first then
        advance
        atKey (← skipBlanks)
      else if first then atKey (some c)
      else failNext .objectGoesOn

def colon : Read Unit := do
  match ← skipBlanks with
  | some ':' => advance
  | some _ => failNext .colonExpected
  | none => failNext .objectEnds

end Read

end ServerLink.Json
