import ServerLink.Pattern.Cursor

/-!
The elements of patterns that stand for single characters or assertions, and what a backslash
makes of the characters behind it.
-/

set_option autoImplicit false

namespace ServerLink.Pattern

namespace Read

/-- One element of a pattern, as it stands in a class or outside of one. -/
inductive Item where
  | char (n : Nat) (byte : Bool)
  | set (s : CharSet)
  | assertion (a : Assertion)

def isMeta (c : Char) : Bool := "\\.+*?()|[]\x7b\x7d^$#&-~".toList.contains c

/-- The character stands for itself behind a backslash. -/
def isEscapable (c : Char) : Bool :=
  isMeta c || (c.toNat < 128 && !c.isAlphanum && c != '<' && c != '>')

def hexValue? (c : Char) : Option Nat :=
  if '0' ≤ c && c ≤ '9' then some (c.toNat - 48)
  else if 'a' ≤ c && c ≤ 'f' then some (c.toNat - 87)
  else if 'A' ≤ c && c ≤ 'F' then some (c.toNat - 55)
  else none

def isScalar (n : Nat) : Bool := n < 0xD800 || (0xDFFF < n && n < 0x110000)

/-- Exactly `count` more hexadecimal digits, the cursor being at the first of them. -/
def hexDigits (value : Nat) : Nat → Read Nat
  | 0 => pure value
  | count + 1 => do
      match hexValue? (← current) with
      | none => fail
      | some d =>
          let _ ← bumpSpace
          hexDigits (value * 16 + d) count

/-- Hexadecimal digits up to a closing brace. -/
def hexBraced (fuel value count : Nat) : Read Nat := do
  match fuel with
  | 0 => fail
  | fuel + 1 =>
      advance
      let c ← current
      if c = '\x7d' then
        failIf (count == 0)
        let _ ← bumpSpace
        pure value
      else match hexValue? c with
        | none => fail
        | some d => hexBraced fuel (value * 16 + d) (count + 1)

/-- A character given by its number; the cursor is at the letter that says how. -/
def hexChar : Read Item := do
  let letter ← current
  let digits := if letter = 'x' then 2 else if letter = 'u' then 4 else 8
  advance
  let n ← if (← current) = '\x7b' then do hexBraced ((← rest).length + 1) 0 0
    else hexDigits 0 digits
  failIf (!isScalar n)
  return .char n (letter = 'x')

/-- The characters up to a closing brace. -/
def braced (fuel : Nat) (name : List Char) : Read (List Char) := do
  match fuel with
  | 0 => fail
  | fuel + 1 =>
      advance
      let c ← current
      if c = '\x7d' then pure name.reverse else braced fuel (c :: name)

/-- The name of a property, and its value where both are given. -/
def splitQuery (name : List Char) : Bool × List Char × Option (List Char) :=
  let rec search (before : List Char) : List Char → Option (Bool × List Char × List Char)
    | '!' :: '=' :: after => some (true, before.reverse, after)
    | c :: cs => search (c :: before) cs
    | [] => none
  match search [] name with
  | some (differs, p, v) => (differs, p, some v)
  | none =>
      let separator := if name.contains ':' then ':' else '='
      if name.contains separator then
        (false, name.takeWhile (· != separator),
          some ((name.dropWhile (· != separator)).drop 1))
      else (false, name, none)

/-- A class of characters with a property. -/
def propertyClass : Read CharSet := do
  let negated := (← current) = 'P'
  advance
  let c ← current
  let name ←
    if c = '\x7b' then do
      let name ← braced ((← rest).length + 1) []
      let _ ← bumpSpace
      pure name
    else do
      failIf (c = '\\')
      let _ ← bumpSpace
      pure [c]
  failIf (!(← flags).unicode)
  let (differs, property, value) := splitQuery name
  match property? (String.ofList property) (value.map String.ofList) with
  | none => fail
  | some s =>
      let s := if (← flags).ignoreCase then .folded s else s
      return if negated != differs then .complement s else s

/-- A class that a single letter names; its complement when the letter is a capital. -/
def letterClass (c : Char) : Read CharSet := do
  let unicode := (← flags).unicode
  let s : CharSet ← match c.toLower with
    | 'd' => pure (if unicode then decimalDigits else .ranges [(48, 57)])
    | 's' => pure (if unicode then blanks else .ranges [(9, 13), (32, 32)])
    | _ => pure (if unicode then .word else .ranges [(48, 57), (65, 90), (95, 95), (97, 122)])
  if c.isUpper then
    failIf (!unicode)
    return .complement s
  else return s

/-- The kind of word boundary that stands between braces; `none` where the brace begins a
count. -/
def boundaryKind : Read (Option Assertion) := do
  let start ← rest
  advance
  let isNameChar (c : Char) : Bool := c.isAlpha || c = '-'
  if !isNameChar (← current) then
    setRest start
    return none
  else
    let rec name (fuel : Nat) (acc : List Char) : Read (List Char) := do
      match fuel with
      | 0 => fail
      | fuel + 1 =>
          let c ← current
          if isNameChar c then
            let _ ← bumpSpace
            name fuel (c :: acc)
          else pure acc.reverse
    let n ← name (start.length + 1) []
    failIf ((← current) != '\x7d')
    let _ ← bump
    match String.ofList n with
    | "start" => return some .wordStart
    | "end" => return some .wordEnd
    | "start-half" => return some .wordStartHalf
    | "end-half" => return some .wordEndHalf
    | _ => fail

/-- What a backslash and the characters after it say. -/
def escaped : Read Item := do
  if !(← bump) then fail
  let c ← current
  if c.isDigit then fail
  else if c = 'x' || c = 'u' || c = 'U' then hexChar
  else if c = 'p' || c = 'P' then return .set (← propertyClass)
  else
    let _ ← bump
    if "dswDSW".toList.contains c then return .set (← letterClass c)
    else if isEscapable c then return .char c.toNat false
    else match c with
      | 'a' => return .char 7 false
      | 'f' => return .char 12 false
      | 't' => return .char 9 false
      | 'n' => return .char 10 false
      | 'r' => return .char 13 false
      | 'v' => return .char 11 false
      | 'A' => return .assertion .textStart
      | 'z' => return .assertion .textEnd
      | 'b' =>
          if (← peek) == some '\x7b' then
            return .assertion ((← boundaryKind).getD .boundary)
          else return .assertion .boundary
      | 'B' => return .assertion .noBoundary
      | '<' => return .assertion .wordStart
      | '>' => return .assertion .wordEnd
      | _ => fail

end Read

end ServerLink.Pattern
