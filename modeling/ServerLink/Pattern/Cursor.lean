import ServerLink.Pattern.Expr
import ServerLink.Pattern.Property

/-!
Reading a pattern from left to right. Options such as `i` hold from where they are set to the end
of the group.
-/

set_option autoImplicit false

namespace ServerLink.Pattern

structure Flags where
  ignoreCase : Bool
  multiLine : Bool
  dotAll : Bool
  unicode : Bool
  spaced : Bool
  crlf : Bool
  deriving Repr

structure Reading where
  chars : List Char
  flags : Flags
  groupNames : List String

abbrev Read := StateT Reading Option

namespace Read

def fail {α : Type} : Read α := fun _ => none

def failIf (b : Bool) : Read Unit := if b then fail else pure ()

def flags : Read Flags := return (← get).flags

def setFlags (f : Flags) : Read Unit := modify fun r => { r with flags := f }

def rest : Read (List Char) := return (← get).chars

def setRest (cs : List Char) : Read Unit := modify fun r => { r with chars := cs }

/-- The next character, which stays unread. -/
def peek : Read (Option Char) := return (← get).chars.head?

/-- The next character, which there has to be. -/
def current : Read Char := do
  match ← peek with
  | some c => pure c
  | none => fail

def isBlankChar (c : Char) : Bool := blanks.mem c

/-- The text behind blanks and comments. -/
def dropSpace : List Char → Bool → List Char
  | [], _ => []
  | c :: cs, true => dropSpace cs (c != '\n')
  | c :: cs, false =>
      if isBlankChar c then dropSpace cs false
      else if c = '#' then dropSpace cs true
      else c :: cs

/-- Blanks and comments say nothing where patterns are spaced out. -/
def skipSpace : Read Unit := do
  if (← flags).spaced then setRest (dropSpace (← rest) false)

/-- Goes on to the next character; answers whether there is one. -/
def bump : Read Bool := do
  let cs ← rest
  setRest cs.tail
  return !cs.tail.isEmpty

def bumpSpace : Read Bool := do
  let _ ← bump
  skipSpace
  return !(← rest).isEmpty

/-- Goes on to the next character, which there has to be. -/
def advance : Read Unit := do
  if !(← bumpSpace) then fail

def eat (text : String) : Read Bool := do
  let cs ← rest
  if text.toList.isPrefixOf cs then
    setRest (cs.drop text.length)
    return true
  else return false

/-- The second next character, behind blanks where they say nothing. -/
def peekSecond (spaced : Bool) : Read (Option Char) := do
  let cs := (← rest).tail
  return (if spaced && (← flags).spaced then dropSpace cs false else cs).head?

end Read

end ServerLink.Pattern
