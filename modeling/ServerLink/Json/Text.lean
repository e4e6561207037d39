import ServerLink.Json.Cursor

/-!
Strings in JSON. The cursor is behind the opening quote when reading begins, and behind the
closing one when it ends.
-/

set_option autoImplicit false

namespace ServerLink.Json.Read

def hexValue? (c : Char) : Option Nat :=
  if '0' ≤ c && c ≤ '9' then some (c.toNat - 48)
  else if 'a' ≤ c && c ≤ 'f' then some (c.toNat - 87)
  else if 'A' ≤ c && c ≤ 'F' then some (c.toNat - 55)
  else none

/-- The number of bytes of a text, up to four. -/
def bytesAhead (cs : List Char) : Nat :=
  (cs.take 4).foldl (fun n c => n + c.utf8Size) 0

/-- Four hexadecimal digits; four bytes are taken in any case. -/
def hexFour : Read Nat := do
  let c ← get
  let ahead := c.rest.take 4
  if bytesAhead c.rest < 4 then
    let total := c.rest.foldl (fun n c => n + c.utf8Size) 0
    throw ⟨.textEnds, some (c.place.after c.rest total)⟩
  else if ahead.length == 4 && ahead.all fun d => (hexValue? d).isSome then
    set { c with rest := c.rest.drop 4, place := c.place.after c.rest 4 }
    return ahead.foldl (fun n d => n * 16 + (hexValue? d).getD 0) 0
  else throw ⟨.invalidEscape, some (c.place.after c.rest 4)⟩

/-- The second half of a pair of surrogates has to begin with this character. -/
def surrogateSign (sign : Char) : Read Unit := do
  match ← peek with
  | none => failHere .textEnds
  | some c =>
      if c = sign then advance
      else failNext .surrogateMissing

/-- A character given by its number; beyond the first plane it takes two. -/
def escapedNumber : Read Char := do
  let n ← hexFour
  if 0xDC00 ≤ n && n ≤ 0xDFFF then failHere .loneSurrogate
  else if n < 0xD800 || 0xDBFF < n then return Char.ofNat n
  else
    surrogateSign '\\'
    surrogateSign 'u'
    let m ← hexFour
    if m < 0xDC00 || 0xDFFF < m then failHere .loneSurrogate
    else return Char.ofNat ((n - 0xD800) * 1024 + (m - 0xDC00) + 0x10000)

/-- The character that a letter behind a backslash stands for. -/
def shortEscape? (c : Char) : Option Char :=
  match c with
  | '"' => some '"'
  | '\\' => some '\\'
  | '/' => some '/'
  | 'b' => some '\x08'
  | 'f' => some '\x0c'
  | 'n' => some '\n'
  | 'r' => some '\r'
  | 't' => some '\t'
  | _ => none

def escape : Read Char := do
  match ← next with
  | none => failHere .textEnds
  | some 'u' => escapedNumber
  | some c =>
      match shortEscape? c with
      | some d => pure d
      | none => failHere .invalidEscape

def textLoop : Nat → List Char → Read (List Char)
  | 0, _ => failHere .textEnds
  | fuel + 1, done => do
      match ← peek with
      | none => failHere .textEnds
      | some '"' =>
          advance
          return done.reverse
      | some '\\' =>
          advance
          let c ← escape
          textLoop fuel (c :: done)
      | some c =>
          advance
          if c.toNat < 0x20 then failHere .controlCharacter else textLoop fuel (c :: done)

/-- The value of a string. -/
def text : Read String := do
  return String.ofList (← textLoop ((← left) + 1) [])

def skipEscape : Read Unit := do
  match ← next with
  | none => failHere .textEnds
  | some 'u' =>
      let _ ← hexFour
  | some c => if (shortEscape? c).isNone then failHere .invalidEscape

def skipTextLoop : Nat → Read Unit
  | 0 => failHere .textEnds
  | fuel + 1 => do
      match ← peek with
      | none => failHere .textEnds
      | some '"' => advance
      | some '\\' =>
          advance
          skipEscape
          skipTextLoop fuel
      | some c =>
          if c.toNat < 0x20 then failHere .controlCharacter
          else
            advance
            skipTextLoop fuel

/-- Goes past a string whose value nobody asks for; halves of characters may stand alone in it. -/
def skipText : Read Unit := do
  skipTextLoop ((← left) + 1)

end ServerLink.Json.Read
