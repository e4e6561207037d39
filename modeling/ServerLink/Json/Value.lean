import ServerLink.Json.Number
import ServerLink.Json.Text
import ServerLink.Pattern.Property

/-!
Values in JSON: read and kept, passed over, or found where something else was expected.
-/

set_option autoImplicit false

namespace ServerLink.Json

inductive Value where
  | null
  | bool (b : Bool)
  | number (n : Number)
  | text (s : String)
  | list (vs : List Value)
  | object (entries : List (String × Value))

/-! ### What was found -/

/-- The character can be shown as it is. -/
def isShown (c : Char) : Bool :=
  let n := c.toNat
  c = ' ' || (Pattern.assigned.memCode n && !Pattern.separators.memCode n
    && !(Pattern.unionOf [.control, .format, .privateUse]).memCode n
    && !Pattern.graphemeExtend.set.memCode n)

def shownChar (c : Char) : List Char :=
  match c with
  | '\x00' => ['\\', '0']
  | '\t' => ['\\', 't']
  | '\n' => ['\\', 'n']
  | '\r' => ['\\', 'r']
  | '"' => ['\\', '"']
  | '\\' => ['\\', '\\']
  | c =>
      if isShown c then [c] else ['\\', 'u', '\x7b'] ++ Nat.toDigits 16 c.toNat ++ ['\x7d']

/-- A text between quotes, with numbers for the characters that cannot be shown. -/
def shown (s : String) : String :=
  "\"" ++ String.ofList (s.toList.flatMap shownChar) ++ "\""

/-- What a value is, as far as it matters where it does not fit. -/
def Value.described : Value → String
  | .null => "null"
  | .bool b => "boolean `" ++ (if b then "true" else "false") ++ "`"
  | .number n => n.text
  | .text s => "string " ++ shown s
  | .list _ => "sequence"
  | .object _ => "map"

def mismatchText (found : Value) (expected : String) : String :=
  "invalid type: " ++ found.described ++ ", expected " ++ expected

namespace Read

/-- A word, a number or a string; of a list or an object only the bracket is looked at. -/
def scalar : Read Value := do
  match ← peek with
  | some 'n' =>
      advance
      word "ull"
      return .null
  | some 't' =>
      advance
      word "rue"
      return .bool true
  | some 'f' =>
      advance
      word "alse"
      return .bool false
  | some '-' =>
      advance
      return .number (← number false)
  | some '"' =>
      advance
      return .text (← text)
  | some '[' => return .list []
  | some '\x7b' => return .object []
  | c =>
      if (digitValue? c).isSome then return .number (← number true)
      else failNext .valueExpected

/-- Fails for the value at the cursor. -/
def mismatch {α : Type} (expected : String) : Read α :=
  placed do unfit (mismatchText (← scalar) expected)

/-- Elements of a list up to its end. -/
def elements {α : Type} (element : Read α) : Nat → Bool → List α → Read (List α)
  | 0, _, done => return done.reverse
  | fuel + 1, first, done => do
      if ← hasElement first then
        let a ← element
        elements element fuel false (a :: done)
      else return done.reverse

/-- Key and value of the entries of an object up to its end. -/
def entries {α : Type} (value : Read α) : Nat → Bool → List (String × α) →
    Read (List (String × α))
  | 0, _, done => return done.reverse
  | fuel + 1, first, done => do
      if ← hasKey first then
        advance
        let key ← text
        colon
        let a ← value
        entries value fuel false ((key, a) :: done)
      else return done.reverse

/-- Any value, in which values nest less deep than `depth`. -/
def value : Nat → Read Value
  | 0 => failNext .tooDeep
  | depth + 1 => placed do
      let fuel ← left
      match ← skipBlanks with
      | none => failNext .valueEnds
      | some '[' =>
          enter
          return .list (← closed (elements (value depth) fuel true []) closeList)
      | some '\x7b' =>
          enter
          return .object (← closed (entries (value depth) fuel true []) closeObject)
      | some _ => scalar

/-- Lists and objects nest no deeper than this. -/
def depthLimit : Nat := 128

def anyValue : Read Value := value (depthLimit + 1)

/-! ### Values nobody asks for -/

/-- What is being passed over: a list or an object. -/
inductive Frame where
  | list
  | object

/-- Goes past the ends of lists and objects, and past a comma. Answers what is still open when an
element follows, nothing when all is closed. -/
def skipEnds : Nat → Bool → List Frame → Read (List Frame)
  | 0, _, frames => return frames
  | _, _, [] => return []
  | fuel + 1, afterValue, frame :: frames => do
      match ← skipBlanks, frame with
      | some ']', .list =>
          advance
          skipEnds fuel true frames
      | some '\x7d', .object =>
          advance
          skipEnds fuel true frames
      | some c, _ =>
          if !afterValue then return frame :: frames
          else if c = ',' then
            advance
            return frame :: frames
          else match frame with
            | .list => failNext .listGoesOn
            | .object => failNext .objectGoesOn
      | none, .list => failNext .listEnds
      | none, .object => failNext .objectEnds

/-- Goes past the key of an entry. -/
def skipKey : Read Unit := do
  match ← skipBlanks with
  | some '"' =>
      advance
      skipText
      colon
  | some _ => failNext .keyExpected
  | none => failNext .objectEnds

def skipLoop : Nat → List Frame → Read Unit
  | 0, _ => return
  | fuel + 1, frames => do
      let (afterValue, frames) ← (do
        match ← skipBlanks with
        | none => failNext .valueEnds
        | some '[' =>
            advance
            return (false, .list :: frames)
        | some '\x7b' =>
            advance
            return (false, .object :: frames)
        | some '"' =>
            advance
            skipText
            return (true, frames)
        | some '-' =>
            advance
            skipNumber
            return (true, frames)
        | some c =>
            if c.isDigit then skipNumber
            else
              let _ ← scalar
            return (true, frames) : Read (Bool × List Frame))
      match ← skipEnds (fuel + 1) afterValue frames with
      | [] => return
      | .list :: rest => skipLoop fuel (.list :: rest)
      | .object :: rest =>
          skipKey
          skipLoop fuel (.object :: rest)

/-- Goes past a value, however deep it nests. -/
def skipValue : Read Unit := do
  skipLoop ((← left) + 1) []

end Read

end ServerLink.Json
