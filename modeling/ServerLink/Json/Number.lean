import ServerLink.Json.Cursor
import ServerLink.Text.Decimal

/-!
Numbers in JSON. Whole numbers of 64 bits are kept, all others become numbers in floating point;
digits beyond what 64 bits hold only count for the exponent.
-/

set_option autoImplicit false

namespace ServerLink.Json

inductive Number where
  | natural (n : Nat)
  /-- Less than zero. -/
  | negative (magnitude : Nat)
  | real (x : Float)

def Number.text : Number → String
  | .natural n => "integer `" ++ toString n ++ "`"
  | .negative n => "integer `-" ++ toString n ++ "`"
  | .real x => "floating point `" ++ Text.floatText x ++ "`"

/-- The next digit would not fit into 64 bits. -/
def overflows (n digit : Nat) : Bool := 1 <<< 64 ≤ n * 10 + digit

namespace Read

def digitValue? (c : Option Char) : Option Nat :=
  match c with
  | some c => if c.isDigit then some (c.toNat - 48) else none
  | none => none

def isExponentSign (c : Option Char) : Bool := c == some 'e' || c == some 'E'

/-- Goes past digits; answers how many there were. -/
def skipDigits : Read Nat := do
  let c ← get
  let n := (c.rest.takeWhile Char.isDigit).length
  set { c with rest := c.rest.drop n, place := c.place.after c.rest n }
  return n

/-- A power of ten in floating point. -/
def power10 (k : Nat) : Float := Float.ofScientific 1 false k

/-- A number times a power of ten, which may be out of reach for both. -/
def scaled : Nat → Float → Int → Option Float
  | 0, x, _ => some x
  | fuel + 1, x, k =>
      if k.natAbs ≤ 308 then
        if 0 ≤ k then
          let y := x * power10 k.toNat
          if y.isInf then none else some y
        else some (x / power10 (-k).toNat)
      else if x == 0.0 then some x
      else if 0 ≤ k then none
      else scaled fuel (x / power10 308) (k + 308)

def fromParts (positive : Bool) (n : Nat) (k : Int) : Read Float := do
  match scaled 5 (Float.ofNat n) k with
  | some x => return if positive then x else -x
  | none => failHere .numberTooLarge

def exponentDigits : Nat → Nat → Read (Option Nat)
  | 0, e => return some e
  | fuel + 1, e => do
      match digitValue? (← peek) with
      | none => return some e
      | some d =>
          advance
          if 1 <<< 31 ≤ e * 10 + d then return none else exponentDigits fuel (e * 10 + d)

/-- The exponent of a number; the cursor is at its sign. -/
def exponentPart (positive : Bool) (n : Nat) (k : Int) : Read Float := do
  advance
  let sign ← peek
  let up := sign != some '-'
  if sign == some '+' || sign == some '-' then advance
  match ← next with
  | none => failHere .valueEnds
  | some c =>
      match digitValue? (some c) with
      | none => failHere .invalidNumber
      | some d =>
          match ← exponentDigits (← left) d with
          | some e => fromParts positive n (if up then k + e else k - e)
          | none =>
              if n ≠ 0 && up then failHere .numberTooLarge
              else
                let _ ← skipDigits
                return if positive then 0.0 else -0.0

def maybeExponent (positive : Bool) (n : Nat) (k : Int) : Read Float := do
  if isExponentSign (← peek) then exponentPart positive n k else fromParts positive n k

/-- The digits behind the point; how many counted, and whether any did not fit. -/
def fractionDigits : Nat → Nat → Nat → Read (Nat × Nat × Bool)
  | 0, n, count => return (n, count, false)
  | fuel + 1, n, count => do
      match digitValue? (← peek) with
      | none => return (n, count, false)
      | some d =>
          if overflows n d then return (n, count, true)
          else
            advance
            fractionDigits fuel (n * 10 + d) (count + 1)

/-- The part of a number from its point on. -/
def fractionPart (positive : Bool) (n : Nat) (k : Int) : Read Float := do
  advance
  let (n, count, full) ← fractionDigits (← left) n 0
  if full then
    let _ ← skipDigits
    maybeExponent positive n (k - count)
  else if count = 0 then
    if (← peek).isSome then failNext .invalidNumber else failHere .valueEnds
  else maybeExponent positive n (k - count)

/-- The part of a number behind its whole digits. -/
def afterWhole (positive : Bool) (n : Nat) : Read Number := do
  let c ← peek
  if c == some '.' then return .real (← fractionPart positive n 0)
  else if isExponentSign c then return .real (← exponentPart positive n 0)
  else if positive then return .natural n
  else if 0 < n && n ≤ 1 <<< 63 then return .negative n
  else return .real (-(Float.ofNat n))

def wholeDigits (positive : Bool) : Nat → Nat → Read Number
  | 0, n => afterWhole positive n
  | fuel + 1, n => do
      match digitValue? (← peek) with
      | none => afterWhole positive n
      | some d =>
          if overflows n d then
            let count ← skipDigits
            if (← peek) == some '.' then return .real (← fractionPart positive n count)
            else return .real (← maybeExponent positive n count)
          else
            advance
            wholeDigits positive fuel (n * 10 + d)

/-- A number, from its first digit on. -/
def number (positive : Bool) : Read Number := do
  match ← next with
  | none => failHere .valueEnds
  | some c =>
      match digitValue? (some c) with
      | none => failHere .invalidNumber
      | some 0 =>
          if (digitValue? (← peek)).isSome then failNext .invalidNumber
          else afterWhole positive 0
      | some d => wholeDigits positive (← left) d

/-! ### Numbers nobody asks for -/

def skipExponent : Read Unit := do
  advance
  let sign ← peek
  if sign == some '+' || sign == some '-' then advance
  if (digitValue? (← next)).isNone then failHere .invalidNumber
  let _ ← skipDigits

def skipFraction : Read Unit := do
  advance
  if (← skipDigits) = 0 then failNext .invalidNumber
  if isExponentSign (← peek) then skipExponent

/-- Goes past a number, from its first digit on. -/
def skipNumber : Read Unit := do
  match digitValue? (← next) with
  | none => failHere .invalidNumber
  | some 0 => if (digitValue? (← peek)).isSome then failNext .invalidNumber
  | some _ =>
      let _ ← skipDigits
  let c ← peek
  if c == some '.' then skipFraction
  else if isExponentSign c then skipExponent

end Read

end ServerLink.Json
