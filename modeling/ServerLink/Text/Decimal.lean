/-!
The text of a number in floating point: the fewest digits that are read back as the same number,
and of those the nearest. Numbers from 0.00001 up to 10^16 are written out, others with an
exponent.
-/

set_option autoImplicit false

namespace ServerLink.Text

/-- The numbers around a floating point number that are read as it, as multiples of a power of
two: the lower end, the number, the upper end, and the exponent. -/
structure Around where
  low : Nat
  value : Nat
  high : Nat
  exponent : Int
  /-- The ends themselves are read as the number, too. -/
  closed : Bool

def around (bits : Nat) : Around :=
  let fraction := bits % (1 <<< 52)
  let exponent : Nat := (bits >>> 52) % (1 <<< 11)
  let m := if exponent = 0 then fraction else fraction + (1 <<< 52)
  let e : Int := if exponent = 0 then -1074 else (exponent : Int) - 1075
  let below := if fraction = 0 && exponent > 1 then 1 else 2
  ⟨4 * m - below, 4 * m, 4 * m + 2, e - 2, m % 2 == 0⟩

/-- The number `n * 10 ^ k` lies between the ends. -/
def Around.reads (a : Around) (n : Nat) (k : Int) : Bool :=
  let scale := Nat.pow 10 k.toNat <<< (-a.exponent).toNat
  let unit := Nat.pow 10 (-k).toNat <<< a.exponent.toNat
  let x := n * scale
  if a.closed then a.low * unit ≤ x && x ≤ a.high * unit else a.low * unit < x && x < a.high * unit

/-- How often `10 ^ k` goes into the number, and whether the next multiple is nearer than the last. -/
def Around.multiples (a : Around) (k : Int) : Nat × Bool :=
  let scale := Nat.pow 10 k.toNat <<< (-a.exponent).toNat
  let x := a.value * (Nat.pow 10 (-k).toNat <<< a.exponent.toNat)
  let n := x / scale
  let twice := 2 * (x % scale)
  (n, twice > scale || (twice == scale && n % 2 == 1))

/-- The first digits and their exponent that are read as the number, if it takes `k` or less. -/
def shortestFrom (a : Around) : Nat → Int → Nat × Int
  | 0, k => ((a.multiples k).1, k)
  | fuel + 1, k =>
      let (n, up) := a.multiples k
      let lower := a.reads n k
      let upper := a.reads (n + 1) k
      if lower && upper then (if up then n + 1 else n, k)
      else if lower then (n, k)
      else if upper then (n + 1, k)
      else shortestFrom a fuel (k - 1)

def stripZeros (n : Nat) (k : Int) : Nat → Nat × Int
  | 0 => (n, k)
  | fuel + 1 => if n % 10 = 0 && n ≠ 0 then stripZeros (n / 10) (k + 1) fuel else (n, k)

/-- Digits with their exponent as text. -/
def decimalText (n : Nat) (k : Int) : String :=
  let digits := toString n
  let count : Int := digits.length
  let point := count + k
  let zeros (m : Int) : String := String.ofList (List.replicate m.toNat '0')
  let before (m : Int) : String := String.ofList (digits.toList.take m.toNat)
  let after (m : Int) : String := String.ofList (digits.toList.drop m.toNat)
  if 0 ≤ k && point ≤ 16 then digits ++ zeros k ++ ".0"
  else if 0 < point && point ≤ 16 then before point ++ "." ++ after point
  else if -5 < point && point ≤ 0 then "0." ++ zeros (-point) ++ digits
  else if count = 1 then digits ++ "e" ++ toString (point - 1)
  else before 1 ++ "." ++ after 1 ++ "e" ++ toString (point - 1)

/-- The text of a finite number. -/
def floatText (x : Float) : String :=
  let bits := x.toBits.toNat
  let magnitude := bits % (1 <<< 63)
  let sign := if bits >>> 63 = 1 then "-" else ""
  if magnitude = 0 then sign ++ "0.0"
  else
    let (n, k) := shortestFrom (around magnitude) 700 309
    let (n, k) := stripZeros n k 400
    sign ++ decimalText n k

end ServerLink.Text
