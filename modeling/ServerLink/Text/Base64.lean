/-!
Base64 of the bytes of a text: three bytes become four letters, and a short last group is padded
with equals signs.
-/

set_option autoImplicit false

namespace ServerLink.Text

/-- The bytes of one character in UTF-8. -/
def charBytes (c : Char) : List Nat :=
  let n := c.toNat
  if n < 0x80 then [n]
  else if n < 0x800 then [0xC0 + n / 64, 0x80 + n % 64]
  else if n < 0x10000 then [0xE0 + n / 4096, 0x80 + n / 64 % 64, 0x80 + n % 64]
  else [0xF0 + n / 262144, 0x80 + n / 4096 % 64, 0x80 + n / 64 % 64, 0x80 + n % 64]

def base64Letter (n : Nat) : Char :=
  if n < 26 then Char.ofNat (65 + n)
  else if n < 52 then Char.ofNat (71 + n)
  else if n < 62 then Char.ofNat (n - 4)
  else if n = 62 then '+'
  else '/'

def base64Bytes : List Nat → List Char
  | a :: b :: c :: rest =>
      base64Letter (a / 4) :: base64Letter (a % 4 * 16 + b / 16)
        :: base64Letter (b % 16 * 4 + c / 64) :: base64Letter (c % 64) :: base64Bytes rest
  | [a, b] =>
      [base64Letter (a / 4), base64Letter (a % 4 * 16 + b / 16), base64Letter (b % 16 * 4), '=']
  | [a] => [base64Letter (a / 4), base64Letter (a % 4 * 16), '=', '=']
  | [] => []

def base64 (cs : List Char) : List Char :=
  base64Bytes (cs.flatMap charBytes)

end ServerLink.Text
