import ServerLink.Text.Base64

/-!
Salts that are not given by the options: nine random bytes, written so that they can be part of an
identifier.
-/

set_option autoImplicit false

namespace ServerLink

open Text

/-- A letter of a salt; the two signs of base 64 become the two that identifiers know. -/
def saltLetter (c : Char) : Char :=
  if c = '+' then '$' else if c = '/' then '_' else c

def saltOf (bytes : List Nat) : String :=
  String.ofList (((base64Bytes bytes).filter (· != '=')).map saltLetter)

/-- The number of random bytes in a salt, which makes twelve letters. -/
def saltBytes : Nat := 9

end ServerLink
