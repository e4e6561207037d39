/-!
Quoted text: the written form of a string between double quotes. Quotes, backslashes and control
characters are escaped, all else stands for itself.
-/

set_option autoImplicit false

namespace ServerLink.Text

def hexDigit (n : Nat) : Char :=
  Char.ofNat (if n < 10 then 48 + n else 87 + n)

/-- The written form of one character inside quotes. -/
def escape (c : Char) : List Char :=
  if c = '"' then ['\\', '"']
  else if c = '\\' then ['\\', '\\']
  else if c = '\n' then ['\\', 'n']
  else if c = '\r' then ['\\', 'r']
  else if c = '\t' then ['\\', 't']
  else if c = '\x08' then ['\\', 'b']
  else if c = '\x0c' then ['\\', 'f']
  else if c.toNat < 0x20 then ['\\', 'u', '0', '0', hexDigit (c.toNat / 16), hexDigit (c.toNat % 16)]
  else [c]

def quotedChars (cs : List Char) : List Char :=
  '"' :: cs.flatMap escape ++ ['"']

def quoted (s : String) : String :=
  String.ofList (quotedChars s.toList)

end ServerLink.Text
