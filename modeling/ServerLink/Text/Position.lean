/-!
Lines and columns. A line feed, a carriage return, and the two together end a line of source
text; columns count UTF-16 units. Generated text has one line per line feed.
-/

set_option autoImplicit false

namespace ServerLink.Text

/-- The number of UTF-16 units a character takes. -/
def units16 (c : Char) : Nat :=
  if c.toNat < 0x10000 then 1 else 2

/-- A place in a text: lines and columns both count from zero. -/
structure Position where
  line : Nat
  column : Nat
  deriving DecidableEq, Repr

namespace Position

def start : Position := ⟨0, 0⟩

/-- The place after one character of generated text. -/
def step (p : Position) (c : Char) : Position :=
  if c = '\n' then ⟨p.line + 1, 0⟩ else ⟨p.line, p.column + units16 c⟩

def advance (p : Position) (cs : List Char) : Position :=
  cs.foldl step p

@[simp] theorem advance_nil (p : Position) : p.advance [] = p := rfl

@[simp] theorem advance_append (p : Position) (xs ys : List Char) :
    p.advance (xs ++ ys) = (p.advance xs).advance ys := by
  simp [advance]

end Position

/-- The distance of two numbers. -/
def apart (a b : Nat) : Nat := (a - b) + (b - a)

/-- The place `n` bytes into a source text, counted from `p`. A carriage return ends its line
unless a line feed follows, which then does; at the very end of the text no new line begins. An
offset inside a character counts the bytes up to it and takes off what the whole character has
more bytes than units; one behind the end counts its bytes as columns. -/
def positionFrom (p : Position) : List Char → Nat → Position
  | _, 0 => p
  | [], n => ⟨p.line, p.column + n⟩
  | c :: cs, n + 1 =>
      if n + 1 < c.utf8Size then ⟨p.line, apart (p.column + (n + 1)) (c.utf8Size - units16 c)⟩
      else
        let next :=
          if (c = '\n' || (c = '\r' && cs.head? != some '\n')) && !cs.isEmpty then ⟨p.line + 1, 0⟩
          else ⟨p.line, p.column + units16 c⟩
        positionFrom next cs (n + 1 - c.utf8Size)

def positionAt (cs : List Char) (n : Nat) : Position :=
  positionFrom .start cs n

/-- The number of the line that holds the byte offset; the first line is line one. -/
def lineAt (cs : List Char) (n : Nat) : Nat :=
  (positionAt cs n).line + 1

end ServerLink.Text
