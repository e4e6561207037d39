import ServerLink.Text.CharClass
import ServerLink.Pattern.CaseFold

/-!
Sets of characters as patterns write them: ranges, complements, and sets made of other sets.
-/

set_option autoImplicit false

namespace ServerLink.Pattern

inductive CharSet where
  /-- Ranges of code points, both ends belonging to them. -/
  | ranges (rs : List (Nat × Nat))
  /-- Every second code point of ranges, from the first one on. -/
  | alternate (rs : List (Nat × Nat))
  /-- The characters of words. -/
  | word
  | complement (s : CharSet)
  | union (a b : CharSet)
  | inter (a b : CharSet)
  | minus (a b : CharSet)
  /-- What belongs to exactly one of two sets. -/
  | exclusive (a b : CharSet)
  /-- A set together with all that differs from it only in case. -/
  | folded (s : CharSet)
  /-- The same within ASCII. -/
  | asciiFolded (s : CharSet)
  deriving Repr

/-- The code points that differ from the given one at most in case, within ASCII. -/
def asciiVariants (n : Nat) : List Nat :=
  if 65 ≤ n && n ≤ 90 then [n, n + 32]
  else if 97 ≤ n && n ≤ 122 then [n, n - 32]
  else [n]

namespace CharSet

def empty : CharSet := .ranges []

def single (n : Nat) : CharSet := .ranges [(n, n)]

def memCode : CharSet → Nat → Bool
  | .ranges rs, n => rs.any fun r => r.1 ≤ n && n ≤ r.2
  | .alternate rs, n => rs.any fun r => r.1 ≤ n && n ≤ r.2 && (n - r.1) % 2 == 0
  | .word, n => Text.isWordChar (Char.ofNat n)
  | .complement s, n => !s.memCode n
  | .union a b, n => a.memCode n || b.memCode n
  | .inter a b, n => a.memCode n && b.memCode n
  | .minus a b, n => a.memCode n && !b.memCode n
  | .exclusive a b, n => a.memCode n != b.memCode n
  | .folded s, n => (caseVariants n).any s.memCode
  | .asciiFolded s, n => (asciiVariants n).any s.memCode

def mem (s : CharSet) (c : Char) : Bool := s.memCode c.toNat

/-- No byte beyond ASCII belongs to the set. -/
def isAscii (s : CharSet) : Bool :=
  (List.range 128).all fun n => !s.memCode (n + 128)

/-- About how many ranges it takes to write the set out. -/
def breadth : CharSet → Nat
  | .ranges rs => rs.length
  | .alternate rs => 8 * rs.length
  | .word => 770
  | .complement s => s.breadth + 1
  | .union a b | .inter a b | .minus a b | .exclusive a b => a.breadth + b.breadth
  | .folded s | .asciiFolded s => 2 * s.breadth

end CharSet

end ServerLink.Pattern
