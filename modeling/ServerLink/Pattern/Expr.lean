import ServerLink.Pattern.CharSet

/-!
What patterns say and which texts they match. A pattern is run on all places of a text at once: a
list of marks says at which places a match may stand, and each part of the pattern moves them.
-/

set_option autoImplicit false

namespace ServerLink.Pattern

inductive Assertion where
  | textStart
  | textEnd
  | lineStart
  | lineEnd
  /-- Line ends that are carriage returns count as well. -/
  | anyLineStart
  | anyLineEnd
  | boundary
  | noBoundary
  | wordStart
  | wordEnd
  | wordStartHalf
  | wordEndHalf
  deriving DecidableEq, Repr

inductive Expr where
  | empty
  | one (s : CharSet)
  /-- The assertion; words are made of ASCII unless `wide`. -/
  | assert (a : Assertion) (wide : Bool)
  | seq (a b : Expr)
  | alt (a b : Expr)
  | repeated (e : Expr) (least : Nat) (most : Option Nat)
  | group (e : Expr)
  deriving Repr

/-- A place between two characters of a text. -/
structure Place where
  before : Option Char
  after : Option Char
  deriving Repr

def placesFrom (before : Option Char) : List Char → List Place
  | [] => [⟨before, none⟩]
  | c :: cs => ⟨before, some c⟩ :: placesFrom (some c) cs

def places (cs : List Char) : List Place := placesFrom none cs

def isWordAt (wide : Bool) (c : Option Char) : Bool :=
  c.any fun c => if wide then Text.isWordChar c else c.isAlphanum || c == '_'

def Assertion.holds (a : Assertion) (wide : Bool) (p : Place) : Bool :=
  let before := isWordAt wide p.before
  let after := isWordAt wide p.after
  match a with
  | .textStart => p.before.isNone
  | .textEnd => p.after.isNone
  | .lineStart => p.before.isNone || p.before == some '\n'
  | .lineEnd => p.after.isNone || p.after == some '\n'
  | .anyLineStart =>
      p.before.isNone || p.before == some '\n' || (p.before == some '\r' && p.after != some '\n')
  | .anyLineEnd =>
      p.after.isNone || p.after == some '\r' || (p.after == some '\n' && p.before != some '\r')
  | .boundary => before != after
  | .noBoundary => before == after
  | .wordStart => !before && after
  | .wordEnd => before && !after
  | .wordStartHalf => !before
  | .wordEndHalf => !after

/-- Marks of places, one to each place of a text. -/
abbrev Marks := List Bool

def Marks.or (a b : Marks) : Marks := List.zipWith (· || ·) a b

/-- Repeats a step up to `n` times, but not beyond the point where nothing changes. -/
def iterate (step : Marks → Marks) : Nat → Marks → Marks
  | 0, marks => marks
  | n + 1, marks =>
      let next := step marks
      if next == marks then marks else iterate step n next

/-- Where matches that begin at marked places of the text may end. -/
def Expr.flow (text : List Char) : Expr → Marks → Marks
  | .empty, marks => marks
  | .one s, marks => false :: List.zipWith (fun m c => m && s.mem c) marks text
  | .assert a wide, marks => List.zipWith (fun m p => m && a.holds wide p) marks (places text)
  | .seq a b, marks => b.flow text (a.flow text marks)
  | .alt a b, marks => (a.flow text marks).or (b.flow text marks)
  | .repeated e least most, marks =>
      let more := match most with
        | some m => m - least
        | none => text.length + 1
      iterate (fun m => m.or (e.flow text m)) more (iterate (e.flow text) least marks)
  | .group e, marks => e.flow text marks

/-- The pattern matches somewhere in the text. -/
def Expr.matches (e : Expr) (text : List Char) : Bool :=
  (e.flow text (List.replicate (text.length + 1) true)).any id

/-- The expression matches nothing but the empty text. -/
def Expr.isHollow : Expr → Bool
  | .empty | .assert _ _ => true
  | .one _ => false
  | .seq a b | .alt a b => a.isHollow && b.isHollow
  | .repeated e _ most => e.isHollow || most == some 0
  | .group e => e.isHollow

/-- About how much room a machine for the expression takes, in bytes. -/
def Expr.weight : Expr → Nat
  | .empty => 32
  | .one s =>
      match s with
      | .ranges [(lo, hi)] =>
          if lo = hi then 32 * (Char.ofNat lo).utf8Size else if hi < 128 then 32 else 160
      | s => if s.breadth ≤ 4 then 64 else 65 * s.breadth
  | .assert _ _ => 32
  | .seq a b => a.weight + b.weight
  | .alt a b => a.weight + b.weight + 40
  | .repeated e least most =>
      let w := e.weight
      if e.isHollow then w + 32
      else match most with
        | some m => m * w + (m - least) * 48 + 32
        | none => (max least 1) * w + 64
  | .group e => e.weight + 64

end ServerLink.Pattern
