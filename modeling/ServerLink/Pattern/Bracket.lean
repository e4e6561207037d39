import ServerLink.Pattern.Element

/-!
Classes of characters between brackets.
-/

set_option autoImplicit false

namespace ServerLink.Pattern

namespace Read

/-- What a bracket holds so far: the sets read since the last operator, and how deep they nest. -/
structure Members where
  sets : List CharSet
  depth : Nat

def Members.add (m : Members) (s : CharSet) (depth : Nat) : Members :=
  ⟨s :: m.sets, max m.depth depth⟩

def Members.set (m : Members) : CharSet :=
  m.sets.foldl (fun acc s => .union s acc) .empty

/-- Several members make one level of nesting of their own. -/
def Members.nesting (m : Members) : Nat :=
  if m.sets.length ≥ 2 then m.depth + 1 else m.depth

inductive SetOperator where
  | inter
  | minus
  | exclusive

def SetOperator.apply : SetOperator → CharSet → CharSet → CharSet
  | .inter, a, b => .inter a b
  | .minus, a, b => .minus a b
  | .exclusive, a, b => .exclusive a b

/-- The set with what differs from its characters in case, where case is ignored. -/
def foldSet (s : CharSet) : Read CharSet := do
  let f ← flags
  return if !f.ignoreCase then s else if f.unicode then .folded s else .asciiFolded s

/-- The operator is applied to what stands before it and the members behind it. -/
def combine (before : Option (CharSet × Nat × SetOperator)) (m : Members) :
    Read (CharSet × Nat) := do
  match before with
  | none => return (m.set, m.nesting)
  | some (s, depth, op) => return (op.apply (← foldSet s) (← foldSet m.set), max depth m.nesting + 1)

/-- The set of one element of a bracket. -/
def memberSet (i : Item) : Read CharSet := do
  match i with
  | .char n _ =>
      failIf (!(← flags).unicode && n > 127)
      return .single n
  | .set s => return s
  | .assertion _ => fail

def member : Read Item := do
  let c ← current
  if c = '\\' then escaped
  else
    let _ ← bump
    return .char c.toNat false

/-- One element of a bracket, or a range of them. -/
def memberOrRange : Read CharSet := do
  let first ← member
  skipSpace
  let c ← current
  let second ← peekSecond true
  if c != '-' || second == some ']' || second == some '-' then memberSet first
  else
    advance
    match first, ← member with
    | .char lo _, .char hi _ =>
        failIf (hi < lo)
        failIf (!(← flags).unicode && hi > 127)
        return .ranges [(lo, hi)]
    | _, _ => fail

/-- A named ASCII class, if one stands here. -/
def namedClass? : Read (Option CharSet) := do
  match ← rest with
  | '[' :: ':' :: cs =>
      let (negated, cs) := match cs with
        | '^' :: cs => (true, cs)
        | cs => (false, cs)
      let name := cs.takeWhile (· != ':')
      match cs.drop name.length, asciiClass? (String.ofList name) with
      | ':' :: ']' :: after, some s =>
          let s ← foldSet s
          failIf (negated && !(← flags).unicode)
          setRest after
          return some (if negated then .complement s else s)
      | _, _ => return none
  | _ => return none

/-- Hyphens right behind the opening bracket stand for themselves. -/
def openingHyphens (fuel : Nat) (m : Members) : Read Members := do
  match fuel with
  | 0 => pure m
  | fuel + 1 =>
      if (← current) = '-' then
        advance
        openingHyphens fuel (m.add (.single '-'.toNat) 0)
      else pure m

/-- The opening of a bracket: whether it is negated, and the hyphens and the closing bracket that
stand for themselves there. -/
def openBracket : Read (Bool × Members) := do
  advance
  let negated := (← current) = '^'
  if negated then advance
  let m ← openingHyphens (← rest).length ⟨[], 0⟩
  if m.sets.isEmpty && (← current) = ']' then
    advance
    return (negated, m.add (.single ']'.toNat) 0)
  else return (negated, m)

/-- A class between brackets with the depth it nests to; `depth` bounds the brackets in it. -/
def bracket : Nat → Read (CharSet × Nat)
  | 0 => fail
  | fuel + 1 => do
      let (negated, m) ← openBracket
      let rec members (steps : Nat) (before : Option (CharSet × Nat × SetOperator))
          (m : Members) : Read (CharSet × Nat) := do
        match steps with
        | 0 => fail
        | steps + 1 =>
            skipSpace
            let c ← current
            let operator : Option SetOperator ← (do
              if (← peekSecond false) != some c then return none
              else return match c with
                | '&' => some .inter
                | '-' => some .minus
                | '~' => some .exclusive
                | _ => none)
            match operator with
            | some op =>
                setRest ((← rest).drop 2)
                let (s, depth) ← combine before m
                members steps (some (s, depth, op)) ⟨[], 0⟩
            | none =>
                if c = '[' then
                  match ← namedClass? with
                  | some s => members steps before (m.add s 0)
                  | none =>
                      let (s, depth) ← bracket fuel
                      members steps before (m.add s depth)
                else if c = ']' then
                  let _ ← bump
                  combine before m
                else members steps before (m.add (← memberOrRange) 0)
      let (s, depth) ← members ((← rest).length + 1) none m
      let s ← foldSet s
      let s := if negated then .complement s else s
      failIf (!(← flags).unicode && !s.isAscii)
      return (s, depth + 1)

end Read

end ServerLink.Pattern
