import ServerLink.Pattern.Bracket

/-!
Groups, counts, and patterns as a whole. A text is no pattern if a machine for it would take too
much room.
-/

set_option autoImplicit false

namespace ServerLink.Pattern

namespace Read

/-- Letters that set options, up to a colon or a closing parenthesis. -/
def flagLetters (fuel : Nat) (seen : List Char) (f : Flags) (on : Bool) :
    Read (List Char × Flags) := do
  match fuel with
  | 0 => fail
  | fuel + 1 =>
      let c ← current
      if c = ':' || c = ')' then
        failIf (seen.head? == some '-')
        return (seen, f)
      else
        failIf (seen.contains c)
        let _ ← bump
        match c with
        | '-' => flagLetters fuel (c :: seen) f false
        | 'i' => flagLetters fuel (c :: seen) { f with ignoreCase := on } on
        | 'm' => flagLetters fuel (c :: seen) { f with multiLine := on } on
        | 's' => flagLetters fuel (c :: seen) { f with dotAll := on } on
        | 'U' => flagLetters fuel (c :: seen) f on
        | 'u' => flagLetters fuel (c :: seen) { f with unicode := on } on
        | 'R' => flagLetters fuel (c :: seen) { f with crlf := on } on
        | 'x' => flagLetters fuel (c :: seen) { f with spaced := on } on
        | _ => fail

def isNameStart (c : Char) : Bool := c = '_' || alphabetics.mem c

def isNameContinue (c : Char) : Bool :=
  c = '_' || c = '.' || c = '[' || c = ']' || alphabetics.mem c || numbers.mem c

/-- The name of a group, up to `>`; every name is given once. -/
def groupName : Read Unit := do
  let cs ← rest
  let name := cs.takeWhile (· != '>')
  match name, cs.drop name.length with
  | c :: more, _ :: after =>
      failIf (!isNameStart c || !more.all isNameContinue)
      let r ← get
      failIf (r.groupNames.contains (String.ofList name))
      set { r with chars := after, groupNames := String.ofList name :: r.groupNames }
  | _, _ => fail

/-- How a group opens: it only sets options, or holds a pattern of its own. -/
def groupOpening : Read Bool := do
  let _ ← bumpSpace
  let cs ← rest
  failIf (["?=", "?!", "?<=", "?<!"].any fun p => p.toList.isPrefixOf cs)
  if (← eat "?P<") || (← eat "?<") then
    groupName
    return true
  else if ← eat "?" then
    let (seen, f) ← flagLetters (cs.length + 1) [] (← flags) true
    let close ← current
    let _ ← bump
    setFlags f
    failIf (close = ')' && seen.isEmpty)
    return close = ':'
  else return true

/-- A number, which may have blanks around it. -/
def decimal : Read (Option Nat) := do
  setRest ((← rest).dropWhile isBlankChar)
  let rec digits (fuel : Nat) (value : Option Nat) : Read (Option Nat) := do
    match fuel with
    | 0 => return value
    | fuel + 1 =>
        match ← peek with
        | some c =>
            if c.isDigit then
              let _ ← bumpSpace
              digits fuel (some (value.getD 0 * 10 + (c.toNat - 48)))
            else return value
        | none => return value
  let value ← digits (← rest).length none
  let rec skip (fuel : Nat) : Read Unit := do
    match fuel with
    | 0 => return
    | fuel + 1 =>
        if (← peek).any isBlankChar then
          let _ ← bumpSpace
          skip fuel
  skip (← rest).length
  failIf (value.any (· ≥ 0x100000000))
  return value

/-- How often a part is repeated, between braces. -/
def count : Read (Nat × Option Nat) := do
  advance
  let least ← decimal
  let (least, most) ←
    if (← current) = ',' then do
      advance
      match least with
      | none => fail
      | some n =>
          if (← current) = '\x7d' then pure (n, none)
          else match ← decimal with
            | none => fail
            | some m => pure (n, some m)
    else match least with
      | none => fail
      | some n => pure (n, some n)
  failIf ((← current) != '\x7d')
  failIf (most.any (· < least))
  if ← bumpSpace then
    let _ ← eat "?"
  return (least, most)

/-- A part of a pattern and the depth it nests to; options that are set stand as parts that cannot
be repeated. -/
structure Part where
  expr : Expr
  depth : Nat
  repeatable : Bool

/-- Several parts make one level of nesting of their own. -/
def joinParts (join : Expr → Expr → Expr) (first : Part) (others : List Part) : Part :=
  let depth := (first :: others).foldl (fun d p => max d p.depth) 0
  ⟨others.foldl (fun e p => join p.expr e) first.expr, depth + 1, true⟩

/-- Parts one after the other, the last one first. -/
def sequenceOf (parts : List Part) : Part :=
  match parts with
  | [] => ⟨.empty, 0, true⟩
  | [p] => p
  | p :: ps => joinParts .seq p ps

/-- Branches, the last one first. -/
def choiceOf (branches : List Part) : Part :=
  match branches with
  | [] => ⟨.empty, 0, true⟩
  | [p] => p
  | p :: ps => joinParts .alt p ps

def anyChar (f : Flags) : Option CharSet :=
  if !f.unicode then none
  else if f.dotAll then some (.ranges [(0, 0x10ffff)])
  else if f.crlf then some (.complement (.ranges [(10, 10), (13, 13)]))
  else some (.complement (.single 10))

def lineStartOf (f : Flags) : Assertion :=
  if !f.multiLine then .textStart else if f.crlf then .anyLineStart else .lineStart

def lineEndOf (f : Flags) : Assertion :=
  if !f.multiLine then .textEnd else if f.crlf then .anyLineEnd else .lineEnd

/-- The expression for one element outside of brackets. -/
def itemExpr (i : Item) : Read Expr := do
  let f ← flags
  match i with
  | .char n byte =>
      if f.unicode then return .one (← foldSet (.single n))
      else
        failIf (byte && n > 127)
        return .one (← foldSet (.single n))
  | .set s =>
      failIf (!f.unicode && !s.isAscii)
      return .one s
  | .assertion a => return .assert a f.unicode

/-- Repeats the part that was read last. -/
def repeatLast (parts : List Part) (least : Nat) (most : Option Nat) : Read (List Part) := do
  match parts with
  | [] => fail
  | p :: ps =>
      failIf (!p.repeatable)
      return ⟨.repeated p.expr least most, p.depth + 1, true⟩ :: ps

/-- Reads branches up to the end of the text or of the group. -/
def choice : Nat → List Part → List Part → Read Part
  | 0, _, _ => fail
  | fuel + 1, parts, branches => do
      skipSpace
      match ← peek with
      | none => return choiceOf (sequenceOf parts :: branches)
      | some ')' => return choiceOf (sequenceOf parts :: branches)
      | some '|' =>
          let _ ← bump
          choice fuel [] (sequenceOf parts :: branches)
      | some '(' =>
          let outer ← flags
          if ← groupOpening then
            let p ← choice fuel [] []
            if !(← eat ")") then fail
            setFlags outer
            choice fuel (⟨.group p.expr, p.depth + 1, true⟩ :: parts) branches
          else choice fuel (⟨.empty, 0, false⟩ :: parts) branches
      | some '[' =>
          let (s, depth) ← bracket ((← rest).length + 1)
          choice fuel (⟨.one s, depth, true⟩ :: parts) branches
      | some '\x7b' =>
          failIf parts.isEmpty
          let (least, most) ← count
          choice fuel (← repeatLast parts least most) branches
      | some c =>
          if c = '?' || c = '*' || c = '+' then
            let _ ← bump
            let _ ← eat "?"
            let least := if c = '+' then 1 else 0
            let most := if c = '?' then some 1 else none
            choice fuel (← repeatLast parts least most) branches
          else
            let e ←
              if c = '\\' then do
                let i ← escaped
                itemExpr i
              else do
                let _ ← bump
                let f ← flags
                match c with
                | '.' =>
                    match anyChar f with
                    | some s => pure (.one s)
                    | none => fail
                | '^' => pure (.assert (lineStartOf f) f.unicode)
                | '$' => pure (.assert (lineEndOf f) f.unicode)
                | c => itemExpr (.char c.toNat false)
            choice fuel (⟨e, 0, true⟩ :: parts) branches

end Read

/-- How deep a pattern may nest. -/
def depthLimit : Nat := 250

/-- The room a machine may take, in bytes. -/
def weightLimit : Nat := 10 * 1024 * 1024

/-- The expression that a text writes as a pattern. -/
def compile? (text : String) : Option Expr :=
  let cs := text.toList
  let start : Reading := ⟨cs, ⟨false, false, false, true, false, false⟩, []⟩
  match (Read.choice (cs.length + 1) [] []).run start with
  | some (p, r) =>
      if r.chars.isEmpty && p.depth ≤ depthLimit && p.expr.weight ≤ weightLimit then some p.expr
      else none
  | none => none

end ServerLink.Pattern
