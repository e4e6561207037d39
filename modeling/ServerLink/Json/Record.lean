import ServerLink.Json.Value

/-!
Values of a known form. A record is written as an object, or as a list of its fields in their
order; fields that are left out keep what they were, and entries of other names are passed over.
-/

set_option autoImplicit false

namespace ServerLink.Json

namespace Read

def boolean : Read Bool := placed do
  match ← skipBlanks with
  | none => failNext .valueEnds
  | some 't' =>
      advance
      word "rue"
      return true
  | some 'f' =>
      advance
      word "alse"
      return false
  | some _ => mismatch "a boolean"

/-- A string; `expected` tells what it is for. -/
def string (expected : String) : Read String := placed do
  match ← skipBlanks with
  | none => failNext .valueEnds
  | some '"' =>
      advance
      text
  | some _ => mismatch expected

def optional {α : Type} (r : Read α) : Read (Option α) := do
  if (← skipBlanks) == some 'n' then
    advance
    word "ull"
    return none
  else return some (← r)

def list {α : Type} (element : Read α) : Read (List α) := placed do
  let fuel ← left
  match ← skipBlanks with
  | none => failNext .valueEnds
  | some '[' =>
      enter
      closed (elements element fuel true []) closeList
  | some _ => mismatch "a sequence"

/-- One of some names, as they are listed when another one is given. -/
def namesText (names : List String) : String :=
  match names with
  | [a] => "`" ++ a ++ "`"
  | [a, b] => "`" ++ a ++ "` or `" ++ b ++ "`"
  | names => "one of " ++ String.intercalate ", " (names.map fun n => "`" ++ n ++ "`")

/-- The name of one of several variants. -/
def variant {α : Type} (variants : List (String × α)) : Read α := placed do
  match ← skipBlanks with
  | none => failNext .valueEnds
  | some '"' =>
      advance
      let s ← text
      match variants.lookup s with
      | some a => return a
      | none =>
          unfit ("unknown variant `" ++ s ++ "`, expected " ++ namesText (variants.map Prod.fst))
  | some _ => mismatch "variant identifier"

/-- A variant without content: its name, or an object that gives null for the name. -/
def plainVariant {α : Type} (variants : List (String × α)) : Read α := do
  match ← skipBlanks with
  | none => failNext .valueEnds
  | some '"' => variant variants
  | some '\x7b' =>
      enter
      let a ← variant variants
      colon
      placed do
        match ← skipBlanks with
        | none => failNext .valueEnds
        | some 'n' =>
            advance
            word "ull"
        | some _ => mismatch "unit"
      leave
      match ← skipBlanks with
      | some '\x7d' =>
          advance
          return a
      | some _ => failHere .valueExpected
      | none => failHere .objectEnds
  | some _ => failNext .valueExpected

/-- A field of a record, and how its value is read into the record. -/
structure RecordField (α : Type) where
  name : String
  read : α → Read α

def fieldValues {α : Type} : List (RecordField α) → Bool → α → Read α
  | [], _, a => return a
  | f :: fs, first, a => do
      if ← hasElement first then fieldValues fs false (← f.read a) else return a

def fieldEntries {α : Type} (fields : List (RecordField α)) : Nat → Bool → List String → α → Read α
  | 0, _, _, a => return a
  | fuel + 1, first, seen, a => do
      if ← hasKey first then
        advance
        let key ← text
        match fields.find? (·.name == key) with
        | some f =>
            if seen.contains key then unfit ("duplicate field `" ++ key ++ "`")
            else
              colon
              let a ← f.read a
              fieldEntries fields fuel false (key :: seen) a
        | none =>
            colon
            skipValue
            fieldEntries fields fuel false seen a
      else return a

/-- A record; `a` holds what fields are that are left out. -/
def record {α : Type} (expected : String) (fields : List (RecordField α)) (a : α) : Read α := placed do
  let fuel ← left
  match ← skipBlanks with
  | none => failNext .valueEnds
  | some '[' =>
      enter
      closed (fieldValues fields true a) closeList
  | some '\x7b' =>
      enter
      closed (fieldEntries fields fuel true [] a) closeObject
  | some _ => mismatch expected

end Read

/-- Reads a whole text, behind which nothing but blanks may follow. -/
def readWhole {α : Type} (r : Read α) (s : String) : Except Problem α :=
  let whole : Read α := do
    let a ← r
    if (← Read.skipBlanks).isSome then Read.failNext .moreCharacters
    return a
  ((whole.run ⟨s.toList, ⟨1, 0⟩, Read.depthLimit⟩ : Id _)).1

end ServerLink.Json
