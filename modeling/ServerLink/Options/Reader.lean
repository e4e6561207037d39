import ServerLink.Failure
import ServerLink.Json.Record
import ServerLink.Options

/-!
Reading options from JSON.
-/

set_option autoImplicit false

namespace ServerLink

open Json Json.Read

namespace Target

def variants : List (String × Target) :=
  [("client", .client), ("server", .server), ("inferred", .inferred)]

end Target

namespace LibraryNames

def fields : List (RecordField LibraryNames) := [
  ⟨"specifier", fun l => return { l with specifier := ← string "a string" }⟩,
  ⟨"marker", fun l => return { l with marker := ← string "a string" }⟩,
  ⟨"handle", fun l => return { l with handle := ← string "a string" }⟩,
  ⟨"setCallHandler", fun l => return { l with setCallHandler := ← string "a string" }⟩,
  ⟨"contextType", fun l => return { l with contextType := ← string "a string" }⟩]

def read : Read LibraryNames := record "struct LibraryNames" fields .standard

end LibraryNames

namespace GlobalNames

def fields : List (RecordField GlobalNames) := [
  ⟨"dispatch", fun g => return { g with dispatch := ← string "a string" }⟩,
  ⟨"registry", fun g => return { g with registry := ← string "a string" }⟩,
  ⟨"contextFlag", fun g => return { g with contextFlag := ← string "a string" }⟩]

def read : Read GlobalNames := record "struct GlobalNames" fields .standard

end GlobalNames

namespace Detection

/-- The two ways of finding functions, without what belongs to one of them. -/
inductive Way where
  | marker
  | filePattern

def ways : List (String × Way) := [("marker", .marker), ("filePattern", .filePattern)]

/-- What is written beside the kind of detection. -/
inductive Content where
  | list (vs : List Value)
  | entries (es : List (String × Value))

def missing {α : Type} (field : String) : Read α := unfit ("missing field `" ++ field ++ "`")

def tooLong {α : Type} (found expected : Nat) : Read α :=
  unfit ("invalid length " ++ toString found ++ ", expected " ++ toString expected ++
    (if expected = 1 then " element in sequence" else " elements in sequence"))

/-- The entries of an object, of which one has to give the kind. -/
def taggedEntries : Nat → Bool → Option Way → List (String × Value) → Read (Way × Content)
  | 0, _, _, _ => missing "kind"
  | fuel + 1, first, way, done => do
      if ← hasKey first then
        advance
        let key ← text
        if key == "kind" then
          if way.isSome then unfit "duplicate field `kind`"
          else
            colon
            let w ← variant ways
            taggedEntries fuel false (some w) done
        else
          colon
          let v ← anyValue
          taggedEntries fuel false way ((key, v) :: done)
      else match way with
        | some w => return (w, .entries done.reverse)
        | none => missing "kind"

/-- The kind of detection and what stands beside it. -/
def tagged : Read (Way × Content) := placed do
  let fuel ← left
  match ← skipBlanks with
  | none => failNext .valueEnds
  | some '[' =>
      enter
      closed (do
        if ← hasElement true then
          let w ← variant ways
          return (w, .list (← elements anyValue fuel false []))
        else missing "kind") closeList
  | some '\x7b' =>
      enter
      closed (taggedEntries fuel true none []) closeObject
  | some _ => mismatch "internally tagged enum Detection"

def patternText (v : Value) : Read String :=
  match v with
  | .text s => return s
  | v => unfit (mismatchText v "a string")

/-- The pattern among entries, which has to be given once. -/
def patternEntry : List (String × Value) → Option String → Read String
  | [], some s => return s
  | [], none => missing "pattern"
  | (key, v) :: rest, found => do
      if key == "pattern" then
        if found.isSome then unfit "duplicate field `pattern`"
        else patternEntry rest (some (← patternText v))
      else patternEntry rest found

/-- The pattern as the only element of a list. -/
def patternElement (vs : List Value) : Read String :=
  match vs with
  | [] => unfit "invalid length 0, expected struct variant Detection::FilePattern with 1 element"
  | [v] => patternText v
  | v :: _ => do
      let _ ← patternText v
      tooLong vs.length 1

def read : Read Detection := do
  match ← tagged with
  | (.marker, .entries _) => return .marker
  | (.marker, .list vs) => if vs.isEmpty then return .marker else tooLong vs.length 0
  | (.filePattern, .entries es) => return .filePattern (← patternEntry es none)
  | (.filePattern, .list vs) => return .filePattern (← patternElement vs)

end Detection

namespace Options

def fields : List (RecordField Options) := [
  ⟨"development", fun o => return { o with development := ← boolean }⟩,
  ⟨"target", fun o => return { o with target := ← plainVariant Target.variants }⟩,
  ⟨"root", fun o => return { o with root := ← optional (string "path string") }⟩,
  ⟨"library", fun o => return { o with library := ← LibraryNames.read }⟩,
  ⟨"excludeDirs", fun o => return { o with excludeDirs := ← list (string "a string") }⟩,
  ⟨"extensions", fun o => return { o with extensions := ← list (string "a string") }⟩,
  ⟨"sourceMaps", fun o => return { o with sourceMaps := ← boolean }⟩,
  ⟨"detection", fun o => return { o with detection := ← Detection.read }⟩,
  ⟨"globals", fun o => return { o with globals := ← GlobalNames.read }⟩,
  ⟨"buildSalt", fun o => return { o with buildSalt := ← optional (string "a string") }⟩]

/-- The options that a text gives; the rest is standard. -/
def ofJson (s : String) : Except Failure Options :=
  match readWhole (record "struct Config" fields .standard) s with
  | .ok o => .ok o
  | .error p => .error (.options p.message)

end Options

end ServerLink
