import ServerLink.Edit
import ServerLink.Text.Base64
import ServerLink.Text.Position
import ServerLink.Text.Quoted

/-!
Source maps of edited texts. Every line of kept text, and every text put in, is traced back to its
place in the source; nothing is traced to the end of the source.
-/

set_option autoImplicit false

namespace ServerLink

open Text

/-- A place in the edited text and the offset in the source it comes from. -/
structure Mapping where
  generated : Position
  original : Nat
  deriving DecidableEq, Repr

/-- A text cut behind each line feed. -/
def feedLines : List Char → List (List Char)
  | [] => []
  | c :: cs =>
      if c = '\n' then [c] :: feedLines cs
      else match feedLines cs with
        | [] => [[c]]
        | line :: lines => (c :: line) :: lines

/-- The mappings of lines kept from a source of `size` bytes, put at a place of the output. -/
def lineMappings (size : Nat) (place : Position) (offset : Nat) : List (List Char) → List Mapping
  | [] => []
  | line :: lines =>
      let rest := lineMappings size (place.advance line) (offset + byteLength line) lines
      if offset < size then ⟨place, offset⟩ :: rest else rest

def Piece.mappings (size : Nat) (place : Position) : Piece → List Mapping
  | .kept offset cs => lineMappings size place offset (feedLines cs)
  | .added offset cs => if !cs.isEmpty && offset < size then [⟨place, offset⟩] else []

def mappingsOf (size : Nat) (place : Position) : List Piece → List Mapping
  | [] => []
  | p :: ps => p.mappings size place ++ mappingsOf size (place.advance p.text) ps

/-! ### The written form -/

/-- The digits of a number in base 32, the lowest first; all but the last one are marked as being
followed by another. -/
def digits32 (n : Nat) : List Char :=
  if n < 32 then [base64Letter n]
  else base64Letter (32 + n % 32) :: digits32 (n / 32)

/-- A signed number as digits; the lowest bit is its sign. -/
def signedDigits (n : Int) : List Char :=
  match n with
  | .ofNat m => digits32 (2 * m)
  | .negSucc m => digits32 (2 * (m + 1) + 1)

/-- What numbers are counted from while mappings are written: the line that is being written, the
column on it, and the place in the source. -/
structure MapCursor where
  line : Nat
  column : Nat
  source : Position
  /-- Nothing has been written on the line yet. -/
  fresh : Bool

def MapCursor.start : MapCursor := ⟨0, 0, .start, true⟩

/-- Mappings, each relative to the one before it: a semicolon ends a line, a comma separates
mappings of one line. -/
def writeMappings (source : List Char) (written : MapCursor) : List Mapping → List Char
  | [] => []
  | m :: ms =>
      let newLine := written.line < m.generated.line
      let feeds := List.replicate (m.generated.line - written.line) ';'
      let column := if newLine then 0 else written.column
      let comma := if newLine || written.fresh then [] else [',']
      let place := positionAt source m.original
      let difference (a b : Nat) : List Char := signedDigits ((a : Int) - (b : Int))
      feeds ++ comma ++ difference m.generated.column column ++ signedDigits 0
        ++ difference place.line written.source.line ++ difference place.column written.source.column
        ++ writeMappings source ⟨m.generated.line, m.generated.column, place, false⟩ ms

structure SourceMap where
  name : String
  /-- The source without a byte order mark; offsets count from where this text begins. -/
  source : List Char
  mappings : List Mapping

namespace SourceMap

/-- The map as it is handed out. Without mappings it names no source. -/
def text (m : SourceMap) : String :=
  let sources :=
    if m.mappings.isEmpty then "\"sources\":[]"
    else "\"sources\":[" ++ quoted m.name ++ "],\"sourcesContent\":["
      ++ quoted (String.ofList m.source) ++ "]"
  "\x7b\"version\":3," ++ sources ++ ",\"names\":[],\"mappings\":\""
    ++ String.ofList (writeMappings m.source .start m.mappings) ++ "\"\x7d"

end SourceMap

/-! ### Edited texts -/

structure Output where
  code : List Char
  map : Option SourceMap

/-- The code, followed by its map in a comment. -/
def Output.withInlineMap (o : Output) : List Char :=
  match o.map with
  | none => o.code
  | some m => o.code ++ "\n//# sourceMappingURL=data:application/json;base64,".toList
      ++ base64 m.text.toList

inductive Applied where
  | unchanged
  | changed (output : Output)

def Applied.output? : Applied → Option Output
  | .unchanged => none
  | .changed o => some o

/-- Carries out edits, tracing the result back to a source of the given name if there is one. -/
def applyEdits (source : List Char) (edits : List Edit) (name : Option String) :
    Except Failure Applied :=
  if edits.isEmpty then .ok .unchanged
  else
    let edits := Edit.sorted edits
    match Edit.firstFault source none edits with
    | some failure => .error failure
    | none =>
        let ps := pieces source 0 edits
        .ok (.changed ⟨joinPieces ps, name.map fun n =>
          ⟨n, withoutMark source, mappingsOf (byteLength source) .start ps⟩⟩)

end ServerLink
