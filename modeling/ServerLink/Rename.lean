import ServerLink.Options
import ServerLink.SourceMap
import ServerLink.Text.CharClass

/-!
Renaming the global names in finished code. A name is found where it stands as a whole word; the
names are tried in a fixed order, and what has been found is not searched again. All names of one
build end in the same salt.
-/

set_option autoImplicit false

namespace ServerLink

open Text

/-- The new name of a global. -/
def salted (name salt : String) : String := name ++ "_" ++ salt

/-- The characters are on different sides of the edge of a word. -/
def isWordEdge (before after : Option Char) : Bool :=
  before.any isWordChar != after.any isWordChar

/-- The character at the end of a name, or the one before it if the name is empty. -/
def lastOf (before : Option Char) (name : List Char) : Option Char :=
  match name.getLast? with
  | some c => some c
  | none => before

/-- The name stands as a whole word at the beginning of the text. -/
def standsAt (before : Option Char) (rest name : List Char) : Bool :=
  isWordEdge before rest.head? && name.isPrefixOf rest
    && isWordEdge (lastOf before name) (rest.drop name.length).head?

/-- The first of the names that stands here. -/
def nameAt? (names : List (List Char)) (before : Option Char) (rest : List Char) :
    Option (List Char) :=
  names.find? (standsAt before rest)

/-- Where names stand: the offset and the name, from left to right. An empty name is not found
where another find has just ended, which `ended` tells. -/
def findNames (names : List (List Char)) : Nat → Bool → Nat → Option Char → List Char →
    List (Nat × List Char)
  | 0, _, _, _, _ => []
  | fuel + 1, ended, offset, before, rest =>
      let next (found : List (Nat × List Char)) : List (Nat × List Char) :=
        match rest with
        | [] => found
        | c :: cs => found ++ findNames names fuel false (offset + c.utf8Size) (some c) cs
      match nameAt? names before rest with
      | none => next []
      | some [] => next (if ended then [] else [(offset, [])])
      | some (c :: cs) =>
          let name := c :: cs
          (offset, name) :: findNames names fuel true (offset + byteLength name) (lastOf before name)
            (rest.drop name.length)

namespace GlobalNames

def all (g : GlobalNames) : List (List Char) :=
  [g.dispatch.toList, g.registry.toList, g.contextFlag.toList]

def renameEdits (g : GlobalNames) (salt : String) (code : List Char) : List Edit :=
  (findNames g.all (code.length + 1) false 0 none code).map fun (offset, name) =>
    ⟨offset, offset + byteLength name, salted (String.ofList name) salt⟩

/-- Gives the global names in a chunk of finished code their salt. -/
def rename (g : GlobalNames) (salt : String) (code : List Char) (chunk : String) (maps : Bool) :
    Except Failure Applied :=
  applyEdits code (g.renameEdits salt code) (if maps then some chunk else none)

end GlobalNames

end ServerLink
