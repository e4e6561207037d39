/-!
Paths, written with slashes. A path is read as its components: empty components and dots inside a
path say nothing, while two dots are kept. Paths with equal components are the same path, and
paths are ordered component by component.
-/

set_option autoImplicit false

namespace ServerLink

inductive Component where
  | root
  | here
  | up
  | name (text : String)
  deriving DecidableEq, Repr

namespace Component

def rank : Component → Nat
  | .root => 0
  | .here => 1
  | .up => 2
  | .name _ => 3

def text : Component → String
  | .root => "/"
  | .here => "."
  | .up => ".."
  | .name s => s

/-- The order of components: names come last, in the order of their characters. -/
def lt : Component → Component → Bool
  | .name a, .name b => decide (a < b)
  | a, b => a.rank < b.rank

end Component

structure Path where
  text : String
  deriving DecidableEq, Repr

namespace Path

/-- The pieces of a text between slashes. -/
def pieces : List Char → List Char → List (List Char)
  | [], piece => [piece.reverse]
  | c :: cs, piece => if c = '/' then piece.reverse :: pieces cs [] else pieces cs (c :: piece)

def componentOf (piece : List Char) : Option Component :=
  if piece.isEmpty || piece == ['.'] then none
  else if piece == ['.', '.'] then some .up
  else some (.name (String.ofList piece))

def components (p : Path) : List Component :=
  let cs := p.text.toList
  let ps := pieces cs []
  let named := ps.filterMap componentOf
  if cs.head? == some '/' then .root :: named
  else if ps.head? == some ['.'] then .here :: named
  else named

/-- The path written from components, with one slash between two of them. -/
def ofComponents (cs : List Component) : Path :=
  match cs with
  | .root :: cs => ⟨"/" ++ String.intercalate "/" (cs.map Component.text)⟩
  | cs => ⟨String.intercalate "/" (cs.map Component.text)⟩

def isAbsolute (p : Path) : Bool := p.text.toList.head? == some '/'

/-- The same place, however it is spelled. -/
def same (p q : Path) : Bool := p.components == q.components

def ltComponents : List Component → List Component → Bool
  | [], [] => false
  | [], _ :: _ => true
  | _ :: _, [] => false
  | a :: as, b :: bs => a.lt b || (a == b && ltComponents as bs)

def lt (p q : Path) : Bool := ltComponents p.components q.components

/-- The other path seen from this one; an absolute path stays as it is. -/
def join (p q : Path) : Path :=
  if q.isAbsolute then q
  else if p.text.isEmpty || p.text.toList.getLast? == some '/' then ⟨p.text ++ q.text⟩
  else ⟨p.text ++ "/" ++ q.text⟩

/-- The path of the directory that holds the last component; `none` where there is none. -/
def parentComponents (cs : List Component) : Option (List Component) :=
  match cs.getLast? with
  | some .root | none => none
  | some _ => some cs.dropLast

/-- The name of what the path leads to. -/
def fileName (p : Path) : Option String :=
  match p.components.getLast? with
  | some (.name s) => some s
  | _ => none

/-- A name up to its last dot and after it; a dot that begins the name does not count. -/
def splitName (name : List Char) : List Char × Option (List Char) :=
  let after := (name.reverse.takeWhile (· != '.')).reverse
  let before := name.take (name.length - after.length - 1)
  if after.length == name.length || before.isEmpty then (name, none) else (before, some after)

def extensionOf (name : String) : Option String :=
  (splitName name.toList).2.map String.ofList

def extension (p : Path) : Option String := p.fileName.bind extensionOf

/-- The text after the first `n` components, without slashes and dots that say nothing at its
ends; the text between them stays as it was written. -/
def dropPieces : Nat → List (List Char) → List (List Char)
  | n, p :: ps =>
      if (componentOf p).isNone then dropPieces n ps
      else match n with
        | 0 => p :: ps
        | n + 1 => dropPieces n ps
  | _, [] => []

def trimPieces (ps : List (List Char)) : List (List Char) :=
  (ps.reverse.dropWhile fun p => (componentOf p).isNone).reverse

/-- The rest of the path below another one. -/
def below? (p root : Path) : Option Path :=
  let cs := p.components
  let rs := root.components
  if rs.isPrefixOf cs then
    let named := rs.filter fun c => c != .root && c != .here
    let rest := trimPieces (dropPieces named.length (pieces p.text.toList []))
    if rs.isEmpty && cs.head? == some .root then
      some ⟨"/" ++ String.ofList (['/'].intercalate rest)⟩
    else some ⟨String.ofList (['/'].intercalate rest)⟩
  else none

/-- The path below the root as it stands in identifiers, always with slashes. -/
def idPath (root file : Path) : String :=
  let rel := (file.below? root).getD file
  String.ofList (rel.text.toList.map fun c => if c = '\\' then '/' else c)

end Path

end ServerLink
