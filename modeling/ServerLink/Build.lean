import ServerLink.Transform

/-!
Searching a whole project. A walk from the root comes upon the files that are searched; it does not
enter hidden and excluded directories and follows no links. Files that cannot be read or are no
modules are passed over.
-/

set_option autoImplicit false

namespace ServerLink

/-- A walk does not go into directories of this name. -/
def Options.prunes (o : Options) (name : String) : Bool :=
  name.toList.head? == some '.' || o.excludeDirs.contains name

namespace FileTree

/-- The name of a place in a directory, if that is where the place is. -/
def nameIn? (directory place : List String) : Option String :=
  if place.dropLast == directory then place.getLast? else none

/-- The names in a directory, in their order. -/
def names (t : FileTree) (directory : List String) : List String :=
  (t.entries.filterMap fun entry => nameIn? directory entry.1).mergeSort fun a b => a ≤ b

/-- How many names lead to the deepest place. -/
def depth (t : FileTree) : Nat :=
  ((t.entries.map fun entry => entry.1.length).max?).getD 0

/-- A directory that a walk does not enter. Only directories are kept out by their names. -/
def isPruned (t : FileTree) (o : Options) (place : List String) : Bool :=
  match t.entryAt? place, place.getLast? with
  | some .directory, some name => o.prunes name
  | _, _ => false

/-- The files of source that a walk comes upon, going no deeper than so many levels. Where it
begins is never kept out. -/
def sourcesFrom (t : FileTree) (o : Options) : Nat → List String → List Path
  | 0, _ => []
  | levels + 1, place =>
      match t.entryAt? place with
      | some (.file _) => if o.hasSourceExtension (pathOf place) then [pathOf place] else []
      | some .directory =>
          let inside := (t.names place).map fun name => place ++ [name]
          (inside.filter fun next => !t.isPruned o next).flatMap (t.sourcesFrom o levels)
      | _ => []

/-- The files of source at a place and below it. -/
def sources (t : FileTree) (o : Options) (root : List String) : List Path :=
  t.sourcesFrom o (t.depth + 1) root

end FileTree

namespace Discovery

/-- The server functions of a file; none if it cannot be read or is no module. -/
def scanFile (d : Discovery) (t : FileTree) (root file : Path) : FunctionMap :=
  match t.read file >>= Module.parse file with
  | .ok m => d.scan m root
  | .error _ => .empty

/-- Searches the project at a root, which may be any path that leads there. -/
def build (d : Discovery) (t : FileTree) (root : Path) : Except Failure Registry :=
  match t.locate root with
  | .error cause => .error (.read root cause)
  | .ok place =>
      let root := FileTree.pathOf place
      .ok ((t.sources d.options place).foldl
        (fun r file => r.insert file (d.scanFile t root file)) (.empty root))

end Discovery

end ServerLink
