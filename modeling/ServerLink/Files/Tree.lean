import ServerLink.Failure

/-!
The files of a project, as far as they matter here: a tree of directories with files and links in
it. Paths are followed step by step; a link leads on to where it points.
-/

set_option autoImplicit false

namespace ServerLink

inductive Entry where
  | file (content : ByteArray)
  | directory
  /-- Leads to where the path points, seen from the directory the link is in. -/
  | link (target : Path)

/-- What there is at each place; a place is given by the names that lead to it from the root,
which is always a directory. -/
structure FileTree where
  entries : List (List String × Entry)

namespace FileTree

def empty : FileTree := ⟨[]⟩

/-- What there is at a place, links not being followed. -/
def entryAt? (t : FileTree) (place : List String) : Option Entry :=
  if place.isEmpty then some .directory else t.entries.lookup place

def put (t : FileTree) (place : List String) (e : Entry) : FileTree :=
  ⟨(place, e) :: t.entries.filter (·.1 != place)⟩

def delete (t : FileTree) (place : List String) : FileTree :=
  ⟨t.entries.filter fun entry => !place.isPrefixOf entry.1⟩

/-- The steps that a path takes; an empty step, like a dot, stays where it is. -/
def stepsOf (p : Path) : List String :=
  (Path.pieces p.text.toList []).map String.ofList

/-- How many links may be followed on the way to one place. -/
def linkLimit : Nat := 40

/-- Follows steps from a place, which has to be a directory where there are any. Every link that
is followed brings its own steps. -/
def walk (t : FileTree) : Nat → List String → List String → Except ReadFailure (List String)
  | 0, _, _ => .error .tooManyLinks
  | links + 1, place, steps => go links place steps
where
  go (links : Nat) (place : List String) : List String → Except ReadFailure (List String)
    | [] => .ok place
    | step :: rest =>
        match t.entryAt? place with
        | some .directory =>
            if step == "" || step == "." then go links place rest
            else if step == ".." then go links place.dropLast rest
            else
              let next := place ++ [step]
              match t.entryAt? next with
              | none => .error .notFound
              | some (.link target) =>
                  t.walk links (if target.isAbsolute then [] else place) (stepsOf target ++ rest)
              | some _ => go links next rest
        | _ => .error .notDirectory

/-- The place that an absolute path leads to. -/
def locate (t : FileTree) (p : Path) : Except ReadFailure (List String) :=
  if p.isAbsolute then t.walk (linkLimit + 1) [] (stepsOf p) else .error .notFound

def pathOf (place : List String) : Path := ⟨"/" ++ String.intercalate "/" place⟩

/-- The one path of the place that a path leads to. -/
def canonical (t : FileTree) (p : Path) : Except ReadFailure Path :=
  (t.locate p).map pathOf

def entry? (t : FileTree) (p : Path) : Option Entry :=
  match t.locate p with
  | .ok place => t.entryAt? place
  | .error _ => none

def isFile (t : FileTree) (p : Path) : Bool :=
  match t.entry? p with
  | some (.file _) => true
  | _ => false

def isDirectory (t : FileTree) (p : Path) : Bool :=
  match t.entry? p with
  | some .directory => true
  | _ => false

/-- The text of a file. -/
def read (t : FileTree) (p : Path) : Except Failure (List Char) :=
  match t.locate p with
  | .error cause => .error (.read p cause)
  | .ok place =>
      match t.entryAt? place with
      | some (.file content) =>
          match String.fromUTF8? content with
          | some s => .ok s.toList
          | none => .error (.read p .notText)
      | some _ => .error (.read p .isDirectory)
      | none => .error (.read p .notFound)

/-! ### Changes -/

/-- The place that steps lead to, directories being made where there is nothing. -/
def makeDirectories (t : FileTree) (place : List String) : List String → FileTree × List String
  | [] => (t, place)
  | step :: rest =>
      if step == "" || step == "." then t.makeDirectories place rest
      else if step == ".." then t.makeDirectories place.dropLast rest
      else
        let next := place ++ [step]
        match t.entryAt? next with
        | none => (t.put next .directory).makeDirectories next rest
        | some (.link _) =>
            match t.walk (linkLimit + 1) place [step] with
            | .ok there => t.makeDirectories there rest
            | .error _ => t.makeDirectories next rest
        | some _ => t.makeDirectories next rest

/-- Puts an entry where a path leads; the directories on the way are made. -/
def insert (t : FileTree) (p : Path) (e : Entry) : FileTree :=
  let steps := stepsOf p
  let (t, place) := t.makeDirectories [] steps.dropLast
  match steps.getLast? with
  | some name => if name == "" then t else t.put (place ++ [name]) e
  | none => t

/-- Puts a text into a file, through a link if one stands there. -/
def write (t : FileTree) (p : Path) (text : String) : FileTree :=
  match t.locate p with
  | .ok place => t.put place (.file text.toUTF8)
  | .error _ => t.insert p (.file text.toUTF8)

/-- Takes away what a path leads to; of a link it takes the link. -/
def remove (t : FileTree) (p : Path) : FileTree :=
  let steps := stepsOf p
  match t.walk (linkLimit + 1) [] steps.dropLast, steps.getLast? with
  | .ok place, some name => t.delete (place ++ [name])
  | _, _ => t

end FileTree

end ServerLink
