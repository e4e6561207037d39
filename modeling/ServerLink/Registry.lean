import ServerLink.Functions

/-!
The server functions of a project, file by file. A file is known by its path, however that is
spelled; the spelling it was first recorded under is kept. Files without functions are not kept.
-/

set_option autoImplicit false

namespace ServerLink

structure Registry where
  root : Path
  files : List (Path × FunctionMap)
  deriving Repr

namespace Registry

def empty (root : Path) : Registry := ⟨root, []⟩

/-- Puts a file in its place in the order of paths. -/
def insertFile (p : Path) (m : FunctionMap) : List (Path × FunctionMap) → List (Path × FunctionMap)
  | [] => [(p, m)]
  | (q, n) :: rest =>
      if p.same q then (q, m) :: rest
      else if p.lt q then (p, m) :: (q, n) :: rest
      else (q, n) :: insertFile p m rest

/-- Records the functions of a file in the place of those recorded before. -/
def insert (r : Registry) (p : Path) (m : FunctionMap) : Registry :=
  if m.isEmpty then { r with files := r.files.filter fun file => !file.1.same p }
  else { r with files := insertFile p m r.files }

def get? (r : Registry) (p : Path) : Option FunctionMap :=
  (r.files.find? fun file => file.1.same p).map Prod.snd

def contains (r : Registry) (p : Path) : Bool := (r.get? p).isSome

def fileCount (r : Registry) : Nat := r.files.length

def functionCount (r : Registry) : Nat :=
  r.files.foldl (fun n file => n + file.2.size) 0

/-- The first function of the given identifier, in the order of files and names. -/
def findById? (r : Registry) (id : String) : Option ServerFunction :=
  (r.files.flatMap fun file => file.2.values).find? (·.id == id)

end Registry

end ServerLink
