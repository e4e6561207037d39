import ServerLink.Functions
import ServerLink.Imports

/-!
The server functions a module can call through its imports. An imported function is known by the
name it is imported under, or as a property of the name that stands for the whole module.
-/

set_option autoImplicit false

namespace ServerLink

open Script

structure ImportedFunction where
  /-- What a call of the function calls: `name` or `name.property`. -/
  key : String
  /-- The name that the import declares. -/
  bindingName : String
  function : ServerFunction
  deriving DecidableEq, Repr

structure ImportedFunctions where
  entries : List ImportedFunction
  deriving Repr

namespace ImportedFunctions

def empty : ImportedFunctions := ⟨[]⟩

def isEmpty (fs : ImportedFunctions) : Bool := fs.entries.isEmpty

def size (fs : ImportedFunctions) : Nat := fs.entries.length

def find? (fs : ImportedFunctions) (key bindingName : String) : Option ServerFunction :=
  ((fs.entries.find? (·.key == key)).filter (·.bindingName == bindingName)).map (·.function)

/-- The server function that an expression names. -/
def calledBy? (fs : ImportedFunctions) (callee : Node) : Option ServerFunction :=
  match callee with
  | .mk (.use name true) _ _ => fs.find? name name
  | .mk (.member property) _ (.mk (.use name true) _ _ :: _) =>
      fs.find? (name ++ "." ++ property) name
  | _ => none

/-- What a binding brings if the module it names defines the given functions. -/
def ofBinding (b : Binding) (functions : FunctionMap) : List ImportedFunction :=
  match b.imported with
  | .named name => ((functions.get? name).map fun f => ⟨b.localName, b.localName, f⟩).toList
  | .namespace => functions.entries.map fun (name, f) =>
      ⟨b.localName ++ "." ++ name, b.localName, f⟩
  | .default => []

/-- All that the imports bring, given the functions of the modules they name. A module's own
functions are never called through an import. -/
def ofImports (is : Imports) (functionsOf : Binding → Option FunctionMap) (own : FunctionMap) :
    ImportedFunctions :=
  let all := is.bindings.flatMap fun b =>
    if b.typeOnly then []
    else match functionsOf b with
      | some functions => ofBinding b functions
      | none => []
  ⟨all.filter fun f => own.values.all fun g => f.key != g.localName && f.key != g.exportedName⟩

end ImportedFunctions

end ServerLink
