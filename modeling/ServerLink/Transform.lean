import ServerLink.Discovery
import ServerLink.Files.Resolve
import ServerLink.Registry
import ServerLink.Rewrite
import ServerLink.SourceMap

/-!
One module made ready for one side. A module that the registry does not know is searched on the
spot. Where functions are found by file, a module that defines any is replaced as a whole on the
client.
-/

set_option autoImplicit false

namespace ServerLink

/-- The server functions that a module's imports bring, with the files they name looked up. -/
def importedFunctions (t : FileTree) (r : Registry) (extensions : List String) (importer : Path)
    (is : Imports) (own : FunctionMap) : ImportedFunctions :=
  .ofImports is (fun b =>
    ((t.resolve? importer b.source extensions).filter fun p => !p.same importer).bind r.get?) own

/-- The server functions of the module itself. -/
def ownFunctions (o : Options) (r : Registry) (m : Module) : Except Failure FunctionMap :=
  match r.get? m.path with
  | some functions => .ok functions
  | none => (Discovery.ofOptions o).map fun d => d.scan m r.root

/-- The edits that make a module ready for a side. -/
def moduleEdits (o : Options) (t : FileTree) (r : Registry) (side : Side) (m : Module)
    (own : FunctionMap) : List Edit :=
  let passes := o.passes side (!own.isEmpty)
  let byFile := match o.detection with
    | .filePattern _ => true
    | .marker => false
  if passes.clientStubs && byFile then [⟨0, m.size, own.stubModule o.globals⟩]
  else
    let imported :=
      if passes.callSites then importedFunctions t r o.extensions m.path m.imports own else .empty
    (Rewriting.ofModule m o passes own imported).allEdits
      ++ (if passes.registration then own.registrationEdit o.globals m.size else [])

/-- The name of the module in source maps, with slashes in the place of backslashes. -/
def Module.mapName (m : Module) : String :=
  String.ofList (m.path.text.toList.map fun c => if c = '\\' then '/' else c)

def transformModule (o : Options) (t : FileTree) (r : Registry) (side : Side) (m : Module) :
    Except Failure Applied := do
  let own ← ownFunctions o r m
  applyEdits m.text (moduleEdits o t r side m own)
    (if o.sourceMaps then some m.mapName else none)

/-- The same for the text of a file, which is known by its canonical path. -/
def transformFile (o : Options) (t : FileTree) (r : Registry) (side : Side) (p : Path)
    (text : List Char) : Except Failure Applied := do
  match t.canonical p with
  | .error cause => .error (.read p cause)
  | .ok path =>
      let m ← Module.parse path text
      transformModule o t r side m

end ServerLink
