import ServerLink.Files.Path

/-!
The options of a build: what the library is called, how server functions are found, and which
names the generated code uses at run time.
-/

set_option autoImplicit false

namespace ServerLink

/-- The half of the program that a module is made ready for. -/
inductive Side where
  | client
  | server
  deriving DecidableEq, Repr

inductive Target where
  | client
  | server
  /-- Each call of a hook says which side it is for. -/
  | inferred
  deriving DecidableEq, Repr

def Target.side (t : Target) (onServer : Bool) : Side :=
  match t with
  | .client => .client
  | .server => .server
  | .inferred => if onServer then .server else .client

/-- How server functions are found. -/
inductive Detection where
  /-- Exported variables whose value is a call of the library's marker. -/
  | marker
  /-- All exported functions of files whose path below the root matches. -/
  | filePattern (pattern : String)
  deriving DecidableEq, Repr

/-- The module and the exports by which the library is known. -/
structure LibraryNames where
  specifier : String
  marker : String
  handle : String
  setCallHandler : String
  contextType : String
  deriving DecidableEq, Repr

namespace LibraryNames

def standard : LibraryNames where
  specifier := "serverfn"
  marker := "func"
  handle := "handle"
  setCallHandler := "setCallHandler"
  contextType := "Context"

/-- A production build puts the code of this export where it is called. -/
def isInlined (l : LibraryNames) (name : String) : Bool :=
  name == l.marker || name == l.handle || name == l.setCallHandler

end LibraryNames

/-- The global properties that generated code reads and writes. -/
structure GlobalNames where
  dispatch : String
  registry : String
  contextFlag : String
  deriving DecidableEq, Repr

namespace GlobalNames

def standard : GlobalNames where
  dispatch := "__SERVERFN_CALL__"
  registry := "__SERVERFN_REGISTRY__"
  contextFlag := "__serverfnContext"

def dispatchRef (g : GlobalNames) : String := "globalThis." ++ g.dispatch

def registryRef (g : GlobalNames) : String := "globalThis." ++ g.registry

end GlobalNames

structure Options where
  development : Bool
  target : Target
  root : Option String
  library : LibraryNames
  excludeDirs : List String
  extensions : List String
  sourceMaps : Bool
  detection : Detection
  globals : GlobalNames
  /-- What renamed globals end in; chosen anew for each build when not given. -/
  buildSalt : Option String
  deriving DecidableEq, Repr

namespace Options

def standard : Options where
  development := true
  target := .inferred
  root := none
  library := .standard
  excludeDirs := ["node_modules", "dist", "build"]
  extensions := ["ts", "tsx", "mts", "cts", "js", "jsx", "mjs", "cjs"]
  sourceMaps := true
  detection := .marker
  globals := .standard
  buildSalt := none

def production (o : Options) : Bool := !o.development

def endsWith (name suffix : String) : Bool :=
  suffix.toList.isSuffixOf name.toList

/-- The name is one of a source file; files of declarations alone are none. -/
def isSourceName (o : Options) (name : String) : Bool :=
  if endsWith name ".d.ts" || endsWith name ".d.mts" || endsWith name ".d.cts" then false
  else (Path.extensionOf name).any o.extensions.contains

def hasSourceExtension (o : Options) (p : Path) : Bool :=
  p.fileName.any o.isSourceName

/-- Nothing below a directory of this name is looked at. -/
def isExcludedName (o : Options) (name : String) : Bool :=
  (name.toList.head? == some '.' && name.utf8ByteSize > 1) || o.excludeDirs.contains name

/-- A directory on the way to the path is excluded. -/
def isExcluded (o : Options) (p : Path) : Bool :=
  match Path.parentComponents p.components with
  | none => false
  | some cs => cs.any fun c => match c with
      | .name s => o.isExcludedName s
      | _ => false

end Options

end ServerLink
