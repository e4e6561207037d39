import ServerLink.Functions
import ServerLink.Imports
import ServerLink.Pattern.Compile

/-!
Finding the server functions of a module. A declaration at the top of a module is a candidate if
it has the right shape; a candidate is a server function under every name the module exports it
by, be it where it is declared or in a list of exports.
-/

set_option autoImplicit false

namespace ServerLink

open Script

/-- A declaration that would be a server function if it were exported. -/
structure Candidate where
  name : String
  line : Nat
  requiresContext : Bool
  deriving DecidableEq, Repr

/-! ### Parameters -/

/-- The type that stands behind a name, array or object pattern; of a pattern with a default it is
the pattern's. -/
def annotation? : Node → Option Node
  | .mk .defaulted _ (p :: _) => annotation? p
  | .mk (.bind _ _) _ ps | .mk .arrayPattern _ ps | .mk .objectPattern _ ps =>
      (ps.find? (·.kind == .typeAnn)).bind (·.parts.head?)
  | _ => none

/-- The type of the first parameter of a function, if it has one. -/
def firstParamType? (function : Node) : Option Node :=
  ((function.part? .params).bind (·.undecorated.head?)).bind annotation?

def isFunctionLiteral (e : Node) : Bool :=
  e.kind == .arrow || e.kind == .function

/-! ### Declarations -/

/-- A variable that is declared under a single name with a value: the name, the variable and the
value. -/
def namedValue? (d : Node) : Option (String × Node × Node) :=
  match d with
  | .mk .declarator _ (.mk (.bind name _) _ _ :: value :: _) => some (name, d, value)
  | _ => none

/-- The names and values of the variables a declaration declares. -/
def namedValues (declaration : Node) : List (String × Node × Node) :=
  match declaration with
  | .mk (.variables _) _ ds => ds.filterMap namedValue?
  | _ => []

/-- The declaration behind an inline export. -/
def exported? : Node → Option Node
  | .mk .exportDecl _ (d :: _) => some d
  | _ => none

/-- The module's context type is the type of the function's first parameter. -/
def wantsContext (o : Options) (is : Imports) (function : Node) : Bool :=
  (firstParamType? function).any (is.isTypeOf o.library.specifier o.library.contextType)

/-- Variables whose value is the marker called with one function literal. -/
def markedCandidates (o : Options) (m : Module) (declaration : Node) : List Candidate :=
  (namedValues declaration).filterMap fun (name, declarator, value) =>
    if m.imports.isCallOf o.library.specifier o.library.marker value then
      match value.args with
      | [f] =>
          if isFunctionLiteral f then
            some ⟨name, m.lineOf declarator, wantsContext o m.imports f⟩
          else none
      | _ => none
    else none

/-- Function declarations, and variables whose value is a function literal. -/
def functionCandidates (o : Options) (m : Module) (declaration : Node) : List Candidate :=
  match declaration with
  | .mk .functionDecl _ ps =>
      (ownNames ps).map fun name =>
        ⟨name, m.lineOf declaration, wantsContext o m.imports declaration⟩
  | d => (namedValues d).filterMap fun (name, declarator, value) =>
      if isFunctionLiteral value then
        some ⟨name, m.lineOf declarator, wantsContext o m.imports value⟩
      else none

/-! ### Exports -/

/-- The entries of the lists in which the module exports values of its own: the exported name and
the name it has in the module. -/
def listedExports (items : List Node) : List (String × String) :=
  items.flatMap fun item => match item with
    | .mk (.exportList none false) _ entries => entries.filterMap fun e => match e with
        | .mk (.exportSpec exported _) _ (.mk (.use name _) _ _ :: _) => some (exported, name)
        | _ => none
    | _ => []

/-- Candidates under the names they are exported by. Of two candidates of one name that are not
exported where they are declared, a list means the later one. -/
def exportedCandidates (items : List Node) (shape : Node → List Candidate) :
    List (String × Candidate) :=
  let declared := (items.filterMap exported?).flatMap shape
  let plain := (items.flatMap shape).reverse
  let listed := (listedExports items).filterMap fun (exported, name) =>
    (plain.find? (·.name == name)).map fun c => (exported, c)
  declared.map (fun c => (c.name, c)) ++ listed

/-! ### Modules -/

/-- How modules are searched: the options, and the pattern that files have to match if functions
are found by file. -/
structure Discovery where
  options : Options
  pattern : Option Pattern.Expr

namespace Discovery

def ofOptions (o : Options) : Except Failure Discovery :=
  match o.detection with
  | .marker => .ok ⟨o, none⟩
  | .filePattern text =>
      match Pattern.compile? text with
      | some e => .ok ⟨o, some e⟩
      | none => .error .pattern

def candidates (d : Discovery) (m : Module) (file : String) : List (String × Candidate) :=
  match d.pattern with
  | none =>
      if m.imports.importsFrom d.options.library.specifier then
        exportedCandidates m.items (markedCandidates d.options m)
      else []
  | some p =>
      if p.matches file.toList then exportedCandidates m.items (functionCandidates d.options m)
      else []

/-- The server functions of a module, whose identifiers tell its place below the root. -/
def scan (d : Discovery) (m : Module) (root : Path) : FunctionMap :=
  let file := Path.idPath root m.path
  .ofList ((d.candidates m file).map fun (exported, c) =>
    (exported, ⟨functionId c.name file c.line, m.path, exported, c.name, c.requiresContext⟩))

end Discovery

end ServerLink
