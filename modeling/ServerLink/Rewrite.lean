import ServerLink.Generated
import ServerLink.ImportedFunctions
import ServerLink.Passes

/-!
Rewriting a module. There is a plan for each call: it is kept, sent to the server, made a stub, or
filled with the code of a helper. The edits follow the plans from the outside in, and leave out
what a plan throws away. Imports that nothing refers to any more are taken out.
-/

set_option autoImplicit false

namespace ServerLink

open Script Text

/-- All that decides how a module is rewritten. -/
structure Rewriting where
  module : Module
  imports : Imports
  imported : ImportedFunctions
  library : LibraryNames
  globals : GlobalNames
  passes : Passes
  /-- The starts of the calls that become stubs, with the identifiers of the functions. -/
  stubs : List (Nat × String)

/-- What happens to a call. -/
inductive CallPlan where
  | keep
  /-- Its argument becomes a stub. -/
  | stub (id : String)
  /-- It is sent to the server. -/
  | dispatch (id : String)
  /-- Code takes the place of what it calls. -/
  | inlined (code : String)
  deriving DecidableEq, Repr

namespace Rewriting

/-! ### Stubs -/

/-- The identifier of the module's own function of a local name. -/
def ownId? (own : FunctionMap) (localName : String) : Option String :=
  (own.values.reverse.find? (·.localName == localName)).map (·.id)

/-- The call of the marker that makes a variable a server function of the module. -/
def stubOf? (is : Imports) (library : LibraryNames) (own : FunctionMap) (declarator : Node) :
    Option (Nat × String) :=
  match declarator with
  | .mk .declarator _ (.mk (.bind name _) _ _ :: value :: _) =>
      if value.args.length == 1 && is.isCallOf library.specifier library.marker value then
        (ownId? own name).map fun id => (value.start, id)
      else none
  | _ => none

/-- The variables that an item declares at the top of the module. -/
def topVariables (item : Node) : List Node :=
  match item with
  | .mk (.variables _) _ ds => ds
  | .mk .exportDecl _ (.mk (.variables _) _ ds :: _) => ds
  | _ => []

def stubsOf (m : Module) (library : LibraryNames) (own : FunctionMap) : List (Nat × String) :=
  (m.items.flatMap topVariables).filterMap (stubOf? m.imports library own)

def ofModule (m : Module) (o : Options) (passes : Passes) (own : FunctionMap)
    (imported : ImportedFunctions) : Rewriting where
  module := m
  imports := m.imports
  imported := imported
  library := o.library
  globals := o.globals
  passes := passes
  stubs := if passes.clientStubs then stubsOf m o.library own else []

/-! ### Plans -/

/-- The code of the helper that a callee names, as far as it can take `count` arguments. -/
def helperCode? (r : Rewriting) (callee : Node) (count : Nat) : Option String :=
  (r.imports.export? r.library.specifier callee).bind fun exported =>
    if exported == r.library.marker then (if count = 1 then some "" else none)
    else if exported == r.library.handle then
      (if count = 2 || count = 3 then some r.globals.handler else none)
    else if exported == r.library.setCallHandler then
      (if count = 1 then some r.globals.handlerSetter else none)
    else none

/-- The plan for a call of the given callee. -/
def planCall (r : Rewriting) (start : Nat) (callee : Node) (args : List Node) : CallPlan :=
  match r.stubs.lookup start with
  | some id => .stub id
  | none =>
      match (if r.passes.callSites then r.imported.calledBy? callee else none) with
      | some f => .dispatch f.id
      | none =>
          if r.passes.inlineHelpers && !args.any Node.isSpread then
            match r.helperCode? callee args.length with
            | some code => .inlined code
            | none => .keep
          else .keep

/-- The plan for a tree; only calls are not kept. -/
def plan (r : Rewriting) (n : Node) : CallPlan :=
  match n with
  | .mk .call _ (callee :: _) => r.planCall n.start callee n.args
  | _ => .keep

/-! ### Edits -/

/-- Code in the place of the callee and the type arguments of a call. -/
def calleeEdit (call : Node) (code : String) : Edit :=
  let stop := match call.typeArgs?, call.callee? with
    | some t, _ => t.stop
    | none, some callee => callee.stop
    | none, none => call.start
  ⟨call.start, stop, code⟩

/-- The edits that send a call to the server: around its arguments, which stay. -/
def dispatchEdits (r : Rewriting) (call : Node) (id : String) : List Edit :=
  let opening := r.globals.dispatchOpening id
  match call.args.head?, call.args.getLast? with
  | some first, some last =>
      [⟨call.start, first.start, opening⟩, ⟨last.stop, call.stop, GlobalNames.dispatchClosing⟩]
  | _, _ => [⟨call.start, call.stop, opening ++ GlobalNames.dispatchClosing⟩]

/-- The edits that make a call's argument a stub. -/
def stubEdits (r : Rewriting) (call : Node) (id : String) : List Edit :=
  match call.args.head? with
  | some arg => [⟨arg.argValue.start, arg.argValue.stop, r.globals.stub id⟩]
  | none => []

/-- The edits a plan makes to the call itself. -/
def ownEdits (r : Rewriting) (call : Node) : CallPlan → List Edit
  | .keep => []
  | .stub id =>
      (if r.passes.inlineHelpers then [calleeEdit call ""] else []) ++ r.stubEdits call id
  | .dispatch id => r.dispatchEdits call id
  | .inlined code => [calleeEdit call code]

/-- The parts of a call that a plan leaves standing. -/
def survives (r : Rewriting) (p : CallPlan) (part : Kind) : Bool :=
  match p with
  | .keep => true
  | .stub _ => !r.passes.inlineHelpers && part != .arguments
  | .dispatch _ | .inlined _ => part == .arguments

mutual

/-- The edits of a tree and of all in it that stands. -/
def edits (r : Rewriting) : Node → List Edit
  | .mk k span ps =>
      let p := r.plan (.mk k span ps)
      if isImport k then [] else r.ownEdits (.mk k span ps) p ++ r.partEdits (r.survives p) ps

def partEdits (r : Rewriting) (stands : Kind → Bool) : List Node → List Edit
  | [] => []
  | p :: ps => (if stands p.kind then r.edits p else []) ++ r.partEdits stands ps

end

/-! ### Names that are still used -/

/-- The name of the module's own that a tree itself mentions. -/
def mentioned? : Kind → Option String
  | .use s true | .bind s true | .typeUse s true => some s
  | _ => none

mutual

/-- The module's own names that are mentioned in what stands of a tree. -/
def uses (r : Rewriting) : Node → List String
  | .mk k span ps =>
      if isImport k then []
      else (mentioned? k).toList ++ r.partUses (r.survives (r.plan (.mk k span ps))) ps

def partUses (r : Rewriting) (stands : Kind → Bool) : List Node → List String
  | [] => []
  | p :: ps => (if stands p.kind then r.uses p else []) ++ r.partUses stands ps

end

def allUses (r : Rewriting) : List String :=
  r.partUses (fun _ => true) r.module.items

/-! ### Imports that go -/

/-- The binding brings a helper whose code is put inline. -/
def isHelper (r : Rewriting) (b : Binding) : Bool :=
  b.source == r.library.specifier && match b.imported with
    | .named name => r.library.isInlined name
    | _ => false

/-- The entry of an import takes nothing but such a helper. -/
def isHelperEntry (r : Rewriting) (entry : Node) : Bool :=
  match entry.kind with
  | .importSpec (.named name) typeOnly => !typeOnly && r.library.isInlined name
  | _ => false

def importEntries (item : Node) : List Node :=
  item.parts.filter fun p => match p.kind with
    | .importSpec _ _ => true
    | _ => false

/-- The range of an import, with the line feed right behind it. -/
def importRange (text : List Char) (item : Node) : Nat × Nat :=
  let rest := ((splitAt? text item.stop).map Prod.snd).getD []
  let more := match rest with
    | '\r' :: '\n' :: _ => 2
    | '\n' :: _ => 1
    | _ => 0
  (item.start, item.stop + more)

/-- The import is of no use any more: it took only helpers, all of which are inline now, or the
module's functions are stubs and nothing that stands mentions what it declares. -/
def isDead (r : Rewriting) (uses : List String) (item : Node) : Bool :=
  match item.kind with
  | .importDecl source typeOnly =>
      let entries := importEntries item
      let helpersGone := r.passes.inlineHelpers &&
        !uses.any (fun s => (r.imports.find? s).any r.isHelper)
      let onlyHelpers := source == r.library.specifier && !typeOnly && entries.all r.isHelperEntry
      let unused := !r.stubs.isEmpty && (entries.flatMap fun e => ownNames e.parts).all fun s =>
        !uses.contains s
      !entries.isEmpty && ((helpersGone && onlyHelpers) || unused)
  | _ => false

def importRemovals (r : Rewriting) : List Edit :=
  let uses := r.allUses
  (r.module.items.filter (r.isDead uses)).map fun item =>
    let (start, stop) := importRange r.module.text item
    .removal start stop

/-! ### The whole -/

/-- Something may have to be changed. -/
def isNeeded (r : Rewriting) : Bool :=
  (r.passes.callSites && !r.imported.isEmpty) || !r.stubs.isEmpty ||
    (r.passes.inlineHelpers && r.imports.importsFrom r.library.specifier)

/-- All edits of the module. -/
def allEdits (r : Rewriting) : List Edit :=
  if r.isNeeded then
    r.partEdits (fun _ => true) r.module.items ++
      (if r.passes.inlineHelpers || !r.stubs.isEmpty then r.importRemovals else [])
  else []

end Rewriting

end ServerLink
