import ServerLink.Failure
import ServerLink.Script.Grammar
import ServerLink.Script.Scope
import ServerLink.Text.Offset
import ServerLink.Text.Position

/-!
Modules: the text of a file together with the trees read from it. Spans count bytes of the text
without its byte order mark.
-/

set_option autoImplicit false

namespace ServerLink

open Text Script

/-- The extension of its file tells what a module is written in. -/
def Script.Language.ofExtension (ext : Option String) : Language :=
  match ext with
  | some "ts" | some "mts" | some "cts" => ⟨true, false⟩
  | some "tsx" => ⟨true, true⟩
  | _ => ⟨false, true⟩

namespace Script

mutual

/-- A tree and all trees inside it, each before its parts. -/
def Node.all : Node → List Node
  | .mk k span ps => .mk k span ps :: allNodes ps

def allNodes : List Node → List Node
  | [] => []
  | p :: ps => p.all ++ allNodes ps

end

/-- The order of spans: by their start, then by their end. -/
def Span.le (a b : Span) : Bool :=
  a.start < b.start || (a.start == b.start && a.stop ≤ b.stop)

/-- All trees of a kind, in the order of their spans. -/
def nodesOf (k : Kind) (ns : List Node) : List Node :=
  ((allNodes ns).filter (·.kind == k)).mergeSort fun a b => a.span.le b.span

/-- What a call calls. -/
def Node.callee? (call : Node) : Option Node := call.parts.head?

def Node.typeArgs? (call : Node) : Option Node := call.part? .typeArgs

def Node.args (call : Node) : List Node :=
  ((call.part? .arguments).map Node.parts).getD []

/-- The value an argument gives; a spread gives the values of the expression behind the dots. -/
def Node.argValue : Node → Node
  | .mk .spread _ (e :: _) => e
  | n => n

/-- The tree is an import. -/
def isImport (k : Kind) : Bool :=
  match k with
  | .importDecl _ _ => true
  | _ => false

def Node.isSpread (n : Node) : Bool := n.kind == .spread

end Script

structure Module where
  path : Path
  text : List Char
  items : List Node

namespace Module

/-- Reads a module and settles what its names mean. -/
def parse (path : Path) (text : List Char) : Except Failure Module :=
  match parseScript (.ofExtension path.extension) text with
  | some items => .ok ⟨path, text, resolveParts (.uniform .none) items⟩
  | none => .error (.malformed path)

def size (m : Module) : Nat := byteLength m.text

/-- The line of the file that a tree begins on. -/
def lineOf (m : Module) (n : Node) : Nat :=
  lineAt (withoutMark m.text) n.start

/-- The text between two offsets of the file. -/
def snippet (m : Module) (n : Node) : String :=
  String.ofList (slice m.text n.start n.stop)

def calls (m : Module) : List Node := nodesOf .call m.items

def typeRefs (m : Module) : List Node := nodesOf .typeRef m.items

end Module

end ServerLink
