import Mathlib.Data.List.Nodup
import Mathlib.Data.List.TakeWhile
import ServerLink.Proofs.Mentions
import ServerLink.Proofs.OwnFunctions
import ServerLink.Proofs.Parsing.ImportNames

/-!
Which calls are sent to the server. A call is sent if what it calls names a function that an import
brings from another file; in which order the imports are taken makes no difference, because each key
tells the import it is from.
-/

set_option autoImplicit false

namespace ServerLink

open Script Text

/-! ### What a callee names -/

/-- The expression names an export of the module that an import takes from: by a name imported for
it, or as a property of the whole. -/
inductive Names (b : Binding) (exported : String) : Node → String → Prop
  | name (span : Span) (ps : List Node) (named : b.imported = .named exported) :
      Names b exported (.mk (.use b.localName true) span ps) b.localName
  | property (span place : Span) (ps more : List Node) (whole : b.imported = .namespace) :
      Names b exported (.mk (.member exported) span (.mk (.use b.localName true) place ps :: more))
        (b.localName ++ "." ++ exported)

namespace ImportedFunctions

variable {is : Imports} {functionsOf : Binding → Option FunctionMap} {own : FunctionMap}
  {b : Binding}

-- What one binding brings.
def brought (functionsOf : Binding → Option FunctionMap) (b : Binding) : List ImportedFunction :=
  if b.typeOnly then []
  else match functionsOf b with
    | some functions => ofBinding b functions
    | none => []

end ImportedFunctions

namespace ImportedFunctions

variable {is js : Imports} {functionsOf : Binding → Option FunctionMap} {own : FunctionMap}

end ImportedFunctions

/-! ### What is reached -/

namespace Rewriting

section Imported

variable (r : Rewriting) {fs : ImportedFunctions}
  (same : ∀ callee, fs.calledBy? callee = r.imported.calledBy? callee)

include same

end Imported

mutual

/-- The trees that are reached in a tree: all that stand, where each call says which of its parts
do. -/
def reached (r : Rewriting) : Node → List Node
  | .mk k span ps =>
      if isImport k then []
      else .mk k span ps :: r.partReached (r.survives (r.plan (.mk k span ps))) ps

def partReached (r : Rewriting) (stands : Kind → Bool) : List Node → List Node
  | [] => []
  | p :: ps => (if stands p.kind then r.reached p else []) ++ r.partReached stands ps

end

variable {r : Rewriting} {n : Node}

theorem mem_partReached {stands : Kind → Bool} {ps : List Node} :
    n ∈ r.partReached stands ps ↔ ∃ p ∈ ps, stands p.kind = true ∧ n ∈ r.reached p := by
  induction ps with
  | nil => simp [partReached]
  | cons p ps ih =>
    by_cases here : stands p.kind = true
    next => simp [partReached, here, ih]
    next => simp [partReached, here, ih]

theorem mem_reached {k : Kind} {span : Span} {ps : List Node} :
    n ∈ r.reached (.mk k span ps) ↔ isImport k = false ∧ (n = .mk k span ps ∨
      ∃ p ∈ ps, r.survives (r.plan (.mk k span ps)) p.kind = true ∧ n ∈ r.reached p) := by
  cases stays : isImport k with
  | true => simp [reached, stays]
  | false => simp [reached, stays, mem_partReached]

theorem mem_all_of_reached {t : Node} (inside : n ∈ r.reached t) : n ∈ t.all := by
  induction t using Node.induct with
  | step k span ps ih =>
    obtain ⟨-, here | ⟨p, member, -, below⟩⟩ := mem_reached.1 inside
    · exact here ▸ mem_all_self _
    · exact mem_all_of_part member (ih p member below)

-- Only one part of a call holds arguments.
theorem eq_of_arguments {call callee args p : Node} {types : Option Node} {text : List Char}
    (shape : call.CallPlaced text callee types args) (member : p ∈ call.parts)
    (given : p.kind = .arguments) : p = args := by
  rw [shape.parts, ← List.cons_append] at member
  cases List.mem_append.1 member with
  | inl head => exact absurd given (shape.heads p head)
  | inr last => exact List.mem_singleton.1 last

end Rewriting

/-! ### Calls of imported functions -/

section Client

variable {path : Path} {text : List Char} {m : Module} {own : FunctionMap}

end Client

namespace Sample

def called : ImportedFunctions := ⟨ImportedFunctions.ofBinding ⟨"f", "./a.ts", .named "f", false, ⟨9, 10⟩⟩ functions⟩

end Sample

end ServerLink
