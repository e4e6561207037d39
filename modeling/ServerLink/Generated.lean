import ServerLink.Edit
import ServerLink.Functions
import ServerLink.Options
import ServerLink.Text.Quoted

/-!
The code that is put into modules: calls that are sent to the server, functions that send them,
the code of the library's helpers, and the statements that register functions on the server.
-/

set_option autoImplicit false

namespace ServerLink

open Text

namespace GlobalNames

/-- Sends a call to the server; `args` is code for the list of arguments. -/
def dispatchCall (g : GlobalNames) (id args : String) : String :=
  g.dispatchRef ++ "(" ++ quoted id ++ ", " ++ args ++ ")"

/-- A function that sends its arguments to the server. -/
def stub (g : GlobalNames) (id : String) : String :=
  "(...args) => " ++ g.dispatchCall id "args"

/-- The beginning of a call that is sent to the server, up to its first argument. -/
def dispatchOpening (g : GlobalNames) (id : String) : String :=
  g.dispatchRef ++ "(" ++ quoted id ++ ", ["

/-- The end of a call that is sent to the server, behind its last argument. -/
def dispatchClosing : String := "])"

/-- The code of the helper that runs a registered function. -/
def handler (g : GlobalNames) : String :=
  "((id, args, ctx) => \x7b const fn = " ++ g.registryRef ++ "?.[id]; "
    ++ "if (!fn) throw new Error(\"Server function not found: \" + id); return fn."
    ++ g.contextFlag ++ " ? fn(ctx, ...args) : fn(...args); \x7d)"

/-- The code of the helper that sets how calls are sent. -/
def handlerSetter (g : GlobalNames) : String :=
  "((handler) => \x7b " ++ g.dispatchRef ++ " = handler; \x7d)"

end GlobalNames

namespace FunctionMap

/-- A module that exports a sending function in the place of each server function. -/
def stubModule (m : FunctionMap) (g : GlobalNames) : String :=
  String.join (m.values.map fun f =>
    "export const " ++ f.exportedName ++ " = " ++ g.stub f.id ++ ";\n")

/-- The statements that register one function. -/
def registerFunction (g : GlobalNames) (f : ServerFunction) : String :=
  let entry := g.registryRef ++ "[" ++ quoted f.id ++ "]"
  entry ++ " = " ++ f.localName ++ ";\n"
    ++ (if f.requiresContext then entry ++ "." ++ g.contextFlag ++ " = true;\n" else "")

/-- The statements that register all functions; a registry is made if there is none. -/
def registration (m : FunctionMap) (g : GlobalNames) : String :=
  let registry := g.registryRef
  "\n;if (!" ++ registry ++ ") \x7b " ++ registry ++ " = Object.create(null); \x7d\n"
    ++ String.join (m.values.map (registerFunction g))

/-- Registration goes behind all else; without functions there is none. -/
def registrationEdit (m : FunctionMap) (g : GlobalNames) (size : Nat) : List Edit :=
  if m.isEmpty then [] else [.insertion size (m.registration g)]

end FunctionMap

end ServerLink
