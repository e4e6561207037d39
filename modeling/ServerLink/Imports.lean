import ServerLink.Module
import ServerLink.Options

/-!
What a module imports, and which of its expressions and types name an export of the library. Only
a name that means the module's own, or a property of one, can do so.
-/

set_option autoImplicit false

namespace ServerLink

open Script

/-- A name that an import declares. -/
structure Binding where
  localName : String
  source : String
  imported : Imported
  typeOnly : Bool
  span : Span
  deriving DecidableEq, Repr

structure Imports where
  bindings : List Binding
  deriving Repr

namespace Imports

def empty : Imports := ⟨[]⟩

def find? (is : Imports) (name : String) : Option Binding :=
  is.bindings.find? (·.localName == name)

/-- A later import of a name takes the place of an earlier one. -/
def insert (is : Imports) (b : Binding) : Imports :=
  ⟨is.bindings.filter (·.localName != b.localName) ++ [b]⟩

/-- The binding that an entry of an import declares. -/
def bindingOf (source : String) (typeOnly : Bool) (entry : Node) : Option Binding :=
  match entry with
  | .mk (.importSpec imported entryTypeOnly) _ (.mk (.bind name _) span _ :: _) =>
      some ⟨name, source, imported, typeOnly || entryTypeOnly, span⟩
  | _ => none

def bindingsOf (item : Node) : List Binding :=
  match item with
  | .mk (.importDecl source typeOnly) _ entries => entries.filterMap (bindingOf source typeOnly)
  | _ => []

def ofItems (items : List Node) : Imports :=
  (items.flatMap bindingsOf).foldl insert empty

/-- Something is imported from the module, be it only a type. -/
def importsFrom (is : Imports) (source : String) : Bool :=
  is.bindings.any (·.source == source)

/-- The name's binding, if it brings a value from the library. -/
def value? (is : Imports) (library name : String) : Option Binding :=
  (is.find? name).filter fun b => b.source == library && !b.typeOnly

/-- The export of the library that an expression names: through a name imported for it, or as a
property of the imported whole. -/
def export? (is : Imports) (library : String) (e : Node) : Option String :=
  match e with
  | .mk (.use name true) _ _ =>
      (is.value? library name).bind fun b => match b.imported with
        | .named exported => some exported
        | _ => none
  | .mk (.member property) _ (.mk (.use name true) _ _ :: _) =>
      ((is.value? library name).filter (·.imported == .namespace)).map fun _ => property
  | _ => none

/-- The call is one of the given export of the library. -/
def isCallOf (is : Imports) (library exported : String) (call : Node) : Bool :=
  match call with
  | .mk .call _ (callee :: _) => is.export? library callee == some exported
  | _ => false

/-- The type is the given export of the library; a type may be imported as a type only. -/
def isTypeOf (is : Imports) (library exported : String) (type : Node) : Bool :=
  match type with
  | .mk .typeRef _ (.mk (.typeUse name true) _ _ :: _) =>
      (is.find? name).any fun b => b.source == library && b.imported == .named exported
  | .mk .typeRef _ (.mk (.qualified property) _ (.mk (.typeUse name true) _ _ :: _) :: _) =>
      property == exported &&
        (is.find? name).any fun b => b.source == library && b.imported == .namespace
  | _ => false

end Imports

def Module.imports (m : Module) : Imports := .ofItems m.items

end ServerLink
