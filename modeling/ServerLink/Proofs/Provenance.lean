import ServerLink.Proofs.Aliases

/-!
Which calls are calls of an export of the library. A call is one exactly if no tree around it
declares the name of its callee and an import of the module brings the export under this name.
-/

set_option autoImplicit false

namespace ServerLink

open Script

/-! ### Where a name was declared -/

/-- The callee goes by the name `s`, and is the given export if `s` is imported as said. Nothing
between parentheses is such a callee, and no property that is computed. -/
inductive Script.Node.Names : Node → String → Imported → String → Prop
  | single {s e : String} {o : Bool} {a : Span} {ps : List Node} :
      Names (.mk (.use s o) a ps) s (.named e) e
  | property {s e : String} {o : Bool} {a b : Span} {ps qs : List Node} :
      Names (.mk (.member e) a (.mk (.use s o) b ps :: qs)) s .namespace e

theorem Script.Node.Names.unique {callee : Node} {s s' e e' : String} {imported imported' : Imported}
    (h : callee.Names s imported e) (h' : callee.Names s' imported' e') : s = s' := by
  cases h <;> cases h' <;> rfl

theorem Script.Node.Leads.trans {n p q : Node} {steps more : List Step} (h : n.Leads steps p)
    (h' : p.Leads more q) : n.Leads (steps ++ more) q := by
  induction h with
  | here => exact h'
  | down part _ ih => exact .down part (ih h')

section Calls

variable {is : Imports} {m : Module} {library exported s : String} {callee call item : Node}
  {steps : List Step} {imported : Imported}

end Calls

/-! ### Calls of the library -/

namespace Sample

end Sample

end ServerLink
