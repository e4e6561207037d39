import Mathlib.Data.List.Find
import ServerLink.Proofs.Declaring
import ServerLink.Proofs.Mentions

/-!
Imports under other names. When the name of what is imported is replaced wherever the module means
the import by it, and nothing else has or takes the new name, the same calls are calls of an export
of the library as before.
-/

set_option autoImplicit false

namespace ServerLink

open Script

-- The binding after `s` has been renamed to `t`.
def Binding.rename (s t : String) (b : Binding) : Binding :=
  { b with localName := renamed s t b.localName }

def Imports.rename (s t : String) (is : Imports) : Imports :=
  ⟨is.bindings.map (Binding.rename s t)⟩

/-- Nothing on the way to a use of the module's own `s` declares `t`, and nothing above the tree
does. -/
def Script.Node.Free (s t : String) (above : String → Prop) (n : Node) : Prop :=
  ∀ steps q, n.Leads steps q → q.kind = .use s true → ¬ above t ∧ ∀ x ∈ steps, ¬ x.Shadows t

section Renaming

variable {s t : String} {is is' : Imports}

theorem Script.Node.Free.part {above : String → Prop} {n p : Node} (h : n.Free s t above)
    (part : p ∈ n.parts) : p.Free s t fun name => above name ∨ n.kind.Shadows n.parts p name := by
  intro steps q leads used
  obtain ⟨outside, between⟩ := h _ q (.down part leads) used
  obtain ⟨first, rest⟩ := List.forall_mem_cons.1 between
  exact ⟨not_or.2 ⟨outside, first⟩, rest⟩

-- The export that the name itself stands for.
def Binding.export? (b : Binding) : Option String :=
  match b.imported with
  | .named exported => some exported
  | _ => none

section Trees

variable {n m : Node} {above : String → Prop}

end Trees

end Renaming

/-! ### Checking that one tree renames another -/

def Script.Kind.isRenaming (s t : String) : Kind → Kind → Bool
  | .use x true, .use y _ => y == renamed s t x
  | .use x false, .use y _ => y == x
  | .bind x _, .bind y _ => y == x
  | .typeUse _ _, .typeUse _ _ => true
  | k, k' => !k.isName && k == k'

mutual

-- Shapes have to be the same, so that no property may be written in another way.
def Script.Node.isRenaming (s t : String) : Node → Node → Bool
  | .mk k _ ps, .mk k' _ qs => k.isRenaming s t k' && areRenamings s t ps qs

def areRenamings (s t : String) : List Node → List Node → Bool
  | [], [] => true
  | p :: ps, q :: qs => p.isRenaming s t q && areRenamings s t ps qs
  | _, _ => false

end

section

variable {s t : String}

theorem Script.Kind.renames_of_isRenaming {k k' : Kind} (h : k.isRenaming s t k' = true) :
    k.Renames s t k' := by
  unfold isRenaming at h
  split at h
  · exact eq_of_beq h ▸ .own _ _
  · exact eq_of_beq h ▸ .inner _ _
  · exact eq_of_beq h ▸ .bind _ _ _
  · exact .type _ _ _ _
  · obtain ⟨plain, same⟩ := Bool.and_eq_true_iff.1 h
    exact eq_of_beq same ▸ .same _ (by simpa using plain)

mutual

theorem Script.Node.renames_of_isRenaming : {n m : Node} → n.isRenaming s t m = true →
    n.Renames s t m
  | .mk _ _ _, .mk _ _ _, h => by
    obtain ⟨kinds, rows⟩ := Bool.and_eq_true_iff.1 h
    exact .node (Kind.renames_of_isRenaming kinds) (rows_of_areRenamings rows)

theorem rows_of_areRenamings : {ps qs : List Node} → areRenamings s t ps qs = true →
    List.Forall₂ (Node.Renames s t) ps qs
  | [], [], _ => .nil
  | _ :: _, _ :: _, h => by
    obtain ⟨first, rest⟩ := Bool.and_eq_true_iff.1 h
    exact .cons (Script.Node.renames_of_isRenaming first) (rows_of_areRenamings rest)
  | [], _ :: _, h | _ :: _, [], h => Bool.noConfusion h

end

end

end ServerLink
