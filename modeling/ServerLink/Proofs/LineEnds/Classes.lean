import ServerLink.Proofs.LineEnds.Types

/-!
Classes, in a text and in the text with carriage returns.
-/

set_option autoImplicit false

namespace ServerLink.Script.Parse

open Text

variable {text : List Char}

instance : Widens Modifiers := .same Modifiers

@[simp] theorem alike_eatModifier (words : List String) :
    Alike text (eatModifier words) (eatModifier words) := by
  refine alike_bind alike_token fun t _ s c => ?_
  rw [widen_fixed]
  split <;> simp

@[simp] theorem alike_eatStatic : Alike text eatStatic eatStatic := by
  intro s c
  simp [eatStatic]

@[simp] theorem alike_lastModifier (derived : Bool) (m : Modifiers) :
    Alike text (lastModifier derived m) (lastModifier derived m) := by
  intro s c
  simp [lastModifier]

@[simp] theorem alike_modifiers (derived : Bool) :
    Alike text (modifiers derived) (modifiers derived) := by
  have words (m : Modifiers) :
      Alike text (loop (lastModifier derived) m) (loop (lastModifier derived) m) :=
    alike_loop rfl trivial fun m _ => alike_lastModifier derived m
  intro s c
  simp [modifiers, words]

variable {self self' : Goal → Parse Node} (alike : ∀ g, Alike text (self g) (self' g))

include alike

/-! ### Members -/

@[simp] theorem alike_methodTail (start : Nat) (m : Modifiers) (key : Node) (kind : Kind)
    (form : FunctionForm) {accepts : Node → Bool}
    (accepted : ∀ n, accepts (widen text n) = accepts n) :
    Alike text (methodTail self start m key kind form accepts)
      (methodTail self' (widen text start) m (widen text key) kind form accepts) := by
  unfold methodTail
  simp only [memberName?_widen, isPrivateKey_widen]
  refine alike_bind (alike_faultIf rfl) fun _ _ => alike_bind (alike_faultIf rfl) fun _ _ =>
    alike_bind (alike_faultIf rfl) fun _ _ => alike_bind alike_here fun opened _ =>
    alike_bind (alike_functionTail alike .function _ rfl rfl) fun f _ s c => ?_
  simp only [part?_widen]
  cases f.part? .params <;> simp [accepted]

@[simp] theorem alike_fieldTail (start : Nat) (m : Modifiers) (key : Node) :
    Alike text (fieldTail self start m key)
      (fieldTail self' (widen text start) m (widen text key)) := by
  intro s c
  simp [fieldTail, alike]

@[simp] theorem alike_namedMember (start : Nat) (m : Modifiers) :
    Alike text (namedMember self start m) (namedMember self' (widen text start) m) := by
  intro s c
  simp [namedMember, alike]

@[simp] theorem alike_classMember (derived : Bool) :
    Alike text (classMember self derived) (classMember self' derived) := by
  intro s c
  simp [classMember, alike]

@[simp] theorem alike_classMembers (derived : Bool) :
    Alike text (classMembers self derived) (classMembers self' derived) := by
  refine alike_bind (alike_expect _) fun _ _ =>
    alike_bind (alike_loop rfl (by simp) fun state _ s c => ?_) fun state _ s c => ?_
  · simp [alike]
  · simp

/-! ### Classes -/

@[simp] theorem alike_heritageList (kind : Kind) :
    Alike text (heritageList self kind) (heritageList self' kind) := by
  refine alike_bind alike_here fun start _ =>
    alike_bind (alike_loop rfl (by simp) fun ts _ s c => ?_) fun ts _ s c => ?_
  · simp [alike]
  · simp

@[simp] theorem alike_classTail (kind : Kind) (start : Nat) {ds ds' : List Node} (nameNeeded : Bool)
    (same : ds' = widen text ds) : Alike text (classTail self kind start ds nameNeeded)
      (classTail self' kind (widen text start) ds' nameNeeded) := by
  subst same
  have members (derived : Bool) := alike_classMembers alike derived
  unfold classTail
  extract_lets rest rest'
  have rests {name name' : List Node} (same : name' = widen text name) :
      Alike text (rest name) (rest' name') := by
    subst same
    intro s c
    simp [rest, rest', alike, members]
  intro s c
  simp [rests]

end ServerLink.Script.Parse
