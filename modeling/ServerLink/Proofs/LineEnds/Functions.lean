import ServerLink.Proofs.LineEnds.Goals

/-!
Patterns, decorators, parameters and functions, in a text and in the text with carriage returns.
-/

set_option autoImplicit false

namespace ServerLink.Script.Parse

open Text

variable {text : List Char}

@[simp] theorem alike_dotted (start : Nat) (object : Node) :
    Alike text (dotted start object) (dotted (widen text start) (widen text object)) := by
  refine alike_bind alike_token fun t _ s c => ?_
  rw [widen_fixed]
  split <;> simp

@[simp] theorem alike_eatParameterWord (words : List String) :
    Alike text (eatParameterWord words) (eatParameterWord words) := by
  refine alike_bind alike_token fun t _ s c => ?_
  rw [widen_fixed]
  split <;> simp

@[simp] theorem alike_parameterModifiers :
    Alike text parameterModifiers parameterModifiers := by
  intro s c
  simp [parameterModifiers]

variable {self self' : Goal → Parse Node} (alike : ∀ g, Alike text (self g) (self' g))

include alike

/-! ### Patterns -/

@[simp] theorem alike_withDefault (start : Nat) (p : Node) :
    Alike text (withDefault self start p)
      (withDefault self' (widen text start) (widen text p)) := by
  intro s c
  simp [withDefault, alike]

@[simp] theorem alike_patternElement :
    Alike text (patternElement self) (patternElement self') := by
  intro s c
  simp [patternElement, alike]

@[simp] theorem alike_arrayPatternTail (start : Nat) :
    Alike text (arrayPatternTail self start) (arrayPatternTail self' (widen text start)) := by
  refine alike_bind (alike_loop rfl (by simp) fun parts _ s c => ?_) fun parts _ s c => ?_
  · simp [alike]
  · simp

@[simp] theorem alike_patternProperty :
    Alike text (patternProperty self) (patternProperty self') := by
  refine alike_bind alike_here fun start _ => alike_bind (alike_eat _) fun _ _ s c =>
    (meets_ite rfl).2 ⟨fun _ => ?_, fun _ => (meets_bind_fixed alike_token).2 fun t => ?_⟩
  · simp
  · split <;> simp [alike]

@[simp] theorem alike_bindingPattern :
    Alike text (bindingPattern self) (bindingPattern self') := by
  have properties := alike_listUntil "\x7d" (alike_patternProperty alike)
  intro s c
  simp [bindingPattern, alike, properties]

/-! ### Arguments and decorators -/

@[simp] theorem alike_callArguments :
    Alike text (callArguments self) (callArguments self') := by
  refine alike_bind alike_here fun start _ => alike_bind (alike_expect _) fun _ _ => ?_
  refine alike_bind (alike_within (fun _ => rfl) (alike_listUntil _ fun s c => ?_))
    fun args _ s c => ?_
  · simp [alike]
  · simp

@[simp] theorem alike_decorator : Alike text (decorator self) (decorator self') := by
  refine alike_bind alike_here fun start _ => alike_bind (alike_expect _) fun _ _ =>
    alike_bind alike_here fun first _ => alike_bind (alike_eat _) fun _ _ s c =>
    (meets_ite rfl).2 ⟨fun _ => ?_, fun _ => ?_⟩
  · simp [alike]
  · refine alike_bind alike_plainName (fun _ _ => alike_bind (alike_node rfl rfl) fun _ _ =>
      alike_bind (alike_loop rfl (by simp) fun n _ s c => ?_) fun target _ s c => ?_) s c
    · simp
    · simp [alike]

@[simp] theorem alike_decorators : Alike text (decorators self) (decorators self') := by
  refine alike_bind (alike_loop rfl (by simp) fun ds _ s c => ?_) fun ds _ s c => ?_
  · simp [alike]
  · simp

/-! ### Parameters -/

@[simp] theorem alike_parameter (ofConstructor : Bool) :
    Alike text (parameter self ofConstructor) (parameter self' ofConstructor) := by
  intro s c
  simp [parameter, alike]

@[simp] theorem alike_parameters (ofConstructor : Bool) :
    Alike text (parameters self ofConstructor) (parameters self' ofConstructor) := by
  refine alike_bind alike_here fun start _ => alike_bind (alike_expect _) fun _ _ => ?_
  refine alike_bind (alike_loop rfl (by simp) fun ps _ s c => ?_) fun ps _ s c => ?_
  · simp [alike]
  · simp

/-! ### Functions -/

@[simp] theorem alike_functionBody (form : FunctionForm) (ps : Node) :
    Alike text (functionBody self form ps) (functionBody self' form (widen text ps)) := by
  intro s c
  simp [functionBody, Setting.forBody, alike]

@[simp] theorem alike_functionTail (kind : Kind) {start start' : Nat} {name name' : List Node}
    (form : FunctionForm) (starts : start' = widen text start) (named : name' = widen text name) :
    Alike text (functionTail self kind start name form)
      (functionTail self' kind start' name' form) := by
  subst starts named
  have ps := alike_parameters alike form.ofConstructor
  intro s c
  simp [functionTail, Setting.forParams, alike, ps]

@[simp] theorem alike_functionAfterWord (kind : Kind) (start : Nat) (async nameNeeded : Bool) :
    Alike text (functionAfterWord self kind start async nameNeeded)
      (functionAfterWord self' kind (widen text start) async nameNeeded) := by
  intro s c
  simp [functionAfterWord, alike]

end ServerLink.Script.Parse
