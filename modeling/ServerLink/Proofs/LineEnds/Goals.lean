import ServerLink.Proofs.LineEnds.Steps

/-!
The rules that all goals share, in a text and in the text with carriage returns: annotations, type
parameters and the names of properties.
-/

set_option autoImplicit false

namespace ServerLink.Script.Parse

open Text

variable {text : List Char}

@[simp] theorem alike_openAngle : Alike text openAngle openAngle := by
  intro s c
  refine (meets_bind_fixed alike_token).2 fun r => ?_
  obtain ⟨value, here⟩ := r.eq rfl
  rw [value, here]
  split
  next => simp
  next two =>
    refine (meets_bind alike_cursor).2 fun r => ?_
    obtain ⟨value, here⟩ := r.eq rfl
    rw [value, here]
    -- of two brackets in a row the second is left
    have spelled := (r.valid.stands.spelled "<<".toList (by simp [two, Tail.spelling?])).1
    have behind := @behind_widen text _ r.valid.stands.here ['<'] ('<' :: c.next.chars) spelled
      (by decide) (by simp [Char.utf8Size])
    exact meets_of_alike (alike_moveTo behind.1 behind.2)
  next => simp

@[simp] theorem alike_angleAhead : Alike text angleAhead angleAhead := by
  intro s c
  simp [angleAhead]

@[simp] theorem alike_varianceWords (place : TypeParamPlace) :
    Alike text (varianceWords place) (varianceWords place) := by
  refine alike_loop rfl (by simp) fun seen _ s c => ?_
  obtain ⟨isIn, isOut⟩ := seen
  simp only [widen_fixed]
  simp
  intro _ _ _ _ _ _ next
  split <;> simp

variable {self self' : Goal → Parse Node} (alike : ∀ g, Alike text (self g) (self' g))

include alike

@[simp] theorem alike_typeAnnotation :
    Alike text ( typeAnnotation self) ( typeAnnotation self') := by
  intro s c
  simp [ typeAnnotation, alike]

@[simp] theorem alike_typeAnnotation? :
    Alike text ( typeAnnotation? self) ( typeAnnotation? self') := by
  intro s c
  simp [ typeAnnotation?, alike]

@[simp] theorem alike_returnAnnotation? :
    Alike text (returnAnnotation? self) (returnAnnotation? self') := by
  intro s c
  simp [returnAnnotation?, alike]

@[simp] theorem alike_typeArguments : Alike text (typeArguments self) (typeArguments self') := by
  have types := alike_listUntil ">" (alike .type)
  intro s c
  simp [typeArguments, types]

@[simp] theorem alike_typeArguments? :
    Alike text (typeArguments? self) (typeArguments? self') := by
  intro s c
  simp [typeArguments?, alike]

@[simp] theorem alike_typeParameter (place : TypeParamPlace) :
    Alike text (typeParameter self place) (typeParameter self' place) := by
  intro s c
  simp [typeParameter, alike]

@[simp] theorem alike_typeParameters (place : TypeParamPlace) :
    Alike text (typeParameters self place) (typeParameters self' place) := by
  have ps := alike_listUntil ">" (alike_typeParameter alike place)
  intro s c
  simp [typeParameters, ps]

@[simp] theorem alike_typeParameters? (place : TypeParamPlace) :
    Alike text (typeParameters? self place) (typeParameters? self' place) := by
  intro s c
  simp [typeParameters?, alike]

@[simp] theorem alike_computedName : Alike text (computedName self) (computedName self') := by
  intro s c
  simp [computedName, alike]

@[simp] theorem alike_propertyName : Alike text (propertyName self) (propertyName self') := by
  refine alike_bind alike_token fun t _ s c => ?_
  rw [widen_fixed]
  split <;> simp [alike]

end ServerLink.Script.Parse
