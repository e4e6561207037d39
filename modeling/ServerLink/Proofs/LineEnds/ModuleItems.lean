import ServerLink.Proofs.LineEnds.Statements
import ServerLink.Script.Grammar.ModuleItem

/-!
Imports and exports, in a text and in the text with carriage returns.
-/

set_option autoImplicit false

namespace ServerLink.Script.Parse

open Text

variable {text : List Char}

/-! ### Entries of lists -/

instance : Widens Entry where
  widen text e := { e with span := widen text e.span, other := widen text e.other }
  Placed _ _ := True

instance : Settles Entry := ⟨fun _ _ => trivial⟩

section

variable (text) (e : Entry)

@[simp] theorem widen_entry (name : String) (isText : Bool) (span : Span)
    (other : Option (String × Bool × Span)) (typeOnly : Bool) :
    widen text (Entry.mk name isText span other typeOnly) =
      ⟨name, isText, widen text span, widen text other, typeOnly⟩ := rfl

@[simp] theorem name_widen : (widen text e).name = e.name := rfl

@[simp] theorem isText_widen : (widen text e).isText = e.isText := rfl

@[simp] theorem entrySpan_widen : (widen text e).span = widen text e.span := rfl

@[simp] theorem other_widen : (widen text e).other = widen text e.other := rfl

@[simp] theorem typeOnly_widen : (widen text e).typeOnly = e.typeOnly := rfl

end

@[simp] theorem alike_moduleText : Alike text moduleText moduleText := by
  refine alike_bind alike_token fun t _ s c => ?_
  rw [widen_fixed]
  split <;> simp

@[simp] theorem alike_nameAhead : Alike text nameAhead nameAhead := by
  refine alike_bind alike_token fun t _ s c => ?_
  rw [widen_fixed]
  split <;> simp

@[simp] theorem alike_exportName : Alike text exportName exportName := by
  refine alike_bind alike_token fun t _ s c => ?_
  rw [widen_fixed]
  split <;> simp

@[simp] theorem alike_entryName : Alike text entryName entryName := by
  intro s c
  simp [entryName]

@[simp] theorem alike_entry : Alike text entry entry := by
  refine alike_bind alike_here fun start _ => alike_bind alike_exportName fun first _ =>
    alike_bind alike_lastStop fun stop _ => ?_
  extract_lets span plain span'
  have spans : span' = widen text span := rfl
  clear_value span span'
  subst spans
  have plains {name : String} {isText typeOnly : Bool} {own own' : Span}
      (same : own' = widen text own) :
      Alike text (plain name isText own typeOnly) (plain name isText own' typeOnly) := by
    subst same
    intro s c
    simp [plain]
  intro s c
  simp [plains]

/-! ### Imports -/

@[simp] theorem alike_importEntry (allTypes : Bool) :
    Alike text (importEntry allTypes) (importEntry allTypes) := by
  refine alike_bind alike_here fun start _ => alike_bind alike_entry fun e _ =>
    alike_bind (alike_faultIf rfl) fun _ _ => ?_
  extract_lets last last'
  have lasts {r r' : String × Span} (same : r' = widen text r) :
      Alike text (last r) (last' r') := by
    subst same
    intro s c
    simp [last, last']
  intro s c
  rw [other_widen]
  rcases e.other with _ | ⟨name, isText, span⟩ <;> simp [lasts]

@[simp] theorem alike_wholeImport (imported : Imported) (start : Nat) :
    Alike text (wholeImport imported start) (wholeImport imported (widen text start)) := by
  intro s c
  simp [wholeImport]

@[simp] theorem alike_importAlias (start : Nat) {name name' : Node}
    (same : name' = widen text name) :
    Alike text (importAlias start name) (importAlias (widen text start) name') := by
  subst same
  intro s c
  simp [importAlias]

@[simp] theorem alike_nameBeforeFrom : Alike text nameBeforeFrom nameBeforeFrom := by
  intro s c
  simp [nameBeforeFrom]

@[simp] theorem alike_importParts (start : Nat) :
    Alike text (importParts start) (importParts (widen text start)) := by
  unfold importParts
  extract_lets rest more more'
  have rests (allTypes : Bool) : Alike text (rest allTypes) (rest allTypes) := by
    have entries := alike_listUntil "\x7d" (@alike_importEntry text allTypes)
    intro s c
    simp [rest, entries]
  have mores (allTypes : Bool) : Alike text (more allTypes) (more' allTypes) := by
    refine alike_bind (alike_isAnyPunct _) fun _ _ s c => (meets_ite rfl).2
      ⟨fun _ => by simp [rests],
        fun _ => (meets_bind (alike_lookahead fun s c => ?_)).2 fun _ => ?_⟩
    · simp
    · simp [rests]
  intro s c
  refine (meets_bind_fixed alike_token).2 fun t => (meets_ite rfl).2 ⟨fun _ =>
    (meets_bind_fixed alike_typed).2 fun _ => (meets_bind_fixed (alike_isWord _)).2 fun _ =>
    (meets_ite rfl).2 ⟨fun _ =>
      (meets_bind (alike_lookahead fun s c => ?_)).2 fun _ => ?_, fun _ => by simp [mores]⟩,
    fun _ => by simp [rests]⟩
  · simp
  · simp [mores]

@[simp] theorem alike_importExpressionAhead :
    Alike text importExpressionAhead importExpressionAhead := by
  intro s c
  simp [importExpressionAhead]

variable {self self' : Goal → Parse Node} (alike : ∀ g, Alike text (self g) (self' g))

include alike

@[simp] theorem alike_importOptions : Alike text (importOptions self) (importOptions self') := by
  intro s c
  simp [importOptions, alike]

@[simp] theorem alike_importItem : Alike text (importItem self) (importItem self') := by
  refine alike_bind alike_here fun start _ => alike_bind (alike_expectWord _) fun _ _ =>
    alike_bind alike_token fun t _ s c => ?_
  rw [widen_fixed]
  split
  next => simp [alike]
  next =>
    refine (meets_bind (alike_importParts start)).2 fun r => ?_
    generalize r.value = r
    obtain ⟨parts, allTypes⟩ := r
    simp only [widen_pair, widen_fixed]
    split
    next => simp
    next plain =>
      split
      next same =>
        obtain ⟨p, rest, rfl, first, last⟩ := widen_eq_cons text same
        obtain ⟨_, _, rfl, -, -⟩ := widen_eq_mk text first
        obtain rfl := (widen_eq_nil_iff text _).1 last
        exact (plain _ _ rfl).elim
      next => simp [alike]

/-! ### Exports -/

@[simp] theorem alike_fromModule : Alike text (fromModule self) (fromModule self') := by
  intro s c
  simp [fromModule, alike]

@[simp] theorem alike_exportAll (start : Nat) :
    Alike text (exportAll self start) (exportAll self' (widen text start)) := by
  intro s c
  simp [exportAll, alike]

@[simp] theorem alike_exportList (start : Nat) (allTypes : Bool) :
    Alike text (exportList self start allTypes) (exportList self' (widen text start) allTypes) := by
  refine alike_bind (alike_expect _) fun _ _ =>
    alike_bind (alike_loop rfl (by simp) fun entries _ s c => ?_) fun entries _ =>
    alike_bind (alike_expect _) fun _ _ => ?_
  · simp
  · extract_lets all last all' last'
    have alls : all' = widen text all := (widen_reverse text entries).symm
    clear_value all all'
    subst alls
    have lasts (source : Option String) : Alike text (last source) (last' source) := by
      refine fun s c => meets_of_alike (alike_node rfl (listMap_widen text (fun e => ?_) all))
      rcases other : e.other with _ | ⟨name, isText, span⟩ <;> simp [other]
    intro s c
    simp [lasts, alike]

@[simp] theorem alike_exportDefault (start : Nat) (ds : List Node) :
    Alike text (exportDefault self start ds)
      (exportDefault self' (widen text start) (widen text ds)) := by
  intro s c
  simp [exportDefault, alike]

@[simp] theorem alike_typedExport? (start : Nat) :
    Alike text (typedExport? self start) (typedExport? self' (widen text start)) := by
  refine alike_bind alike_typed fun _ _ s c => (meets_ite rfl).2 ⟨fun _ => by simp, fun _ => ?_⟩
  refine (meets_bind_fixed (alike_eat _)).2 fun _ =>
    (meets_ite rfl).2 ⟨fun _ => by simp [alike], fun _ => ?_⟩
  refine (meets_bind alike_following).2 fun next => (meets_bind_fixed (alike_isWord _)).2 fun _ =>
    (meets_ite rfl).2 ⟨fun _ => by simp, fun _ => ?_⟩
  refine (meets_bind_fixed (alike_isWord _)).2 fun _ =>
    (meets_ite rfl).2 ⟨fun _ => ?_, fun _ => by simp [alike]⟩
  refine (meets_bind alike_advance).2 fun _ =>
    (meets_bind (alike_lookahead fun s c => ?_)).2 fun _ => ?_
  · simp
  · simp

@[simp] theorem alike_exportItem {ds ds' : List Node} (same : ds' = widen text ds) :
    Alike text (exportItem self ds) (exportItem self' ds') := by
  subst same
  intro s c
  simp [exportItem, alike]

@[simp] theorem alike_moduleItem : Alike text (moduleItem self) (moduleItem self') := by
  refine alike_bind (alike_isWord _) fun _ _ s c =>
    (meets_ite rfl).2 ⟨fun _ => by simp [alike], fun _ => ?_⟩
  refine (meets_bind_fixed (alike_isWord _)).2 fun _ =>
    (meets_bind_fixed alike_importExpressionAhead).2 fun _ =>
    (meets_ite rfl).2 ⟨fun _ => by simp [alike], fun _ => ?_⟩
  refine (meets_bind_fixed (alike_isPunct _)).2 fun _ =>
    (meets_ite rfl).2 ⟨fun _ => ?_, fun _ => by simp [alike]⟩
  refine (meets_bind_option (alike_lookahead fun s c => ?_)).2 fun _ => ?_
  · simp [alike]
  · simp [alike]

end ServerLink.Script.Parse
