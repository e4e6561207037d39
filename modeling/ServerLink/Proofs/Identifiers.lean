import ServerLink.Proofs.Registration
import ServerLink.Proofs.Words

/-!
Names that are identifiers, found in finished code. The edges of words are not those of identifiers:
`$` may stand in an identifier but belongs to no word. Where both agree, code is renamed identifier
by identifier, and so is every reference to a global name that is written into modules.
-/

set_option autoImplicit false

namespace ServerLink

open Text

namespace Text

/-- A nonempty text of characters that identifiers are made of. -/
def IsIdentifierRun (run : List Char) : Prop := run ≠ [] ∧ ∀ c ∈ run, isNameContinue c = true

instance (run : List Char) : Decidable (IsIdentifierRun run) :=
  decidable_of_iff (!run.isEmpty && run.all isNameContinue) (by simp [IsIdentifierRun])

/-- The text begins and ends with a character of a word. -/
def EndsInWords (run : List Char) : Prop :=
  run.head?.any isWordChar = true ∧ run.getLast?.any isWordChar = true

instance (run : List Char) : Decidable (EndsInWords run) :=
  decidable_of_iff (run.head?.any isWordChar && run.getLast?.any isWordChar)
    (by simp [EndsInWords])

/-- Neither an identifier nor a word reaches over the place, which is beside this character or at an
end of the code. -/
def Separates (c : Option Char) : Prop := c.any isNameContinue = false ∧ c.any isWordChar = false

instance (c : Option Char) : Decidable (Separates c) :=
  decidable_of_iff (!c.any isNameContinue && !c.any isWordChar) (by simp [Separates])

theorem separates_head {a : List Char} (filled : a ≠ []) (apart : Separates a.head?)
    (b : List Char) : Separates (a ++ b).head? := by
  obtain ⟨c, cs, rfl⟩ := List.exists_cons_of_ne_nil filled
  exact apart

theorem separates_getLast {b : List Char} (filled : b ≠ []) (apart : Separates b.getLast?)
    (a : List Char) : Separates (a ++ b).getLast? := by
  rw [List.getLast?_eq_some_getLast filled] at apart
  rwa [List.getLast?_append, List.getLast?_eq_some_getLast filled]

end Text

namespace GlobalNames

def AreIdentifiers (g : GlobalNames) : Prop := ∀ name ∈ g.all, IsIdentifierRun name

instance (g : GlobalNames) : Decidable g.AreIdentifiers :=
  decidable_of_iff (g.all.all fun name => decide (IsIdentifierRun name))
    (by simp [AreIdentifiers])

/-- A name that is not the whole text is found in it, as in `$name` and `name$`. -/
def Exposed (g : GlobalNames) (text : List Char) : Prop :=
  ∃ name ∈ g.all, name ≠ text ∧
    ∃ x y, x ++ y = text ∧ y ≠ [] ∧ standsAt x.getLast? y name = true

theorem exposed_iff {g : GlobalNames} {text : List Char} :
    (g.all.any fun name => name != text && (List.range text.length).any fun n =>
      standsAt (text.take n).getLast? (text.drop n) name) = true ↔ g.Exposed text := by
  simp only [List.any_eq_true, Bool.and_eq_true, bne_iff_ne, List.mem_range]
  refine exists_congr fun name => and_congr_right fun _ => and_congr_right fun _ => ?_
  constructor
  · rintro ⟨n, inside, stands⟩
    exact ⟨_, _, List.take_append_drop n text, by simpa using inside, stands⟩
  · rintro ⟨x, y, rfl, more, stands⟩
    refine ⟨x.length, by simpa [List.length_pos_iff] using more, ?_⟩
    rwa [List.take_left, List.drop_left]

instance (g : GlobalNames) (text : List Char) : Decidable (g.Exposed text) :=
  decidable_of_iff _ exposed_iff

/-- What becomes of one identifier. A name with `$` at an end is not found where it stands alone. -/
def renamedIdentifier (g : GlobalNames) (salt : String) (run : List Char) : List Char :=
  if EndsInWords run then g.renamedRun salt run else run

/-- What renaming makes of code. -/
def renamedCode (g : GlobalNames) (salt : String) (code : List Char) : List Char :=
  match g.rename salt code "" false with
  | .ok a => a.code code
  | .error _ => code

variable {g : GlobalNames} {salt : String}

section Found

variable {text run : List Char}

theorem not_exposed_of_words (solid : [] ∉ g.all) (word : ∀ c ∈ text, isWordChar c = true) :
    ¬ g.Exposed text := by
  rintro ⟨name, member, other, x, y, rfl, more, stands⟩
  obtain ⟨c, cs, rfl⟩ := List.exists_cons_of_ne_nil more
  have right : isWordChar c = true := word c (by simp)
  by_cases front : x = []
  case neg =>
    have left : isWordChar (x.getLast front) = true :=
      word _ (List.mem_append_left _ (List.getLast_mem front))
    rw [List.getLast?_eq_some_getLast front, standsAt_inside left right] at stands
    contradiction
  -- the name stands at the beginning, and the word goes on behind it
  subst front
  simp only [standsAt, isWordEdge, Bool.and_eq_true, List.isPrefixOf_iff_prefix] at stands
  obtain ⟨⟨-, after, same⟩, ends⟩ := stands
  have filled : name ≠ [] := fun none => solid (none ▸ member)
  obtain ⟨d, ds, rfl⟩ := List.exists_cons_of_ne_nil (l := after) fun none =>
    other (by simp [← same, none])
  rw [List.nil_append, ← same] at word
  have last : isWordChar (name.getLast filled) = true :=
    word _ (List.mem_append_left _ (List.getLast_mem filled))
  have next : isWordChar d = true := word d (by simp)
  simp [← same, lastOf_of_ne_nil filled, last, next] at ends

theorem standsAt_self : standsAt none run run = true ↔ EndsInWords run := by
  simp [standsAt, isWordEdge, lastOf_none, EndsInWords]

theorem scanned_identifier (filled : run ≠ []) (hidden : ¬ g.Exposed run) :
    Scanned g.all salt none run (g.renamedIdentifier salt run) := by
  -- nothing but the whole can be found in it
  have only {x y name : List Char} (split : x ++ y = run) (more : y ≠ []) (member : name ∈ g.all)
      (stands : standsAt (lastOf none x) y name = true) : name = run := by
    by_contra other
    exact hidden ⟨name, member, other, x, y, split, more, lastOf_none x ▸ stands⟩
  by_cases whole : EndsInWords run
  · rw [renamedIdentifier, if_pos whole]
    apply scanned_run filled
    · intro member
      exact nameAt?_eq_some member (standsAt_self.2 whole)
        fun name here stands => only (x := []) rfl filled here stands
    · intro other x y split more
      refine List.find?_eq_none.2 fun name member stands => ?_
      exact other (only split more member stands ▸ member)
  · rw [renamedIdentifier, if_neg whole]
    refine scanned_still fun x y split more => List.find?_eq_none.2 fun name member stands => ?_
    obtain rfl : name = run := only split more member stands
    -- the whole can only stand where it begins
    have short : name.length ≤ y.length := by
      simp only [standsAt, Bool.and_eq_true, List.isPrefixOf_iff_prefix] at stands
      exact stands.1.2.length_le
    obtain rfl : x = [] := by
      rw [← List.length_eq_zero_iff]
      have size := congrArg List.length split
      rw [List.length_append] at size
      omega
    obtain rfl : y = name := split
    exact whole (standsAt_self.1 stands)

end Found

/-! ### Code around identifiers -/

section Around

variable (names : g.AreIdentifiers)
include names

theorem AreIdentifiers.solid : [] ∉ g.all := fun member => (names [] member).1 rfl

theorem AreIdentifiers.outside {c : Option Char} (apart : Separates c) :
    ∀ d ∈ c, Outside g.all d := by
  rintro d rfl
  refine ⟨apart.2, fun name member inside => ?_⟩
  have more : isNameContinue d = true := (names name member).2 d inside
  have less : isNameContinue d = false := apart.1
  simp [more] at less

theorem renamedCode_of_scanned {code made : List Char}
    (scanned : Scanned g.all salt none code made) : g.renamedCode salt code = made := by
  obtain ⟨a, carried, put⟩ := rename_of_scanned names.solid scanned "" false
  rw [renamedCode, carried, ← put]

theorem rename_eq_renamedCode (salt : String) (code : List Char) (chunk : String) (maps : Bool) :
    ∃ a, g.rename salt code chunk maps = .ok a ∧ a.code code = g.renamedCode salt code := by
  obtain ⟨made, scanned⟩ := exists_scanned names.solid salt none code
  rw [renamedCode_of_scanned names scanned]
  exact rename_of_scanned names.solid scanned chunk maps

theorem renamedCode_append {a b : List Char} (apart : Separates a.getLast? ∨ Separates b.head?) :
    g.renamedCode salt (a ++ b) = g.renamedCode salt a ++ g.renamedCode salt b := by
  obtain ⟨made, first⟩ := exists_scanned names.solid salt none a
  obtain ⟨made', second⟩ := exists_scanned names.solid salt none b
  rw [renamedCode_of_scanned names first, renamedCode_of_scanned names second]
  refine renamedCode_of_scanned names ?_
  rw [← lastOf_none] at apart
  -- what stands before the seam does not change what is found behind it: on the left there is no
  -- word character, or on the right a character at which no name begins
  rcases apart with left | right
  · have here : Scanned g.all salt (lastOf none a) b made' :=
      second.congr names.solid (by simpa using left.2)
    exact first.append (seam_of_left (names.outside (lastOf_none a ▸ left)) b) here
  · have outside := names.outside right
    have here : Scanned g.all salt (lastOf none a) b made' :=
      second.of_outside names.solid outside
    exact first.append (seam_of_right outside a) here

theorem renamedCode_identifier {left run right : List Char} (filled : run ≠ [])
    (begins : Separates left.getLast?) (ends : Separates right.head?)
    (hidden : ¬ g.Exposed run) :
    g.renamedCode salt (left ++ run ++ right) =
      g.renamedCode salt left ++ g.renamedIdentifier salt run ++ g.renamedCode salt right := by
  rw [renamedCode_append names (.inr ends), renamedCode_append names (.inl begins),
    renamedCode_of_scanned names (scanned_identifier filled hidden)]

end Around

/-! ### References in modules -/

/-- Each reference that is written into modules becomes one to the new name, and the code around it
is renamed by itself. -/
structure ReferencesRenamed (g : GlobalNames) (chunk : List Char → List Char)
    (fresh : String → List Char) : Prop where
  call : ∀ before id args, chunk (before ++ (g.dispatchCall id args).toList) =
    chunk (before ++ "globalThis.".toList) ++ fresh g.dispatch ++
      chunk ("(" ++ quoted id ++ ", " ++ args ++ ")").toList
  setter : chunk g.handlerSetter.toList =
    chunk ("((handler) => \x7b " ++ "globalThis.").toList ++ fresh g.dispatch ++
      chunk " = handler; \x7d)".toList
  handler : chunk g.handler.toList =
    chunk ("((id, args, ctx) => \x7b const fn = " ++ "globalThis.").toList ++ fresh g.registry ++
      chunk ("?.[id]; " ++
        "if (!fn) throw new Error(\"Server function not found: \" + id); return fn.").toList ++
      fresh g.contextFlag ++
      chunk " ? fn(ctx, ...args) : fn(...args); \x7d)".toList
  registration : ∀ m : FunctionMap, chunk (m.registration g).toList =
    chunk ("\n;if (!" ++ "globalThis.").toList ++ fresh g.registry ++
      chunk (") \x7b " ++ "globalThis.").toList ++ fresh g.registry ++
      chunk " = Object.create(null); \x7d\n".toList ++
      m.values.flatMap fun f => chunk (FunctionMap.registerFunction g f).toList
  entry : ∀ f : ServerFunction, chunk (FunctionMap.registerFunction g f).toList =
    chunk "globalThis.".toList ++ fresh g.registry ++
      chunk ("[" ++ quoted f.id ++ "]" ++ " = " ++ f.localName ++ ";\n").toList ++
      if f.requiresContext then
        chunk "globalThis.".toList ++ fresh g.registry ++
          chunk ("[" ++ quoted f.id ++ "]" ++ ".").toList ++ fresh g.contextFlag ++
          chunk " = true;\n".toList
      else []

section Shapes

variable (g : GlobalNames)

theorem toList_dispatchCall (id args : String) :
    (g.dispatchCall id args).toList = "globalThis.".toList ++
      (g.dispatch.toList ++ ("(" ++ quoted id ++ ", " ++ args ++ ")").toList) := by
  unfold dispatchCall dispatchRef
  simp only [String.toList_append, List.append_assoc]

theorem toList_handlerSetter :
    g.handlerSetter.toList = ("((handler) => \x7b " ++ "globalThis.").toList ++
      (g.dispatch.toList ++ " = handler; \x7d)".toList) := by
  unfold handlerSetter dispatchRef
  simp only [String.toList_append, List.append_assoc]

theorem toList_handler :
    g.handler.toList =
      ("((id, args, ctx) => \x7b const fn = " ++ "globalThis.").toList ++ (g.registry.toList ++
        (("?.[id]; " ++
          "if (!fn) throw new Error(\"Server function not found: \" + id); return fn.").toList ++
        (g.contextFlag.toList ++ " ? fn(ctx, ...args) : fn(...args); \x7d)".toList))) := by
  unfold GlobalNames.handler registryRef
  simp only [String.toList_append, List.append_assoc]

theorem toList_registration (m : FunctionMap) :
    (m.registration g).toList = ("\n;if (!" ++ "globalThis.").toList ++ (g.registry.toList ++
      ((") \x7b " ++ "globalThis.").toList ++ (g.registry.toList ++
        (" = Object.create(null); \x7d\n".toList ++
          m.values.flatMap fun f => (FunctionMap.registerFunction g f).toList)))) := by
  unfold FunctionMap.registration registryRef
  simp only [String.toList_append, String.toList_join, List.flatMap_map, List.append_assoc]

theorem toList_assignment (f : ServerFunction) :
    (g.assignment f).toList = "globalThis.".toList ++ (g.registry.toList ++
      ("[" ++ quoted f.id ++ "]" ++ " = " ++ f.localName ++ ";\n").toList) := by
  unfold assignment slot registryRef
  simp only [String.toList_append, List.append_assoc]

theorem toList_contextMark (f : ServerFunction) :
    (g.contextMark f).toList = "globalThis.".toList ++ (g.registry.toList ++
      (("[" ++ quoted f.id ++ "]" ++ ".").toList ++
        (g.contextFlag.toList ++ " = true;\n".toList))) := by
  unfold contextMark slot registryRef
  simp only [String.toList_append, List.append_assoc]

theorem separates_index (id rest : String) :
    Separates ("[" ++ quoted id ++ "]" ++ rest).toList.head? := by
  simp only [String.toList_append, List.append_assoc]
  exact separates_head (by decide) (by decide) _

theorem separates_assignment (f : ServerFunction) :
    Separates (g.assignment f).toList.getLast? := by
  rw [assignment, String.toList_append]
  exact separates_getLast (by decide) (by decide) _

theorem separates_contextMark (f : ServerFunction) :
    Separates (g.contextMark f).toList.getLast? := by
  rw [contextMark, String.toList_append]
  exact separates_getLast (by decide) (by decide) _

theorem separates_registerFunction (f : ServerFunction) :
    Separates (FunctionMap.registerFunction g f).toList.getLast? := by
  rw [registerFunction_eq]
  cases f.requiresContext with
  | true =>
    have filled : (g.contextMark f).toList ≠ [] := by
      rw [contextMark, String.toList_append]
      exact List.append_ne_nil_of_right_ne_nil _ (by decide)
    rw [if_pos rfl, String.toList_append]
    exact separates_getLast filled (separates_contextMark g f) _
  | false => simpa using separates_assignment g f

end Shapes

section References

variable (names : g.AreIdentifiers)
include names

theorem renamedCode_reference {name : String} (member : name.toList ∈ g.all)
    (hidden : ¬ g.Exposed name.toList) {left right : List Char} (begins : Separates left.getLast?)
    (ends : Separates right.head?) :
    g.renamedCode salt (left ++ (name.toList ++ right)) =
      g.renamedCode salt left ++ (g.renamedIdentifier salt name.toList ++
        g.renamedCode salt right) := by
  have filled : name.toList ≠ [] := (names _ member).1
  simpa only [List.append_assoc] using renamedCode_identifier names filled begins ends hidden

-- statements that end with a line are renamed one by one
theorem renamedCode_flatMap {α : Type} (items : List α) {text : α → List Char}
    (ends : ∀ item, Separates (text item).getLast?) :
    g.renamedCode salt (items.flatMap text) =
      items.flatMap fun item => g.renamedCode salt (text item) := by
  induction items with
  | nil => exact renamedCode_of_scanned names (.done _)
  | cons item items ih =>
    rw [List.flatMap_cons, renamedCode_append names (.inl (ends item)), ih, List.flatMap_cons]

theorem renamedCode_assignment (hidden : ¬ g.Exposed g.registry.toList) (f : ServerFunction) :
    g.renamedCode salt (g.assignment f).toList = g.renamedCode salt "globalThis.".toList ++
      (g.renamedIdentifier salt g.registry.toList ++
        g.renamedCode salt
          ("[" ++ quoted f.id ++ "]" ++ " = " ++ f.localName ++ ";\n").toList) := by
  have ends := separates_index f.id (" = " ++ f.localName ++ ";\n")
  simp only [← String.append_assoc] at ends
  rw [toList_assignment, renamedCode_reference names (by simp [all]) hidden (by decide) ends]

theorem renamedCode_contextMark (hidden : ¬ g.Exposed g.registry.toList)
    (hidden' : ¬ g.Exposed g.contextFlag.toList) (f : ServerFunction) :
    g.renamedCode salt (g.contextMark f).toList = g.renamedCode salt "globalThis.".toList ++
      (g.renamedIdentifier salt g.registry.toList ++
        (g.renamedCode salt ("[" ++ quoted f.id ++ "]" ++ ".").toList ++
          (g.renamedIdentifier salt g.contextFlag.toList ++
            g.renamedCode salt " = true;\n".toList))) := by
  have dot : Separates ("[" ++ quoted f.id ++ "]" ++ ".").toList.getLast? := by
    rw [String.toList_append]
    exact separates_getLast (by decide) (by decide) _
  have filled : ("[" ++ quoted f.id ++ "]" ++ ".").toList ≠ [] := by
    rw [String.toList_append]
    exact List.append_ne_nil_of_right_ne_nil _ (by decide)
  have ends := separates_head filled (separates_index f.id ".")
  rw [toList_contextMark, renamedCode_reference names (by simp [all]) hidden (by decide) (ends _),
    renamedCode_reference names (by simp [all]) hidden' dot (by decide)]

theorem renamedCode_registerFunction (f : ServerFunction) :
    g.renamedCode salt (FunctionMap.registerFunction g f).toList =
      g.renamedCode salt (g.assignment f).toList ++
        if f.requiresContext then g.renamedCode salt (g.contextMark f).toList else [] := by
  rw [registerFunction_eq, String.toList_append,
    renamedCode_append names (.inl (separates_assignment g f))]
  cases f.requiresContext with
  | true => simp only [if_true]
  | false => exact congrArg _ (renamedCode_of_scanned names (.done _))

theorem referencesRenamed (hidden : ∀ name ∈ g.all, ¬ g.Exposed name) :
    g.ReferencesRenamed (g.renamedCode salt) fun name => g.renamedIdentifier salt name.toList := by
  have dispatch : g.dispatch.toList ∈ g.all := by simp [all]
  have registry : g.registry.toList ∈ g.all := by simp [all]
  have flag : g.contextFlag.toList ∈ g.all := by simp [all]
  have reference {name : String} (member : name.toList ∈ g.all) {left right : List Char}
      (begins : Separates left.getLast?) (ends : Separates right.head?) :
      g.renamedCode salt (left ++ (name.toList ++ right)) =
        g.renamedCode salt left ++ (g.renamedIdentifier salt name.toList ++
          g.renamedCode salt right) :=
    renamedCode_reference names member (hidden _ member) begins ends
  refine ⟨fun before id args => ?_, ?_, ?_, fun m => ?_, fun f => ?_⟩
  · have begins : Separates (before ++ "globalThis.".toList).getLast? :=
      separates_getLast (by decide) (by decide) before
    have ends : Separates ("(" ++ quoted id ++ ", " ++ args ++ ")").toList.head? := by
      simp only [String.toList_append, List.append_assoc]
      exact separates_head (by decide) (by decide) _
    rw [toList_dispatchCall, ← List.append_assoc, reference dispatch begins ends, List.append_assoc]
  · rw [toList_handlerSetter, reference dispatch (by decide) (by decide), List.append_assoc]
  · rw [toList_handler, reference registry (by decide) (separates_head (by decide) (by decide) _),
      reference flag (by decide) (by decide)]
    simp only [List.append_assoc]
  · rw [toList_registration,
      reference registry (by decide) (separates_head (by decide) (by decide) _),
      reference registry (by decide) (separates_head (by decide) (by decide) _),
      renamedCode_append names (.inl (by decide)),
      renamedCode_flatMap names _ (separates_registerFunction g)]
    simp only [List.append_assoc]
  · rw [renamedCode_registerFunction names, renamedCode_assignment names (hidden _ registry),
      renamedCode_contextMark names (hidden _ registry) (hidden _ flag)]
    simp only [List.append_assoc]

end References

/-- Renaming never fails, and can be done part by part wherever neither an identifier nor a word is
cut. If no other name shows in it, an identifier is renamed as a whole if it is a name that begins
and ends with characters of words, and is left as it is if not; this holds of all identifiers made
of characters of words. So each reference in the code that is put into modules is renamed. -/
theorem renamed_identifiers (names : g.AreIdentifiers) (salt : String) :
    let chunk := g.renamedCode salt
    let fresh := g.renamedIdentifier salt
    (∀ code name maps, ∃ a, g.rename salt code name maps = .ok a ∧ a.code code = chunk code) ∧
    (∀ a b, Separates a.getLast? ∨ Separates b.head? → chunk (a ++ b) = chunk a ++ chunk b) ∧
    (∀ left run right, IsIdentifierRun run → Separates left.getLast? → Separates right.head? →
      ¬ g.Exposed run → chunk (left ++ run ++ right) = chunk left ++ fresh run ++ chunk right) ∧
    (∀ run, (∀ c ∈ run, isWordChar c = true) → ¬ g.Exposed run) ∧
    ((∀ name ∈ g.all, ¬ g.Exposed name) →
      g.ReferencesRenamed chunk fun name => fresh name.toList) := by
  intro chunk fresh
  refine ⟨fun code name maps => rename_eq_renamedCode names salt code name maps,
    fun a b apart => renamedCode_append names apart,
    fun left run right filled begins ends hidden => ?_,
    fun run word => not_exposed_of_words names.solid word,
    fun hidden => referencesRenamed names hidden⟩
  exact renamedCode_identifier names filled.1 begins ends hidden

/-- A name with `$` inside is renamed, one that begins with `$` is not, and shows in longer
identifiers. -/
theorem renamed_identifiers_dollar :
    let g : GlobalNames := ⟨"my$call", "__reg", "flag"⟩
    let g' : GlobalNames := ⟨"$call", "__reg", "flag"⟩
    (g.AreIdentifiers ∧ (∀ name ∈ g.all, ¬ g.Exposed name) ∧
      g.renamedCode "s1" "x.my$call(1)".toList = "x.my$call_s1(1)".toList) ∧
    g'.AreIdentifiers ∧ (∀ name ∈ g'.all, ¬ g'.Exposed name) ∧
      g'.renamedCode "s1" "x.$call(1)".toList = "x.$call(1)".toList ∧
      g'.Exposed "x$call".toList := by
  intro g g'
  -- `my$call` begins and ends with letters, `$call` does not
  have names : g.AreIdentifiers := by decide +kernel
  have names' : g'.AreIdentifiers := by decide +kernel
  obtain ⟨-, -, whole, -⟩ := renamed_identifiers names "s1"
  obtain ⟨-, -, whole', -⟩ := renamed_identifiers names' "s1"
  have renamed := whole "x.".toList "my$call".toList "(1)".toList (by decide +kernel)
    (by decide +kernel) (by decide +kernel) (by decide +kernel)
  have kept := whole' "x.".toList "$call".toList "(1)".toList (by decide +kernel)
    (by decide +kernel) (by decide +kernel) (by decide +kernel)
  refine ⟨⟨names, by decide +kernel, renamed.trans (by decide +kernel)⟩, names',
    by decide +kernel, kept.trans (by decide +kernel), by decide +kernel⟩

end GlobalNames

end ServerLink
