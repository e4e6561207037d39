import ServerLink.Proofs.ClientCode
import ServerLink.Proofs.Dispatch
import ServerLink.Proofs.Parsing.Scripts
import ServerLink.Proofs.Printer

/-!
What becomes of a module that is read from a text without a byte order mark. Its edits can be
carried out, they give the module as it is printed anew, and to a client they hide the bodies of
server functions.
-/

set_option autoImplicit false

namespace ServerLink

open Script Text

/-- A text of a module without a byte order mark, with the module that is read from it. -/
structure Source where
  path : Path
  text : List Char
  module : Module
  parsed : Module.parse path text = .ok module
  unmarked : text.head? ≠ some byteOrderMark

namespace Source

/-- What is read from a text; nothing if the text is no module. -/
def read (path : Path) (text : List Char) : Module :=
  (Module.parse path text).toOption.getD ⟨path, text, []⟩

def of (path : Path) (text : List Char)
    (sound : (Module.parse path text).toOption.isSome = true ∧ text.head? ≠ some byteOrderMark) :
    Source where
  path := path
  text := text
  module := read path text
  parsed := by
    unfold read
    cases parsed : Module.parse path text with
    | error cause => simp [parsed, Except.toOption] at sound
    | ok m => rfl
  unmarked := sound.2

end Source

namespace Sample

def path : Path := ⟨"/p/a.ts"⟩

/-- A server function whose body holds another call of the marker. -/
def nested : Source :=
  .of path "import \x7b func \x7d from \"serverfn\"\nexport const f = func(() => func(g(1),))".toList
    (by decide +kernel)

end Sample

theorem Text.withoutMark_eq_self {text : List Char} (unmarked : text.head? ≠ some byteOrderMark) :
    withoutMark text = text := by
  cases text with
  | nil => rfl
  | cons c cs =>
    have other : c ≠ byteOrderMark := fun same => unmarked (by simp [same])
    simp [withoutMark, other]

section Parsed

variable {path : Path} {text : List Char} {m : Module}

theorem Module.wellPlaced_of_parse (parsed : Module.parse path text = .ok m)
    (unmarked : text.head? ≠ some byteOrderMark) : m.WellPlaced :=
  Module.parse_wellPlaced parsed (withoutMark_eq_self unmarked)

/-! ### Edits that can be carried out -/

-- The edits of a module that stands in its text fit it and do not overlap.
theorem Module.WellPlaced.moduleEdits_sound (placed : m.WellPlaced) (o : Options) (t : FileTree)
    (r : Registry) (side : Side) (own : FunctionMap) :
    (∀ e ∈ moduleEdits o t r side m own, e.Fits m.text) ∧
      (moduleEdits o t r side m own).Pairwise Edit.Apart := by
  obtain ⟨row, found, fits, follow⟩ := placed.moduleEdits_row o t r side own
  have apart : row.Pairwise Edit.Apart := follow.imp fun h => Or.inl h.2
  exact ⟨fun e member => fits e (found.mem_iff.1 member),
    (found.pairwise_iff fun h => h.symm).2 apart⟩

theorem ownFunctions_error {o : Options} {r : Registry} {cause : Failure}
    (failed : ownFunctions o r m = .error cause) : cause = .pattern := by
  unfold ownFunctions at failed
  split at failed
  · simp at failed
  · unfold Discovery.ofOptions at failed
    split at failed
    · simp [Except.map] at failed
    · split at failed
      · simp [Except.map] at failed
      · simpa [Except.map, eq_comm] using failed

/-- All edits of a module fit its text and none overlap, so they can always be carried out; what
can go wrong is that the pattern of file names is none. -/
theorem parsed_edits_sound (parsed : Module.parse path text = .ok m)
    (unmarked : text.head? ≠ some byteOrderMark) (o : Options) (t : FileTree) (r : Registry)
    (side : Side) :
    (∀ own, (∀ e ∈ moduleEdits o t r side m own, e.Fits text) ∧
      (moduleEdits o t r side m own).Pairwise Edit.Apart) ∧
    ∀ cause, transformModule o t r side m = .error cause → cause = .pattern := by
  have placed := Module.wellPlaced_of_parse parsed unmarked
  have same := Module.parse_text parsed
  have sound := placed.moduleEdits_sound o t r side
  refine ⟨fun own => same ▸ sound own, ?_⟩
  intro cause failed
  unfold transformModule at failed
  cases own : ownFunctions o r m with
  | error other =>
    obtain rfl : other = cause := by simpa [own, bind, Except.bind] using failed
    exact ownFunctions_error own
  | ok functions =>
    have accepted := Edit.firstFault_sorted_eq_none_iff.2 (sound functions)
    simp only [own, bind, Except.bind, applyEdits, accepted] at failed
    split at failed <;> simp at failed

theorem parsed_edits_sound_nested :
    Module.parse Sample.path Sample.nested.text = .ok Sample.nested.module ∧ ∀ side cause,
      transformModule .standard .empty (.empty ⟨"/p"⟩) side Sample.nested.module = .error cause →
        cause = .pattern :=
  ⟨Sample.nested.parsed, fun side => (parsed_edits_sound Sample.nested.parsed
    Sample.nested.unmarked .standard .empty _ side).2⟩

/-! ### Edits and printing -/

-- A tree in which nothing is rewritten is printed as it stands.
theorem Rewriting.print_eq_slice (r : Rewriting) {n : Node} (h : n.Placed r.module.text)
    (still : r.edits n = []) : r.print n = slice r.module.text n.front n.stop := by
  have none : r.ordered n = [] := List.perm_nil.1 (still ▸ (r.edits_perm n).symm)
  rw [r.prints n h, none]
  rfl

/-- The arguments of a call printed from the start of the first to the end of the last. -/
def Rewriting.printArguments (r : Rewriting) (call : Node) : List Char :=
  match call.args.head?, call.args.getLast? with
  | some first, some last => r.printParts (fun _ => true) first.start last.stop call.args
  | _, _ => []

-- A call that is sent to the server is printed with all its arguments in their order.
theorem Rewriting.print_dispatch (r : Rewriting) {call : Node} (h : call.Placed r.module.text)
    {id : String} (sent : r.plan call = .dispatch id) :
    r.print call = (r.globals.dispatchOpening id).toList ++ r.printArguments call
      ++ GlobalNames.dispatchClosing.toList := by
  obtain ⟨k, span, ps⟩ := call
  obtain rfl : k = .call := Decidable.byContradiction fun plain => by
    simp [r.plan_eq_keep plain] at sent
  obtain ⟨callee, types, args, shape⟩ := h.call
  have printed := r.printGiven_eq shape
  simp only [Node.parts_mk] at printed
  cases first : args.parts.head? <;> cases last : args.parts.getLast? <;>
    simp [print, printArguments, isImport, sent, printed, shape.arguments, first, last]

/-- Carrying out the edits of a module prints it anew. Of a call that is sent to the server all
arguments are printed in their order, and those without anything to rewrite are copied. -/
theorem parsed_edits_print (parsed : Module.parse path text = .ok m)
    (unmarked : text.head? ≠ some byteOrderMark) (o : Options) (passes : Passes)
    (own : FunctionMap) (imported : ImportedFunctions) (name : Option String) :
    let r := Rewriting.ofModule m o passes own imported
    (∃ a, applyEdits text r.allEdits name = .ok a ∧ a.code text = r.printed) ∧
    (∀ call ∈ allNodes m.items, ∀ id, r.plan call = .dispatch id →
      r.print call = (r.globals.dispatchOpening id).toList ++ r.printArguments call
        ++ GlobalNames.dispatchClosing.toList) ∧
    ∀ n ∈ allNodes m.items, r.edits n = [] → r.print n = slice text n.front n.stop := by
  have placed := Module.wellPlaced_of_parse parsed unmarked
  obtain rfl := Module.parse_text parsed
  intro r
  have trees : ∀ n ∈ allNodes m.items, n.Placed m.text := placed.placed.all
  obtain ⟨a, carried, code, -⟩ := r.applyEdits_allEdits placed name
  exact ⟨⟨a, carried, code⟩, fun call member id sent => r.print_dispatch (trees call member) sent,
    fun n member still => r.print_eq_slice (trees n member) still⟩

theorem parsed_edits_print_nested :
    let r := Rewriting.ofModule Sample.nested.module .standard ⟨true, true, false, true⟩ .empty .empty
    Module.parse Sample.path Sample.nested.text = .ok Sample.nested.module ∧
      ∃ a, applyEdits Sample.nested.text r.allEdits none = .ok a ∧
        a.code Sample.nested.text = r.printed :=
  ⟨Sample.nested.parsed, (parsed_edits_print Sample.nested.parsed Sample.nested.unmarked .standard
    ⟨true, true, false, true⟩ .empty .empty none).1⟩

end Parsed

/-! ### Bodies and client code -/

/-- To a client two modules are the same that agree outside the bodies of their own server
functions, in their texts and in their trees. -/
theorem client_code_of_agreement {o : Options} (marker : o.detection = .marker) (t : FileTree)
    (r : Registry) {path : Path} {ss : List Stretch} {m m' : Module} {own : FunctionMap}
    (parsed : Module.parse path (leftText ss) = .ok m)
    (parsed' : Module.parse path (rightText ss) = .ok m')
    (unmarked : (leftText ss).head? ≠ some byteOrderMark)
    (unmarked' : (rightText ss).head? ≠ some byteOrderMark) (same : AgreeOutside ss o own m m')
    (scanned : (Discovery.mk o none).scan m r.root = own)
    (scanned' : (Discovery.mk o none).scan m' r.root = own)
    (recorded : r.get? path = none ∨ r.get? path = some own) :
    (transformModule o t r .client m).map
        (fun a => (a.output?.map Output.code, a.code (leftText ss))) =
      (transformModule o t r .client m').map
        (fun a => (a.output?.map Output.code, a.code (rightText ss))) := by
  have placed := Module.wellPlaced_of_parse parsed unmarked
  have placed' := Module.wellPlaced_of_parse parsed' unmarked'
  obtain rfl := Module.parse_path parsed
  have equal := same.transformModule_eq marker t r placed placed' scanned scanned' recorded
  rwa [Module.parse_text parsed, Module.parse_text parsed'] at equal

namespace Sample

/-- Two texts with a body that differs, before a text that reads like the end of a comment. In the
first the body is a number. -/
def stretches (other : Char) (right : List Char) : List Stretch :=
  "import \x7b func \x7d from \"serverfn\";\nexport const f = func(() => \x7b ".toList.map .shared
    ++ [.body '0' [] other right]
    ++ " \x7d);\nexport const s = \"*/ \x7d)//\";\n".toList.map .shared

def number : Source := .of path (leftText (stretches '1' [])) (by decide +kernel)

def otherNumber : Source := .of path (rightText (stretches '1' [])) (by decide +kernel)

/-- The body takes in the text behind it. -/
def comment : Source := .of path (rightText (stretches '/' ['*'])) (by decide +kernel)

def own : FunctionMap := (Discovery.mk .standard none).scan number.module ⟨"/p"⟩

end Sample

theorem client_code_of_numbers :
    let ss := Sample.stretches '1' []
    (transformModule .standard .empty (.empty ⟨"/p"⟩) .client Sample.number.module).map
        (fun a => (a.output?.map Output.code, a.code (leftText ss))) =
      (transformModule .standard .empty (.empty ⟨"/p"⟩) .client Sample.otherNumber.module).map
        (fun a => (a.output?.map Output.code, a.code (rightText ss))) := by
  intro ss
  obtain ⟨same, scanned⟩ :
      AgreeOutside ss .standard Sample.own Sample.number.module Sample.otherNumber.module ∧
        (Discovery.mk .standard none).scan Sample.otherNumber.module ⟨"/p"⟩ = Sample.own := by
    decide +kernel
  have parsed : Module.parse Sample.path (leftText ss) = .ok Sample.number.module :=
    Sample.number.parsed
  have parsed' : Module.parse Sample.path (rightText ss) = .ok Sample.otherNumber.module :=
    Sample.otherNumber.parsed
  exact client_code_of_agreement rfl .empty (.empty ⟨"/p"⟩) parsed parsed' (by decide) (by decide)
    same rfl scanned (Or.inl rfl)

/-- Texts that differ in nothing but such bodies need not have trees that do: a body in which a
comment begins takes in the code behind it, and the client gets other code. -/
theorem client_code_of_comment :
    Module.parse Sample.path (leftText (Sample.stretches '/' ['*'])) = .ok Sample.number.module ∧
      Module.parse Sample.path (rightText (Sample.stretches '/' ['*'])) = .ok Sample.comment.module ∧
      TextsAgree (Sample.stretches '/' ['*']) .standard Sample.own Sample.number.module
        Sample.comment.module ∧
      (Discovery.mk .standard none).scan Sample.comment.module ⟨"/p"⟩ = Sample.own ∧
      (transformModule .standard .empty (.empty ⟨"/p"⟩) .client Sample.number.module).map
          (Applied.code Sample.number.text) ≠
        (transformModule .standard .empty (.empty ⟨"/p"⟩) .client Sample.comment.module).map
          (Applied.code Sample.comment.text) :=
  ⟨Sample.number.parsed, Sample.comment.parsed, by decide +kernel⟩

end ServerLink
