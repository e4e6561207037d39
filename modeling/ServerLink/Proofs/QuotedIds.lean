import ServerLink.Proofs.Registering
import ServerLink.Proofs.StringLiterals

/-!
Identifiers in the code that is put into modules. Quoted text is one string literal, whatever is
quoted, and stands for what was quoted. So the identifier is read back from a call that is sent to
the server, and from each place in the registry.
-/

set_option autoImplicit false

namespace ServerLink

open Script Text

/-! ### Quoted text as a literal -/

namespace Text

theorem hexNumber_control {n : Nat} (control : n < 0x20) :
    hexNumber 0 ['0', '0', hexDigit (n / 16), hexDigit (n % 16)] = n := by
  have high := (hexDigit_reads (n / 16) (by omega)).2
  have low := (hexDigit_reads (n % 16) (by omega)).2
  have zero : Tail.hexValue '0' = 0 := by decide
  simp only [hexNumber, List.foldl_cons, List.foldl_nil, zero, high, low]
  omega

theorem inside_escape (c : Char) {cs : List Char} {us : List Nat} (rest : Inside cs us) :
    Inside (escape c ++ cs) (unitsOf c.toNat ++ us) := by
  have short {d e : Char} (known : (e, d.toNat) ∈ shortEscapes) :
      Inside ('\\' :: e :: cs) (unitsOf d.toNat ++ us) := by
    have one : ∀ p ∈ shortEscapes, unitsOf p.2 = [p.2] ∧ p.1 ≠ '0' := by decide
    obtain ⟨unit, other⟩ := one _ known
    rw [unit]
    exact .escaped (.short known) (by simp [other]) rest
  unfold escape
  repeat' split
  · next quote => exact short (by rw [quote]; decide)
  · next slash => exact short (by rw [slash]; decide)
  · next feed => exact short (by rw [feed]; decide)
  · next back => exact short (by rw [back]; decide)
  · next tab => exact short (by rw [tab]; decide)
  · next bell => exact short (by rw [bell]; decide)
  · next page => exact short (by rw [page]; decide)
  · next control =>
    have zero : Tail.isHex '0' = true := by decide
    have digits : ['0', '0', hexDigit (c.toNat / 16), hexDigit (c.toNat % 16)].all Tail.isHex
        = true := by
      simp [zero, hexDigit_reads (c.toNat / 16) (by omega),
        hexDigit_reads (c.toNat % 16) (by omega)]
    have unit := unitsOf_hexNumber digits (by simp)
    rw [hexNumber_control control] at unit
    have whole := Inside.escaped (.unicode rfl digits) (by simp) rest
    rw [hexNumber_control control, ← unit] at whole
    exact whole
  · next quote slash feed back _ _ _ _ =>
    exact .plain (by simp [isLiteral, quote, slash, feed, back]) rest

theorem quotedChars_literal (cs : List Char) : IsStringLiteral (quotedChars cs) (units cs) := by
  refine ⟨cs.flatMap escape, rfl, ?_⟩
  induction cs with
  | nil => exact .nothing
  | cons c cs ih => exact inside_escape c ih

-- No control character is left as it is, so no line ends here.
theorem le_of_mem_escape {c d : Char} (member : d ∈ escape c) : 0x20 ≤ d.toNat := by
  have digits : ∀ n < 16, 0x20 ≤ (hexDigit n).toNat := by decide
  have short {e : Char} (above : 0x20 ≤ e.toNat) : ∀ d ∈ ['\\', e], 0x20 ≤ d.toNat := by
    simpa using above
  have all : ∀ d ∈ escape c, 0x20 ≤ d.toNat := by
    unfold escape
    repeat' split
    all_goals try exact short (by decide)
    · next control =>
      have high := digits (c.toNat / 16) (by omega)
      have low := digits (c.toNat % 16) (by omega)
      simp [high, low]
    · next visible => simpa using visible
  exact all d member

theorem le_of_mem_quotedChars {cs : List Char} {d : Char} (member : d ∈ quotedChars cs) :
    0x20 ≤ d.toNat := by
  simp only [quotedChars, List.cons_append, List.mem_cons, List.mem_append, List.mem_flatMap,
    List.not_mem_nil, or_false] at member
  rcases member with rfl | ⟨c, _, member⟩ | rfl
  · decide
  · exact le_of_mem_escape member
  · decide

theorem quoted_inj {s t : String} : quoted s = quoted t ↔ s = t := by
  constructor
  · intro same
    have chars : quotedChars s.toList ++ [] = quotedChars t.toList ++ [] := by
      rw [← toList_quoted, same, toList_quoted]
    exact String.toList_inj.1 (quotedChars_append_inj chars).1
  · rintro rfl
    rfl

end Text

/-- The text is one literal and one token of this value, with no control character in it. Whatever
follows, no other literal begins where it begins. -/
structure IsLiteralOf (text : List Char) (s : String) : Prop where
  literal : IsStringLiteral text (units s.toList)
  alone {other rest more : List Char} {us : List Nat} (literal : IsStringLiteral other us)
    (same : other ++ more = text ++ rest) : other = text ∧ us = units s.toList ∧ more = rest
  read (rest : List Char) : Spells text (.text s) rest
  spelled {c : Char} (member : c ∈ text) : 0x20 ≤ c.toNat

theorem quoted_literal (s : String) : IsLiteralOf (quoted s).toList s where
  literal := by
    rw [toList_quoted]
    exact quotedChars_literal s.toList
  alone {_ _ _ _} literal same := by
    rw [toList_quoted] at same ⊢
    exact literal.unique (quotedChars_literal s.toList) same
  read := quoted_spells s
  spelled {c} member := by
    rw [toList_quoted] at member
    exact le_of_mem_quotedChars member

/-! ### Identifiers in code -/

/-- Behind its opening the code holds a literal, which stands for this text. -/
def Holds (opening : String) (code literal : List Char) (s : String) : Prop :=
  (∃ rest, code = opening.toList ++ (literal ++ rest)) ∧ IsStringLiteral literal (units s.toList)

theorem holds_quoted_iff {opening s t : String} {literal rest : List Char} :
    Holds opening (opening.toList ++ ((quoted s).toList ++ rest)) literal t ↔
      literal = (quoted s).toList ∧ t = s := by
  constructor
  · rintro ⟨⟨more, same⟩, stands⟩
    have behind := List.append_cancel_left same
    obtain ⟨whole, values, -⟩ := (quoted_literal s).alone stands behind.symm
    exact ⟨whole, String.toList_inj.1 (units_inj.1 values)⟩
  · rintro ⟨rfl, rfl⟩
    exact ⟨⟨rest, rfl⟩, (quoted_literal t).literal⟩

namespace GlobalNames

variable {g : GlobalNames}

theorem holds_dispatchCall_iff {id args t : String} {literal rest : List Char} :
    Holds (g.dispatchRef ++ "(") ((g.dispatchCall id args).toList ++ rest) literal t ↔
      literal = (quoted id).toList ∧ t = id := by
  have split : (g.dispatchCall id args).toList ++ rest = (g.dispatchRef ++ "(").toList ++
      ((quoted id).toList ++ ((", " ++ args ++ ")").toList ++ rest)) := by
    simp [dispatchCall]
  rw [split, holds_quoted_iff]

theorem dispatchCall_inj {id id' args args' : String} :
    g.dispatchCall id args = g.dispatchCall id' args' ↔ id = id' ∧ args = args' := by
  constructor
  · intro same
    have chars := congrArg String.toList same
    simp only [dispatchCall, String.toList_append, toList_quoted, List.append_assoc,
      List.append_cancel_left_eq] at chars
    obtain ⟨ids, rest⟩ := quotedChars_append_inj chars
    simp only [List.append_cancel_left_eq, List.append_cancel_right_eq] at rest
    exact ⟨String.toList_inj.1 ids, String.toList_inj.1 rest⟩
  · rintro ⟨rfl, rfl⟩
    rfl

-- A call that keeps its own arguments sends them as a list.
theorem dispatchOpening_closed (g : GlobalNames) (id args : String) :
    g.dispatchOpening id ++ args ++ dispatchClosing = g.dispatchCall id ("[" ++ args ++ "]") := by
  apply String.toList_inj.1
  simp [dispatchOpening, dispatchCall, dispatchClosing]

theorem slot_inj {id id' : String} : g.slot id = g.slot id' ↔ id = id' := by
  constructor
  · intro same
    have chars := congrArg String.toList same
    simp only [slot, String.toList_append, List.append_assoc, List.append_cancel_left_eq,
      List.append_cancel_right_eq] at chars
    exact quoted_inj.1 (String.toList_inj.1 chars)
  · rintro rfl
    rfl

end GlobalNames

namespace Registering

/-- The identifier whose place the statement is about. -/
def Statement.id? : Statement → Option String
  | .create => none
  | .assign id _ => some id
  | .mark id => some id

theorem holds_statement_iff {g : GlobalNames} {s : Statement} {t : String}
    {literal rest : List Char} :
    Holds (g.registryRef ++ "[") ((s.text g).toList ++ rest) literal t ↔
      literal = (quoted t).toList ∧ s.id? = some t := by
  have slots {id : String} {more : List Char} :
      Holds (g.registryRef ++ "[") ((g.slot id).toList ++ more) literal t ↔
        literal = (quoted t).toList ∧ some id = some t := by
    have split : (g.slot id).toList ++ more = (g.registryRef ++ "[").toList ++
        ((quoted id).toList ++ ("]".toList ++ more)) := by
      simp [GlobalNames.slot]
    rw [split, holds_quoted_iff, Option.some_inj, eq_comm (a := t)]
    constructor
    all_goals
      rintro ⟨rfl, rfl⟩
      exact ⟨rfl, rfl⟩
  cases s with
  | create =>
    constructor
    · rintro ⟨⟨more, same⟩, -⟩
      simp [Statement.text, GlobalNames.registryRef] at same
    · simp [Statement.id?]
  | assign id name | mark id =>
    simp only [Statement.text, String.toList_append, List.append_assoc]
    exact slots

/-- The places that registration code speaks of, one after the other. -/
theorem ids_program (own : FunctionMap) :
    (program own).filterMap Statement.id? =
      own.values.flatMap fun f => f.id :: if f.requiresContext then [f.id] else [] := by
  have one (f : ServerFunction) : (registering f).filterMap Statement.id? =
      f.id :: if f.requiresContext then [f.id] else [] := by
    by_cases context : f.requiresContext = true <;> simp [registering, Statement.id?, context]
  rw [program, List.filterMap_cons_none rfl, List.filterMap_flatMap]
  simp only [one]

end Registering

open Registering

/-- Any text is quoted as one literal that stands for it. Whatever is sent and whatever follows,
the identifier is read back from a call that is sent to the server, one that keeps its arguments
included, and place by place from registration code. Literals, calls and places are the same only
for the same identifiers. -/
theorem quoted_ids_read_back :
    (∀ s : String, IsLiteralOf (quoted s).toList s) ∧
    (∀ s t : String, (quoted s).toByteArray = (quoted t).toByteArray ↔ s = t) ∧
    ∀ g : GlobalNames,
      (∀ id args rest literal t,
        Holds (g.dispatchRef ++ "(") ((g.dispatchCall id args).toList ++ rest) literal t ↔
          literal = (quoted id).toList ∧ t = id) ∧
      (∀ id args id' args',
        g.dispatchCall id args = g.dispatchCall id' args' ↔ id = id' ∧ args = args') ∧
      (∀ id args, g.dispatchOpening id ++ args ++ GlobalNames.dispatchClosing =
        g.dispatchCall id ("[" ++ args ++ "]")) ∧
      (∀ own : FunctionMap,
        (own.registration g).toList = '\n' :: (program own).flatMap (fun s => (s.text g).toList) ∧
        (program own).filterMap Statement.id? =
          own.values.flatMap fun f => f.id :: if f.requiresContext then [f.id] else []) ∧
      (∀ (s : Statement) rest literal t,
        Holds (g.registryRef ++ "[") ((s.text g).toList ++ rest) literal t ↔
          literal = (quoted t).toList ∧ s.id? = some t) ∧
      (∀ id id', (g.slot id).toByteArray = (g.slot id').toByteArray ↔ id = id') := by
  refine ⟨quoted_literal, fun s t => ?_, fun g => ⟨?_, ?_, ?_, ?_, ?_, ?_⟩⟩
  · rw [String.toByteArray_inj, quoted_inj]
  · intro id args rest literal t
    exact g.holds_dispatchCall_iff
  · intro id args id' args'
    exact g.dispatchCall_inj
  · intro id args
    exact g.dispatchOpening_closed id args
  · intro own
    exact ⟨toList_registration_program g own, ids_program own⟩
  · intro s rest literal t
    exact holds_statement_iff
  · intro id id'
    rw [String.toByteArray_inj, g.slot_inj]

end ServerLink
