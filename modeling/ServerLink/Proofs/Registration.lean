import ServerLink.Json.Text
import ServerLink.Proofs.Items
import ServerLink.Proofs.Recorded

/-!
Registration on the server. The code that is put at the end of a module assigns each of its
functions to its identifier, and marks those that want the context of the call. It is there
whenever the other edits of the module can be carried out.
-/

set_option autoImplicit false

namespace ServerLink

open Text

/-! ### Quoted text ends where it ends -/

namespace Text

theorem escape_ne_quote (c : Char) : ∃ d ds, escape c = d :: ds ∧ d ≠ '"' := by
  unfold escape
  split
  · exact ⟨_, _, rfl, by decide⟩
  · repeat' split
    all_goals first | exact ⟨_, _, rfl, by decide⟩ | exact ⟨_, _, rfl, by assumption⟩

/-- Reads back the written form of one character. -/
def readEscape (cs : List Char) : Option (Char × List Char) :=
  match cs with
  | '\\' :: 'u' :: _ :: _ :: h :: l :: rest =>
      some (Char.ofNat ((Json.Read.hexValue? h).getD 0 * 16 + (Json.Read.hexValue? l).getD 0), rest)
  | '\\' :: c :: rest => (Json.Read.shortEscape? c).map fun d => (d, rest)
  | c :: rest => some (c, rest)
  | [] => none

theorem hexDigits_read : ∀ n < 0x20, (Json.Read.hexValue? (hexDigit (n / 16))).getD 0 * 16 +
    (Json.Read.hexValue? (hexDigit (n % 16))).getD 0 = n := by
  decide

theorem readEscape_escape (c : Char) (rest : List Char) :
    readEscape (escape c ++ rest) = some (c, rest) := by
  unfold escape
  split
  · next quote => simp [readEscape, quote, Json.Read.shortEscape?]
  split
  · next slash => simp [readEscape, slash, Json.Read.shortEscape?]
  split
  · next feed => simp [readEscape, feed, Json.Read.shortEscape?]
  split
  · next back => simp [readEscape, back, Json.Read.shortEscape?]
  split
  · next tab => simp [readEscape, tab, Json.Read.shortEscape?]
  split
  · next bell => simp [readEscape, bell, Json.Read.shortEscape?]
  split
  · next page => simp [readEscape, page, Json.Read.shortEscape?]
  split
  · next control => simp [readEscape, hexDigits_read _ control, Char.ofNat_toNat]
  · next slash _ _ _ _ _ _ =>
    unfold readEscape
    split
    · next same => exact absurd (List.cons.inj same).1 slash
    · next same => exact absurd (List.cons.inj same).1 slash
    · next same =>
      obtain ⟨rfl, rfl⟩ := List.cons.inj same
      rfl
    · next same => simp at same

theorem escape_append_inj {c d : Char} {xs ys : List Char}
    (same : escape c ++ xs = escape d ++ ys) : c = d ∧ xs = ys := by
  have read := readEscape_escape c xs
  rw [same, readEscape_escape] at read
  simpa [eq_comm] using read

-- What follows quoted text does not change what is quoted.
theorem quotedChars_append_inj {a b xs ys : List Char}
    (same : quotedChars a ++ xs = quotedChars b ++ ys) : a = b ∧ xs = ys := by
  simp only [quotedChars, List.cons_append, List.cons.injEq, true_and, List.append_assoc] at same
  induction a generalizing b with
  | nil =>
    cases b with
    | nil => simpa using same
    | cons c cs =>
      obtain ⟨d, ds, written, other⟩ := escape_ne_quote c
      simp [written] at same
      exact absurd same.1.symm other
  | cons c cs ih =>
    cases b with
    | nil =>
      obtain ⟨d, ds, written, other⟩ := escape_ne_quote c
      simp [written] at same
      exact absurd same.1 other
    | cons d ds =>
      simp only [List.flatMap_cons, List.append_assoc] at same
      obtain ⟨rfl, rest⟩ := escape_append_inj same
      obtain ⟨rfl, tail⟩ := ih rest
      exact ⟨rfl, tail⟩

theorem toList_quoted (s : String) : (quoted s).toList = quotedChars s.toList := by
  simp [quoted]

end Text

/-! ### The code that registers a function -/

namespace GlobalNames

/-- Where the registry keeps the function of an identifier. -/
def slot (g : GlobalNames) (id : String) : String := g.registryRef ++ "[" ++ quoted id ++ "]"

/-- Puts a function in its place. -/
def assignment (g : GlobalNames) (f : ServerFunction) : String :=
  g.slot f.id ++ " = " ++ f.localName ++ ";\n"

/-- Marks a function as one that wants the context of the call. -/
def contextMark (g : GlobalNames) (f : ServerFunction) : String :=
  g.slot f.id ++ "." ++ g.contextFlag ++ " = true;\n"

end GlobalNames

/-- The code assigns the function to its identifier, and marks it right behind that if and only if
it wants the context. -/
def Registers (g : GlobalNames) (f : ServerFunction) (code : List Char) : Prop :=
  ∃ before after, code = before ++ (g.assignment f).toList ++ after ∧
    ((g.contextMark f).toList <+: after ↔ f.requiresContext = true)

theorem registerFunction_eq (g : GlobalNames) (f : ServerFunction) :
    FunctionMap.registerFunction g f =
      g.assignment f ++ (if f.requiresContext then g.contextMark f else "") := by
  simp only [FunctionMap.registerFunction, GlobalNames.assignment, GlobalNames.contextMark,
    GlobalNames.slot]

-- A mark is not the beginning of an assignment.
theorem not_contextMark_prefix (g : GlobalNames) (f h : ServerFunction) (rest : List Char) :
    ¬ (g.contextMark f).toList <+: (g.assignment h).toList ++ rest := by
  rintro ⟨more, same⟩
  simp only [GlobalNames.contextMark, GlobalNames.assignment, GlobalNames.slot, String.toList_append,
    toList_quoted, List.append_assoc, List.append_cancel_left_eq] at same
  have quoted := (quotedChars_append_inj same).2
  simp at quoted

-- Registration code registers every function it is made for, whatever stands before it.
theorem registers_of_mem {g : GlobalNames} {own : FunctionMap} {f : ServerFunction}
    (member : f ∈ own.values) (code : List Char) :
    Registers g f (code ++ (own.registration g).toList) := by
  obtain ⟨xs, ys, values⟩ := List.append_of_mem member
  let written (fs : List ServerFunction) : List Char :=
    fs.flatMap fun f => (FunctionMap.registerFunction g f).toList
  let mark : List Char := (if f.requiresContext then g.contextMark f else "").toList
  obtain ⟨opening, whole⟩ : ∃ opening, (own.registration g).toList = opening ++ written own.values := by
    refine ⟨("\n;if (!" ++ g.registryRef ++ ") \x7b " ++ g.registryRef
      ++ " = Object.create(null); \x7d\n").toList, ?_⟩
    simp only [FunctionMap.registration, String.toList_append, String.toList_join, List.flatMap_map,
      written]
  refine ⟨code ++ opening ++ written xs, mark ++ written ys, ?_, ?_⟩
  · simp [whole, values, written, mark, registerFunction_eq, List.append_assoc]
  · by_cases context : f.requiresContext = true
    · simp [mark, context]
    · simp only [mark, context, if_false, Bool.false_eq_true, iff_false, String.toList_empty,
        List.nil_append]
      cases ys with
      | nil => simp [written, GlobalNames.contextMark]
      | cons h zs =>
        have more := not_contextMark_prefix g f h
          ((if h.requiresContext then g.contextMark h else "").toList ++ written zs)
        simpa [written, registerFunction_eq, List.append_assoc] using more

/-! ### The server's module -/

/-- The edits of a module for the server, apart from the registration. -/
def serverEdits (o : Options) (m : Module) (own : FunctionMap) : List Edit :=
  (Rewriting.ofModule m o (o.passes .server !own.isEmpty) own .empty).allEdits

theorem moduleEdits_server (o : Options) (t : FileTree) (r : Registry) {m : Module}
    {own : FunctionMap} (some : own.isEmpty = false) :
    moduleEdits o t r .server m own =
      serverEdits o m own ++ [.insertion m.size (own.registration o.globals)] := by
  have stubs : (o.passes .server !own.isEmpty).clientStubs = false := rfl
  have sites : (o.passes .server !own.isEmpty).callSites = false := rfl
  have registers : (o.passes .server !own.isEmpty).registration = true := by
    simp [Options.passes, some]
  have put : own.registrationEdit o.globals m.size =
      [.insertion m.size (own.registration o.globals)] := by
    simp [FunctionMap.registrationEdit, some]
  simp only [moduleEdits, stubs, sites, registers, Bool.false_and, Bool.false_eq_true, if_false,
    if_true, serverEdits, put]

/-- Edits that fit their text and do not overlap are carried out, and what is put in at the end
comes last. -/
theorem applyEdits_insertion {text : List Char} {es : List Edit} {content : String}
    (name : Option String) (solid : ∀ e ∈ es, e.start < e.stop) (fits : ∀ e ∈ es, e.Fits text)
    (apart : es.Pairwise Edit.Apart) :
    ∃ out, applyEdits text (es ++ [.insertion (byteLength text) content]) name =
      .ok (.changed out) ∧
        out.code = splice text 0 (byteLength text) (Edit.sorted es) ++ content.toList := by
  have members : ∀ e, e ∈ Edit.sorted es ↔ e ∈ es := fun e => (Edit.sorted_perm es).mem_iff
  have accepted := Edit.firstFault_sorted_eq_none_iff.2 ⟨fits, apart⟩
  obtain ⟨-, -, follow⟩ := Edit.of_firstFault_eq_none accepted
  have ascending : (Edit.sorted es).Pairwise fun a b => a.start < b.start ∧ a.stop ≤ b.start := by
    refine follow.imp_of_mem ?_
    intro a b here _ order
    have := solid a ((members a).1 here)
    omega
  have row : (Edit.sorted es ++ [Edit.insertion (byteLength text) content]).Pairwise
      fun a b => a.start < b.start ∧ a.stop ≤ b.start := by
    refine List.pairwise_append.2 ⟨ascending, by simp, ?_⟩
    intro a here b last
    obtain rfl := List.mem_singleton.1 last
    have width := solid a ((members a).1 here)
    have inside := (fits a ((members a).1 here)).2.2.le_byteLength
    simp only [Edit.insertion]
    omega
  have fit : ∀ e ∈ Edit.sorted es ++ [Edit.insertion (byteLength text) content], e.Fits text := by
    intro e member
    rcases List.mem_append.1 member with inner | last
    · exact fits e ((members e).1 inner)
    · obtain rfl := List.mem_singleton.1 last
      exact ⟨Nat.le_refl _, isBoundary_byteLength text, isBoundary_byteLength text⟩
  obtain ⟨a, carried, code, still⟩ :=
    applyEdits_of_row name row fit ((Edit.sorted_perm es).symm.append_right _)
  cases a with
  | unchanged => exact absurd (still.1 rfl) (by simp)
  | changed out =>
    refine ⟨out, carried, ?_⟩
    rw [← splice_append_insertion]
    exact code

-- Edits that are carried out fit their text and do not overlap.
theorem of_applyEdits_eq_ok {text : List Char} {es : List Edit} {name : Option String}
    {a : Applied} (carried : applyEdits text es name = .ok a) :
    (∀ e ∈ es, e.Fits text) ∧ es.Pairwise Edit.Apart := by
  unfold applyEdits at carried
  split at carried
  · rename_i empty
    simp [List.isEmpty_iff.1 empty]
  · simp only at carried
    split at carried
    · simp at carried
    · rename_i sound
      exact Edit.firstFault_sorted_eq_none_iff.1 sound

/-- A module whose functions are known is registered exactly when its other edits can be carried
out. -/
theorem registered_iff {o : Options} {t : FileTree} {r : Registry} {p : Path} {text : List Char}
    {m : Module} {own : FunctionMap} {f : ServerFunction} (canonical : t.canonical p = .ok p)
    (parsed : Module.parse p text = .ok m) (known : ownFunctions o r m = .ok own)
    (member : f ∈ own.values) (solid : ∀ e ∈ serverEdits o m own, e.start < e.stop) :
    (∃ out, transformFile o t r .server p text = .ok (.changed out) ∧
      Registers o.globals f out.code) ↔
    (∀ e ∈ serverEdits o m own, e.Fits text) ∧ (serverEdits o m own).Pairwise Edit.Apart := by
  have some : own.isEmpty = false := by
    cases entries : own.entries with
    | nil => simp [FunctionMap.values, entries] at member
    | cons e es => simp [FunctionMap.isEmpty, entries]
  obtain ⟨-, same⟩ := Module.of_parse parsed
  have whole : transformFile o t r .server p text =
      applyEdits text (serverEdits o m own ++
        [.insertion (byteLength text) (own.registration o.globals)])
        (if o.sourceMaps then Option.some m.mapName else none) := by
    simp only [transformFile, canonical, parsed, transformModule, known, bind, Except.bind,
      moduleEdits_server o t r some, Module.size, same]
  rw [whole]
  constructor
  · rintro ⟨out, carried, -⟩
    obtain ⟨fits, apart⟩ := of_applyEdits_eq_ok carried
    exact ⟨fun e here => fits e (List.mem_append_left _ here), (List.pairwise_append.1 apart).1⟩
  · rintro ⟨fits, apart⟩
    obtain ⟨out, carried, ends⟩ := applyEdits_insertion _ solid fits apart
    exact ⟨out, carried, ends ▸ registers_of_mem member _⟩

end ServerLink
