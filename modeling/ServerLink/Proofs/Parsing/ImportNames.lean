import ServerLink.Imports
import ServerLink.Proofs.Parsing.Kinds
import ServerLink.Proofs.Parsing.Scripts

/-!
The names that imports declare. Each was read as a name, so that it holds nothing but characters of
names, and no dot.
-/

set_option autoImplicit false

namespace ServerLink

open Text

namespace Script

-- The text could be a name, or the end of one.
def IsWord (s : String) : Prop := ∀ c ∈ s.toList, isNameContinue c = true

theorem IsWord.not_mem {s : String} (word : IsWord s) {c : Char}
    (other : isNameContinue c = false) : c ∉ s.toList := by
  intro member
  simp [word c member] at other

theorem isNameContinue_of_fitsName {seen : List Char} {c : Char}
    (fits : Tail.fitsName seen c = true) : isNameContinue c = true := by
  unfold Tail.fitsName at fits
  split at fits
  · exact isNameContinue_of_isNameStart fits
  · exact fits

-- An escape stands for a character that could stand there itself.
theorem takeName_word {e : Tail.NameEscape} {cs seen : List Char} {o : Nat} {esc : Bool}
    {n : Tail.NameRead} (h : Tail.takeName e cs o seen esc = some n)
    (word : ∀ c ∈ seen, isNameContinue c = true) : IsWord n.text := by
  have more {seen : List Char} {c : Char} (fits : Tail.fitsName seen c = true)
      (word : ∀ d ∈ seen, isNameContinue d = true) : ∀ d ∈ c :: seen, isNameContinue d = true :=
    List.forall_mem_cons.2 ⟨isNameContinue_of_fitsName fits, word⟩
  have finished {seen : List Char} (word : ∀ d ∈ seen, isNameContinue d = true) :
      IsWord (String.ofList seen.reverse) := by simpa [IsWord] using word
  fun_induction Tail.takeName e cs o seen esc
  case case1 | case4 =>
    obtain rfl := Option.some.inj h
    exact finished word
  case case2 fits ih => exact ih h (more fits word)
  case case3 ih | case5 ih | case7 ih => exact ih h word
  case case8 hex ih | case12 hex _ _ ih | case14 hex _ ih => exact ih h word
  case case10 fits ih => exact ih h (more fits word)
  case case16 closing ih => exact ih h (more (Bool.and_eq_true_iff.1 closing).2 word)
  all_goals simp at h

theorem takeToken_word {t next : Tail} {s : String} {esc : Bool}
    (h : Tail.takeToken t = (.name s esc, next)) : IsWord s := by
  unfold Tail.takeToken at h
  split at h
  · simp at h
  · rename_i c cs chars
    split at h
    · split at h
      · rename_i n name
        have read := (Prod.mk.inj h).1
        have sound : n.token c ≠ .invalid := by simp [read]
        rw [(Tail.NameRead.token_ne_invalid sound).1, Token.name.injEq] at read
        exact read.1 ▸ takeName_word name (by simp)
      · simp at h
    · split at h
      · split at h <;> simp at h
      · split at h
        · split at h
          · split at h <;> simp at h
          · simp at h
        · split at h
          · split at h
            · split at h <;> simp at h
            · simp at h
          · split at h <;> simp at h

theorem Cursor.Valid.word {text : List Char} {c : Cursor} (v : c.Valid text) {s : String} {esc : Bool}
    (named : c.token = .name s esc) : IsWord s := by
  have read := v.stands.read (by simp [named])
  rw [named] at read
  exact takeToken_word read

-- What the tree declares as an entry of an import is a name, and an entry declares something.
structure EntryNamed (n : Node) : Prop where
  named : ∀ source typeOnly, ∀ b ∈ Imports.bindingOf source typeOnly n, IsWord b.localName
  bound : ∀ imported typeOnly, n.kind = .importSpec imported typeOnly →
    ∀ source allTypes, ∃ b, Imports.bindingOf source allTypes n = some b

-- Whatever the item imports is imported under a name.
structure ItemNamed (n : Node) : Prop where
  named : ∀ b ∈ Imports.bindingsOf n, IsWord b.localName
  bound : ∀ source allTypes, n.kind = .importDecl source allTypes → ∀ e ∈ n.parts,
    ∀ imported typeOnly, e.kind = .importSpec imported typeOnly →
      ∃ b, Imports.bindingOf source allTypes e = some b

namespace Parse

variable {text : List Char} {s : Setting} {c d : Cursor}

theorem Ensures.and {α : Type} {p : Parse α} {P Q : α → Cursor → Prop} (first : Ensures p s c P)
    (second : Ensures p s c Q) : Ensures p s c fun a d => P a d ∧ Q a d :=
  fun a d given => ⟨first a d given, second a d given⟩

theorem plainName_word (v : c.Valid text) : Ensures plainName s c fun name _ => IsWord name := by
  simp only [plainName, ensures_run, ensures_look]
  split
  · rename_i named
    simp only [ensures_run, ensures_look]
    exact fun _ _ _ _ => v.word named
  · exact ensures_fail.2 trivial

theorem bindingName_word (v : c.Valid text) : Ensures bindingName s c fun name _ => IsWord name := by
  simp only [bindingName, ensures_run]
  exact (plainName_word v).mono fun _ _ word _ => word

theorem exportName_word (v : c.Valid text) :
    Ensures exportName s c fun r _ => r.2 = false → IsWord r.1 := by
  simp only [exportName, ensures_run, ensures_look]
  split
  · rename_i named
    simp only [ensures_run]
    exact fun _ _ => v.word named
  · simp [ensures_run]
  · exact ensures_fail.2 trivial

theorem entryName_word (v : c.Valid text) : Ensures entryName s c fun r d =>
    d.Valid text ∧ (r.2.1 = false → IsWord r.1) := by
  simp only [entryName, ensures_bind, ensures_look]
  refine ((exportName_takes v).and (exportName_word v)).mono ?_
  rintro r d ⟨read, word⟩
  exact ensures_pure.2 ⟨read.valid, word⟩

/-! ### Entries -/

-- Whatever an entry has that is no text is a name.
structure Entry.Named (e : Entry) : Prop where
  name : e.isText = false → IsWord e.name
  other : ∀ o ∈ e.other, o.2.1 = false → IsWord o.1

theorem as_named (v : d.Valid text) (span : Span) (name : String) (isText typeOnly : Bool)
    (word : isText = false → IsWord name) :
    Ensures (eatWord "as") s d fun b e => Ensures (if b = true then do
      let other ← entryName
      return (⟨name, isText, span, some other, typeOnly⟩ : Entry)
      else return (⟨name, isText, span, none, typeOnly⟩ : Entry)) s e fun e _ => e.Named := by
  refine ensures_ifEatWord (fun as => ?_) (ensures_pure.2 ⟨word, by simp⟩)
  simp only [ensures_bind]
  refine (entryName_word (v.reads.eaten as).valid).mono ?_
  rintro r e ⟨-, other⟩
  exact ensures_pure.2 ⟨word, by simpa using other⟩

theorem entry_named (v : c.Valid text) : Ensures entry s c fun e _ => e.Named := by
  have as_ : IsWord "as" := List.all_eq_true.1 (by decide)
  have type_ : IsWord "type" := List.all_eq_true.1 (by decide)
  simp only [entry, ensures_bind, ensures_look]
  refine ((exportName_takes v).and (exportName_word v)).mono ?_
  rintro first d ⟨read, firstWord⟩
  refine nameAhead_stays.mono ?_
  rintro ahead d rfl
  refine ensures_ite (fun _ => ?_) fun _ => ?_
  · simp only [ensures_bind]
    refine (entryName_word read.valid).mono ?_
    rintro second e ⟨valid, secondWord⟩
    refine ensures_ite (fun _ => ?_) fun _ => ?_
    · simpa only [ensures_bind] using as_named valid _ _ _ _ secondWord
    simp only [ensures_bind]
    refine nameAhead_stays.mono ?_
    rintro ahead e rfl
    refine ensures_ite (fun _ => ensures_pure.2 ⟨fun _ => as_, by simp⟩) fun _ => ?_
    simp only [ensures_bind]
    refine (entryName_word valid).mono ?_
    rintro third f ⟨valid, thirdWord⟩
    have renamed (span : Span) : Entry.Named ⟨"type", false, span, some third, false⟩ :=
      ⟨fun _ => type_, by simpa using thirdWord⟩
    refine ensures_ite (fun _ => ensures_pure.2 (renamed _)) fun _ => ?_
    simp only [ensures_bind]
    refine nameAhead_stays.mono ?_
    rintro ahead f rfl
    refine ensures_ite (fun _ => ?_) fun _ => ensures_pure.2 (renamed _)
    simp only [ensures_bind]
    refine (entryName_word valid).mono ?_
    rintro fourth g ⟨-, fourthWord⟩
    exact ensures_pure.2 ⟨fun _ => as_, by simpa using fourthWord⟩
  · simpa only [ensures_bind] using as_named read.valid _ _ _ _ firstWord

/-! ### Imports -/

theorem importEntry_named (v : c.Valid text) (allTypes : Bool) :
    Ensures (importEntry allTypes) s c fun n _ => EntryNamed n := by
  simp -zeta only [importEntry, ensures_run, ensures_look]
  refine (entry_named v).mono fun e d named _ => ?_
  extract_lets bound
  have finish (r : String × Span) (word : IsWord r.1) :
      Ensures (bound r) s d fun n _ => EntryNamed n := by
    simp only [bound, ensures_run]
    refine fun _ => ⟨fun source typeOnly b brought => ?_, fun _ _ _ source allTypes => ⟨_, rfl⟩⟩
    obtain rfl := Option.some.inj brought
    exact word
  split
  · rename_i name isText span given
    simp only [ensures_run]
    exact fun plain => finish _ (named.other _ given plain)
  · simp only [ensures_run]
    exact fun plain => finish _ (named.name plain)

theorem wholeImport_named (v : c.Valid text) (imported : Imported) (start : Nat) :
    Ensures (wholeImport imported start) s c fun n d => d.Valid text ∧ EntryNamed n := by
  simp only [wholeImport, ensures_run, ensures_look]
  refine ((bindingName_takes v).and (bindingName_word v)).mono ?_
  rintro name d ⟨read, word⟩
  refine ⟨read.valid, fun source typeOnly b brought => ?_, fun _ _ _ source allTypes => ⟨_, rfl⟩⟩
  obtain rfl := Option.some.inj brought
  exact word

theorem importList_named (v : c.Valid text) (allTypes : Bool) : Ensures (do
    let s ← here
    if ← eat "*" then
      expectWord "as"
      return [← wholeImport .namespace s]
    else
      expect "\x7b"
      listUntil "\x7d" (importEntry allTypes)) s c fun ns _ => ∀ n ∈ ns, EntryNamed n := by
  simp only [ensures_run, ensures_look]
  refine ensures_ifEat (fun star => ?_) ?_
  · simp only [ensures_run]
    intro word
    have valid := ((v.reads.eaten star).toReads.eaten word).valid
    refine (wholeImport_named valid _ _).mono ?_
    rintro n d ⟨-, named⟩
    simpa using named
  · simp only [ensures_run]
    intro opened
    have valid := (v.reads.eaten opened).valid
    refine (listUntil_reads (fun c v => ((importEntry_tree v allTypes).and
      (importEntry_named v allTypes)).mono fun n d h => ⟨h.1.1, h.2⟩) valid).mono ?_
    exact fun ns d read => read.1

theorem importParts_named (v : c.Valid text) (start : Nat) :
    Ensures (importParts start) s c fun r _ => ∀ n ∈ r.1, EntryNamed n := by
  simp -zeta only [importParts]
  extract_lets rest afterWords
  have list (s : Setting) (allTypes allTypes' : Bool) (e : Cursor) (v : e.Valid text) :
      Ensures (rest allTypes) s e fun ns f =>
        Ensures (pure (ns, allTypes')) s f fun r _ => ∀ n ∈ r.1, EntryNamed n :=
    (importList_named v allTypes).mono fun ns f named => ensures_pure.2 named
  have finish (allTypes : Bool) (e : Cursor) (v : e.Valid text) :
      Ensures (afterWords allTypes) s e fun r _ => ∀ n ∈ r.1, EntryNamed n := by
    simp -zeta only [afterWords, ensures_bind, ensures_look]
    refine ensures_ite (fun _ => ?_) fun _ => ?_
    · simpa only [ensures_bind] using list s allTypes allTypes e v
    simp -zeta only [ensures_bind, ensures_lookahead]
    extract_lets afterPhase
    refine ensures_perhaps (·.Valid text) (fun _ => ensures_advance.2 fun valid =>
      (v.reads.next valid).valid) (fun _ => v) fun f v => ?_
    simp only [afterPhase, ensures_bind, ensures_look]
    refine ensures_ite (fun _ => ?_) fun _ => ?_
    · simpa only [ensures_bind] using list s allTypes allTypes f v
    simp only [ensures_bind, ensures_look]
    refine (wholeImport_named v _ _).mono ?_
    rintro n g ⟨valid, named⟩
    refine ensures_ite (fun _ => ?_) fun _ => ?_
    · simp only [ensures_bind]
      -- An alias is no entry of an import.
      intro a h _
      refine ensures_pure.2 ?_
      have other (parts : List Node) (span : Span) : EntryNamed (.mk .importAlias span parts) :=
        ⟨by simp [Imports.bindingOf], by simp⟩
      simpa using other _ _
    · simp only [ensures_bind]
      refine ensures_ifEat (fun comma => ?_) ?_
      · simp only [ensures_bind]
        refine (importList_named (valid.reads.eaten comma).valid _).mono fun ns i others => ?_
        exact ensures_pure.2 (by simpa using ⟨named, others⟩)
      · exact ensures_pure.2 (by simpa using named)
  simp only [ensures_bind, ensures_look]
  refine ensures_ite (fun _ => ?_) fun _ => ?_
  · simp only [ensures_bind, ensures_look]
    refine ensures_ite (fun _ => ?_) fun _ => ?_
    · simp only [ensures_bind, ensures_lookahead]
      refine ensures_ite (fun _ => ?_) fun _ => ?_
      · simp only [ensures_run]
        exact fun sound => finish true _ (v.reads.next sound).valid
      · simp only [ensures_run]
        exact finish false c v
    · simp only [ensures_run]
      exact finish false c v
  · simpa only [ensures_bind] using list s false false c v

theorem importOptions_named (self : Goal → Parse Node) :
    Always (importOptions self) fun ns => ∀ n ∈ ns, EntryNamed n := by
  have object : Always (objectLiteral self) EntryNamed := by
    unfold objectLiteral
    refine always_bind fun _ => always_bind fun _ => always_bind fun _ => always_bind fun _ => ?_
    intro s c
    refine ensures_node.2 ?_
    exact ⟨by simp [Imports.bindingOf], by simp⟩
  have options : Always (objectLiteral self >>= fun n => pure [n]) fun ns => ∀ n ∈ ns, EntryNamed n :=
    always_after object fun n named => always_pure (by simpa using named)
  have nothing : Always (pure []) fun ns => ∀ n ∈ ns, EntryNamed n := always_pure (by simp)
  unfold importOptions
  repeat' first
    | exact nothing
    | exact options
    | refine always_ite ?_ ?_
    | refine always_bind fun _ => ?_

theorem importItem_named (self : Goal → Parse Node) (v : c.Valid text) :
    Ensures (importItem self) s c fun n _ => ItemNamed n := by
  have declared {source : String} {allTypes : Bool} {span : Span} {parts : List Node}
      (named : ∀ n ∈ parts, EntryNamed n) :
      ItemNamed (.mk (.importDecl source allTypes) span parts) := by
    refine ⟨fun b brought => ?_, fun source allTypes kind e member imported typeOnly spec => ?_⟩
    · obtain ⟨entry, member, bound⟩ := List.mem_filterMap.1 brought
      exact (named entry member).named _ _ b bound
    · exact (named e member).bound imported typeOnly spec source allTypes
  simp only [importItem, ensures_run, ensures_look]
  intro word
  have h := v.reads.eaten word
  split
  · simp only [ensures_run]
    intro valid
    refine (importOptions_named self s _).mono fun options d named => ?_
    exact fun _ _ _ => declared named
  · simp only [ensures_run]
    refine (importParts_named h.valid _).mono ?_
    rintro ⟨parts, allTypes⟩ d named
    split
    · exact ensures_pure.2 ⟨by simp [Imports.bindingsOf], by simp⟩
    · simp only [ensures_run]
      intro _ source e _
      refine (importOptions_named self s _).mono fun options f more => ?_
      exact fun _ _ _ => declared (List.forall_mem_append.2 ⟨named, more⟩)

theorem moduleItem_named (self : Goal → Parse Node) (v : c.Valid text) :
    Ensures (moduleItem self) s c fun n _ => ItemNamed n := by
  refine moduleItem_cases self (importItem_named self v) ?_
  rintro ⟨k, span, ps⟩ other
  have noImport (source : String) (allTypes : Bool) : k ≠ .importDecl source allTypes := by
    rintro rfl
    exact absurd other (by simp [Node.IsOther, isImport])
  refine ⟨fun b brought => ?_, fun source allTypes kind => absurd kind (noImport source allTypes)⟩
  unfold Imports.bindingsOf at brought
  split at brought
  · rename_i import_
    exact absurd (Node.mk.inj import_).1 (noImport _ _)
  · simp at brought

end Parse

/-! ### Modules -/

theorem script_named {text : List Char} {c : Cursor} (v : c.Valid text) (s : Setting) (depth : Nat) :
    Parse.Ensures (Parse.script depth) s c fun items _ => ∀ i ∈ items, ItemNamed i := by
  simp only [Parse.script, Parse.ensures_run]
  refine (Parse.ensures_rounds (a := []) (I := fun (items : List Node) d =>
    d.Valid text ∧ ∀ i ∈ items, ItemNamed i) ⟨v, by simp⟩ ?_).mono
      fun items d read => by simpa using read.2
  rintro items d ⟨valid, named⟩
  simp only [Parse.ensures_run, Parse.ensures_look]
  refine Parse.ensures_ite (fun _ => Parse.ensures_pure.2 ⟨valid, named⟩) fun _ => ?_
  simp only [Parse.ensures_run]
  cases depth with
  | zero => exact Parse.ensures_of_eq_none rfl
  | succ depth =>
    have item : Parse.Ensures (Goal.read (depth + 1) .moduleItem) s d fun i _ => ItemNamed i :=
      Parse.moduleItem_named _ valid
    refine ((read_sound (depth + 1) .moduleItem s d valid).and item).mono ?_
    intro i e h
    have read : Item text d i e := h.1
    exact ⟨read.takes.valid, List.forall_mem_cons.2 ⟨h.2, named⟩⟩

-- Settling what names mean changes no name.
theorem bindingOf_resolve (l : Locals) (source : String) (typeOnly : Bool) (entry : Node) :
    Imports.bindingOf source typeOnly (entry.resolve l) = Imports.bindingOf source typeOnly entry := by
  obtain ⟨k, span, ps⟩ := entry
  cases k with
  | importSpec imported entryTypeOnly =>
    cases ps with
    | nil => rfl
    | cons p ps =>
      obtain ⟨k, span, qs⟩ := p
      cases k <;> rfl
  | _ => rfl

theorem bindingsOf_resolve (l : Locals) (item : Node) :
    Imports.bindingsOf (item.resolve l) = Imports.bindingsOf item := by
  obtain ⟨k, span, ps⟩ := item
  cases k with
  | importDecl source typeOnly =>
    simp only [Node.resolve, Kind.settle, Imports.bindingsOf, resolveParts_eq_map,
      List.filterMap_map]
    congr 1
    funext entry
    exact bindingOf_resolve _ source typeOnly entry
  | _ => rfl

theorem ItemNamed.resolve {n : Node} (h : ItemNamed n) (l : Locals) : ItemNamed (n.resolve l) := by
  constructor
  · intro b brought
    rw [bindingsOf_resolve] at brought
    exact h.named b brought
  · intro source allTypes kind e member imported typeOnly spec
    obtain ⟨k, span, ps⟩ := n
    rw [Node.resolve_kind] at kind
    have unsettled := (Kind.settle_eq_iff rfl).1 kind
    simp only [Node.resolve, Node.parts_mk, resolveParts_eq_map] at member
    obtain ⟨p, here, rfl⟩ := List.mem_map.1 member
    rw [Node.resolve_kind] at spec
    obtain ⟨b, bound⟩ :=
      h.bound source allTypes unsettled p here imported typeOnly ((Kind.settle_eq_iff rfl).1 spec)
    exact ⟨b, bindingOf_resolve _ source allTypes p ▸ bound⟩

end Script

theorem Module.named_of_parse {path : Path} {text : List Char} {m : Module}
    (parsed : Module.parse path text = .ok m) : ∀ item ∈ m.items, Script.ItemNamed item := by
  unfold Module.parse at parsed
  split at parsed
  · rename_i items read
    obtain rfl := Except.ok.inj parsed
    simp only [Script.parseScript] at read
    split at read
    · rename_i found d given
      have start : (Script.skipShellLine ⟨withoutMark text, 0⟩).Of (withoutMark text) :=
        Script.skipShellLine_of (.refl _ _)
      have named := Script.script_named (Script.Cursor.valid_at start) _ _ _ _ given
      split at read
      · simp at read
      · obtain rfl := Option.some.inj read
        intro item within
        rw [Script.resolveParts_eq_map] at within
        obtain ⟨i, here, rfl⟩ := List.mem_map.1 within
        exact (named i here).resolve _
    · simp at read
  · simp at parsed

end ServerLink
