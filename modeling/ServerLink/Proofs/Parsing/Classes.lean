import ServerLink.Proofs.Parsing.Types
import ServerLink.Script.Grammar.Class

/-!
Classes and their members stand where they are read.
-/

set_option autoImplicit false

namespace ServerLink.Script.Parse

open Text

variable {text : List Char} {s : Setting} {c d : Cursor} {self : Goal → Parse Node}
  (sound : Sound text self)

/-! ### Words before a member -/

theorem eatModifier_reads (v : c.Valid text) (words : List String) :
    Ensures (eatModifier words) s c fun _ => Reads text c [] := by
  simp only [eatModifier, ensures_run, ensures_look]
  split
  · simp only [ensures_run, ensures_look]
    refine ensures_ite (fun _ => ?_) fun _ => ensures_pure.2 v.reads
    simp only [ensures_run]
    exact fun valid => v.reads.next valid
  · exact ensures_pure.2 v.reads

theorem eatStatic_reads (v : c.Valid text) :
    Ensures eatStatic s c fun _ => Reads text c [] := by
  simp only [eatStatic, ensures_run, ensures_look]
  refine ensures_ite (fun _ => ?_) fun _ => ensures_pure.2 v.reads
  simp only [ensures_run]
  exact fun valid => v.reads.next valid

theorem lastModifier_reads (v : c.Valid text) (derived : Bool) (m : Modifiers) :
    Ensures (lastModifier derived m) s c fun _ => Reads text c [] := by
  simp only [lastModifier, ensures_run]
  refine (eatModifier_reads v _).mono fun _ d abstract => ?_
  refine ensures_ite (fun _ => ?_) fun _ => ?_
  · simpa only [ensures_run] using fun _ => abstract
  simp only [ensures_run]
  refine (eatModifier_reads abstract.valid _).mono fun _ e override => ?_
  have h := abstract.skip override
  refine ensures_ite (fun _ => ?_) fun _ => ?_
  · simpa only [ensures_run] using fun _ => h
  simp only [ensures_run]
  refine (eatModifier_reads h.valid _).mono fun _ f readonly => ?_
  have h := h.skip readonly
  refine ensures_ite (fun _ => ?_) fun _ => ?_
  · simpa only [ensures_run] using fun _ => h
  simp only [ensures_run, ensures_look]
  refine ensures_ite (fun _ => ?_) fun _ => ensures_pure.2 h
  simp only [ensures_run]
  refine (eatStatic_reads h.valid).mono fun _ g static => ?_
  have h := h.skip static
  refine ensures_ite (fun _ => ?_) fun _ => ensures_pure.2 h
  simpa only [ensures_run] using fun _ => h

theorem modifiers_reads (v : c.Valid text) (derived : Bool) :
    Ensures (modifiers derived) s c fun _ => Reads text c [] := by
  simp only [modifiers, ensures_run]
  refine (eatModifier_reads v _).mono fun early d declared => ?_
  refine (eatModifier_reads declared.valid _).mono fun access e words => ?_
  have h := declared.skip words
  refine ensures_either (fun _ => Reads text e []) (fun _ => ensures_pure.2 h.valid.reads)
    (fun _ => eatModifier_reads h.valid _) fun late f declared => ?_
  have h := h.skip declared
  simp only [ensures_run]
  refine (eatStatic_reads h.valid).mono fun static f words => ?_
  have h := h.skip words
  refine (eatModifier_reads h.valid _).mono fun accessor f words => ?_
  have h := h.skip words
  refine (ensures_rounds (I := fun _ => Reads text c []) h fun m d h => ?_).mono fun m d h => ?_
  · exact (lastModifier_reads h.valid derived m).mono fun _ e words => h.skip words
  · exact (eatModifier_reads h.valid _).mono fun _ e words => h.skip words

/-! ### Members -/

include sound

theorem methodTail_completes (v : c.Valid text) (start : Nat) (m : Modifiers) (key : Node)
    (kind : Kind) (form : FunctionForm) (accepts : Node → Bool) :
    Ensures (methodTail self start m key kind form accepts) s c
      (Completes text kind start [key] c) := by
  simp only [methodTail, ensures_run, ensures_look]
  intro _ _ _
  refine (functionTail_completes sound v _ _ _ _).mono fun f d rest _ _ => ?_
  have function := v.reads.complete rest
  split
  · simp only [ensures_run]
    exact fun _ => ⟨[f], function.takes, rfl⟩
  · simp only [ensures_run]
    exact ⟨[f], function.takes, rfl⟩

theorem fieldTail_reads (v : c.Valid text) (start : Nat) (m : Modifiers) (key : Node) :
    Ensures (fieldTail self start m key) s c fun n d =>
      ∃ more, Reads text c more d ∧ n = .mk .field ⟨start, d.lastStop⟩ (key :: more) := by
  simp -zeta only [fieldTail, ensures_run, ensures_look]
  intro _ _ _
  extract_lets rest
  have after (d : Cursor) (h : Reads text c [] d) : Ensures (rest ()) s d fun n e =>
      ∃ more, Reads text c more e ∧ n = .mk .field ⟨start, e.lastStop⟩ (key :: more) := by
    simp -zeta only [rest, ensures_run]
    refine ( typeAnnotation?_reads sound h.valid).mono fun ann e typed => ?_
    have h := h.append typed
    refine (eat_reads h.valid _).mono fun _ f eaten => ?_
    have h := h.skip eaten.1
    extract_lets ending
    have finish (value : List Node) (g : Cursor) (read : Reads text f value g) :
        Ensures (ending value) s g fun n e =>
          ∃ more, Reads text c more e ∧ n = .mk .field ⟨start, e.lastStop⟩ (key :: more) := by
      simp only [ending, ensures_run]
      intro _
      have h := h.append read
      exact (semicolon_reads h.valid).mono fun _ g ended => ⟨_, h.skip ended, by simp⟩
    refine ensures_ite (fun _ => ?_) fun _ => ensures_bind.2 (ensures_pure.2 (finish _ _ h.valid.reads))
    simp only [ensures_run]
    exact (sound .assignment _ _ h.valid).mono fun e g read => finish _ _ read.takes.toReads
  refine ensures_ite (fun _ => ?_) fun _ => after c v.reads
  simp only [ensures_run, ensures_look]
  exact ensures_mark v after

theorem namedMember_completes (v : c.Valid text) (start : Nat) (m : Modifiers) :
    Ensures (namedMember self start m) s c fun n d => ∃ k, k.isSimple = true ∧
      Completes text k start [] c n d := by
  have method (d : Cursor) (h : Reads text c [] d) (kind : Kind) (simple : kind.isSimple = true)
      (form : FunctionForm) (accepts : Node → Bool) :
      Ensures (propertyName self) s d fun key d =>
        Ensures (methodTail self start m key kind form accepts) s d fun n d => ∃ k,
          k.isSimple = true ∧ Completes text k start [] c n d := by
    refine (propertyName_tree sound h.valid).mono fun key e read => ?_
    have h := h.tree read
    refine (methodTail_completes sound h.valid _ _ _ _ _ _).mono fun n f rest => ?_
    exact ⟨kind, simple, h.toReads.completes rest⟩
  simp -zeta only [namedMember, angleAhead, ensures_run, ensures_look]
  extract_lets w
  refine ensures_ite (fun _ => ?_) fun _ => ?_
  · simp only [ensures_run]
    intro valid
    have h := v.reads.next valid
    exact (eat_reads h.valid _).mono fun generator d star => method d (h.skip star.1) _ rfl _ _
  simp -zeta only [ensures_run]
  refine ensures_ifEat (fun star => ?_) ?_
  · simp only [ensures_run]
    exact method _ (v.reads.eaten star).toReads _ rfl _ _
  refine ensures_ite (fun _ => ?_) fun _ => ?_
  · simp only [ensures_run]
    intro valid
    have h := v.reads.next valid
    cases w == "get" with
    | true => exact method _ h _ rfl _ _
    | false => exact method _ h _ rfl _ _
  simp -zeta only [ensures_run, ensures_look]
  refine (propertyName_tree sound v).mono fun key d read => ?_
  have h := read.takes
  extract_lets rest
  have after (e : Cursor) (k : Takes text c [key] e) : Ensures (rest ()) s e fun n d => ∃ k,
      k.isSimple = true ∧ Completes text k start [] c n d := by
    simp only [rest, ensures_run, ensures_look]
    refine ensures_ite (fun _ => ?_) fun _ => ?_
    · refine (methodTail_completes sound k.valid _ _ _ _ _ _).mono fun n f rest => ?_
      exact ⟨.method, rfl, k.toReads.completes rest⟩
    · refine (fieldTail_reads sound k.valid _ _ _).mono ?_
      rintro _ f ⟨more, read, rfl⟩
      exact ⟨.field, rfl, _, k.append read, rfl⟩
  refine ensures_ite (fun _ => ?_) fun _ => after d h
  simp only [ensures_run, ensures_look]
  refine ensures_perhaps (Takes text c [key]) (fun _ => ?_) (fun _ => h) after
  simp only [ensures_run]
  exact fun valid => h.append (h.valid.reads.next valid)

theorem classMember_tree (v : c.Valid text) (derived : Bool) :
    Ensures (classMember self derived) s c (Tree text c) := by
  simp -zeta only [classMember, ensures_run, ensures_look]
  refine (decorators_reads sound v).mono ?_
  rintro ds d ⟨before, -⟩
  refine (modifiers_reads before.valid derived).mono fun m e words => ?_
  have h := before.skip words
  refine indexSignatureAhead_stays.mono ?_
  rintro indexed e rfl
  extract_lets whole
  -- A member is one with its decorators, and begins where the first of them does.
  have finish (k : Kind) (simple : Holds k.isSimple) (n : Node) (f : Cursor)
      (rest : Completes text k d.here.offset [] e n f) : Ensures (whole n) s f (Tree text c) := by
    obtain ⟨more, taken, rfl⟩ := rest
    have member : Tree text c (.mk k _ _) f := (h.take taken).node
    exact ensures_pure.2 member
  refine ensures_ite (fun _ => ?_) fun _ => ensures_ite (fun _ => ?_) fun _ => ?_
  · simp only [ensures_run]
    intro _ valid
    have k := h.valid.reads.next valid
    refine (sound .block _ _ k.valid).mono fun b f read => ?_
    exact finish .staticBlock ⟨rfl⟩ _ _ ⟨_, k.tree (read.withKind (k := .body)), rfl⟩
  · simp only [ensures_run]
    exact (indexSignature_completes sound h.valid _).mono fun n f rest => finish _ ⟨rfl⟩ n f rest
  · simp only [ensures_run]
    refine (namedMember_completes sound h.valid _ _).mono ?_
    rintro n f ⟨k, simple, rest⟩
    exact finish k ⟨simple⟩ n f rest

theorem classMembers_takes (v : c.Valid text) (derived : Bool) :
    Ensures (classMembers self derived) s c (Takes text c) := by
  simp only [classMembers, ensures_run]
  intro opened
  have h := (v.reads.eaten opened).toReads
  refine (ensures_rounds (I := fun (r : List Node × Bool) e => Reads text c r.1.reverse e)
    (a := ([], false)) h ?_).mono fun r e read closed => read.eaten closed
  rintro ⟨ms, constructed⟩ e read
  simp only [ensures_run, ensures_look]
  refine ensures_ite (fun _ => ensures_pure.2 read) fun _ => ?_
  simp only [ensures_run]
  refine ensures_ifEat (fun mark => ensures_pure.2 (read.eaten mark).toReads) ?_
  simp only [ensures_run, ensures_look]
  exact (classMember_tree sound read.valid derived).mono fun m f tree _ => read.cons tree

theorem heritageList_tree (v : c.Valid text) (kind : Kind) [Holds kind.isSimple] :
    Ensures (heritageList self kind) s c (Tree text c) := by
  simp only [heritageList, ensures_run, ensures_look]
  -- A list of types is never empty.
  refine (ensures_loop (I := fun ts d => Reads text c ts.reverse d)
    (Q := fun ts d => Takes text c ts.reverse d) (a := []) v.reads fun ts d h => ?_).mono
      fun ts d taken => taken.node
  simp only [ensures_run, ensures_look]
  refine (entityName_tree h.valid).mono fun name e read => ?_
  refine (typeArguments?_reads sound read.takes.valid).mono fun args f typed => ?_
  have tree := (read.takes.append typed.1).node (k := .typePart)
  refine ensures_eat.2 ⟨fun comma => ?_, fun _ => ?_⟩
  · exact ensures_pure.2 ⟨fun _ => ((h.cons tree).eaten comma).toReads, by simp⟩
  · exact ensures_pure.2 ⟨by simp, fun _ => by simpa using h.tree tree⟩

theorem classTail_completes (v : c.Valid text) (kind : Kind) (start : Nat) (ds : List Node)
    (nameNeeded : Bool) :
    Ensures (classTail self kind start ds nameNeeded) s c (Completes text kind start ds c) := by
  simp -zeta only [classTail, ensures_run, ensures_look]
  extract_lets named afterName
  have finish (name : List Node) (d : Cursor) (h : Reads text c name d) :
      Ensures (afterName name) s d (Completes text kind start ds c) := by
    simp -zeta only [afterName, ensures_run, ensures_look]
    refine (typeParameters?_reads sound h.valid _).mono fun ts e typed => ?_
    have h := h.append typed
    extract_lets afterSuper
    have finish (super : List Node) (f : Cursor) (read : Reads text e super f) :
        Ensures (afterSuper super) s f (Completes text kind start ds c) := by
      simp -zeta only [afterSuper, ensures_run, ensures_look]
      have h := h.append read
      refine (eatWord_reads h.valid _).mono fun _ g word => ?_
      have h := h.skip word.1
      extract_lets body
      have finish (promised : List Node) (i : Cursor) (read : Reads text g promised i) :
          Ensures (body promised) s i (Completes text kind start ds c) := by
        simp only [body, ensures_run]
        have h := h.append read
        refine (classMembers_takes sound h.valid _).mono fun ms j taken => ?_
        exact ⟨_, h.take taken, by simp⟩
      refine ensures_ite (fun _ => ?_) fun _ => ?_
      · simp only [ensures_run]
        exact (heritageList_tree sound h.valid _).mono fun t i read => finish _ _ read.takes.toReads
      · exact ensures_bind.2 (ensures_pure.2 (finish _ _ h.valid.reads))
    refine ensures_ite (fun _ => ?_) fun _ => ?_
    · simp only [ensures_run, ensures_look]
      intro valid
      have k := h.valid.reads.next valid
      refine (sound .leftHand _ _ k.valid).mono fun t f read => ?_
      have k := k.tree read
      refine (typeArguments?_reads sound k.valid).mono fun args g typed => ?_
      exact finish _ _ (k.append typed.1).node.takes.toReads
    · exact ensures_bind.2 (ensures_pure.2 (finish _ _ h.valid.reads))
  simp only [ensures_run]
  intro _
  refine ensures_ite (fun _ => ?_) fun _ => ?_
  · simp only [ensures_run, ensures_look]
    exact (bindingName_takes v).mono fun name d read _ => finish _ _ read.node.takes.toReads
  · exact ensures_bind.2 (ensures_pure.2 (finish _ _ v.reads))

end ServerLink.Script.Parse
