import ServerLink.Proofs.Parsing.Cursors
import ServerLink.Script.Goal

/-!
What every goal has to give, and the rules that all kinds of text share: names, lists, types behind
colons and between angle brackets.
-/

set_option autoImplicit false

namespace ServerLink.Script

open Text Parse

/-- Markup is a tree once its last token is passed, be it by the next token or by text. -/
structure Markup (text : List Char) (c : Cursor) (n : Node) (d : Cursor) : Prop where
  valid : d.Valid text
  closes : (d.token == .punct ">") = true
  tree : ∀ t, Tail.LeftOf d.next.chars d.next.offset t → Tree text c n (.at t)

/-- What is read for a goal. -/
def Goal.Gives (text : List Char) (g : Goal) : Cursor → Node → Cursor → Prop :=
  match g with
  | .pattern => fun c n d => Tree text c n d ∧ n.kind.isSimple = true
  | .markup => Markup text
  | .statement | .item | .moduleItem => Item text
  | _ => Tree text

/-- The reader reads every goal as it should. -/
def Sound (text : List Char) (self : Goal → Parse Node) : Prop :=
  ∀ g s c, c.Valid text → Ensures (self g) s c (g.Gives text c)

namespace Parse

variable {text : List Char} {s : Setting} {c d : Cursor}

/-! ### Names and lists -/

theorem anyName_takes (v : c.Valid text) : Ensures anyName s c fun _ => Takes text c [] := by
  simp only [anyName, ensures_run, ensures_look]
  split
  · rename_i named
    simp only [ensures_run]
    exact fun _ => v.reads.matched named
  · exact ensures_fail.2 trivial

theorem plainName_takes (v : c.Valid text) : Ensures plainName s c fun _ => Takes text c [] := by
  simp only [plainName, ensures_run, ensures_look]
  split
  · rename_i named
    simp only [ensures_run, ensures_look]
    exact fun _ _ _ _ => v.reads.matched named
  · exact ensures_fail.2 trivial

theorem bindingName_takes (v : c.Valid text) : Ensures bindingName s c fun _ => Takes text c [] := by
  simp only [bindingName, ensures_run]
  exact (plainName_takes v).mono fun _ d read _ => read

theorem word_tree (v : c.Valid text) : Ensures word s c (Tree text c) := by
  simp only [word, ensures_run, ensures_look]
  exact (anyName_takes v).mono fun _ d read => read.node

theorem eat_reads (v : c.Valid text) (p : String) :
    Ensures (eat p) s c fun b d => Reads text c [] d ∧ (b = true → Takes text c [] d) :=
  ensures_eat.2 ⟨fun here => ⟨(v.reads.eaten here).toReads, fun _ => v.reads.eaten here⟩,
    fun _ => ⟨v.reads, by simp⟩⟩

theorem eatWord_reads (v : c.Valid text) (w : String) :
    Ensures (eatWord w) s c fun b d => Reads text c [] d ∧ (b = true → Takes text c [] d) :=
  ensures_eatWord.2 ⟨fun here => ⟨(v.reads.eaten here).toReads, fun _ => v.reads.eaten here⟩,
    fun _ => ⟨v.reads, by simp⟩⟩

theorem semicolonAhead_stays : Ensures semicolonAhead s c fun _ d => d = c := by
  simp only [semicolonAhead, ensures_run, ensures_look]
  refine ensures_ite (fun _ => ensures_pure.2 rfl) fun _ => ?_
  simp only [ensures_run, ensures_look]
  refine ensures_ite (fun _ => ensures_pure.2 rfl) fun _ => ?_
  simp only [ensures_look]

theorem semicolon_reads (v : c.Valid text) : Ensures semicolon s c fun _ => Reads text c [] := by
  simp only [semicolon, ensures_run]
  refine (eat_reads v ";").mono fun b d read => ?_
  refine ensures_ite (fun _ => ensures_pure.2 read.1) fun _ => ?_
  simp only [ensures_run]
  refine semicolonAhead_stays.mono ?_
  rintro b _ rfl
  exact ensures_ite (fun _ => ensures_pure.2 read.1) fun _ => ensures_fail.2 trivial

-- One of some marks, which may be left out.
theorem ensures_mark {α : Type} {ps : List String} {f : Unit → Parse α} {Q : α → Cursor → Prop}
    (v : c.Valid text) (rest : ∀ d, Reads text c [] d → Ensures (f ()) s d Q) :
    Ensures (if c.token.isAnyOf ps = true then advance >>= f else f ()) s c Q := by
  refine ensures_perhaps (Reads text c []) (fun mark => ?_) (fun _ => v.reads) rest
  exact ensures_advance.2 fun _ => (v.reads.anyOf mark).toReads

-- The items of a list stand before its closing token.
theorem listUntil_reads {close : String} {item : Parse Node} {P : Node → Prop}
    (each : ∀ c, c.Valid text → Ensures item s c fun n d => Tree text c n d ∧ P n)
    (v : c.Valid text) : Ensures (listUntil close item) s c fun ns d =>
      (∀ n ∈ ns, P n) ∧ ∃ e, Reads text c ns e ∧ (e.token == .punct close) = true ∧
        d = .at e.next := by
  simp only [listUntil, ensures_run]
  refine ensures_loop (I := fun ns d => (∀ n ∈ ns, P n) ∧ Reads text c ns.reverse d)
    ⟨by simp, v.reads⟩ ?_
  rintro ns d ⟨all, read⟩
  simp only [ensures_run, ensures_look]
  refine ensures_ite (fun _ => ?_) fun _ => ?_
  · refine ensures_pure.2 ⟨by simp, fun _ closed => ⟨by simpa using all, d, read, closed, rfl⟩⟩
  · simp only [ensures_run, ensures_look]
    refine (each d read.valid).mono ?_
    rintro n e ⟨tree, holds⟩
    have further : Reads text c (n :: ns).reverse e := by simpa using (read.tree tree).toReads
    have all' : ∀ m ∈ n :: ns, P m := by
      intro m member
      rcases List.mem_cons.1 member with rfl | later
      · exact holds
      · exact all m later
    refine ensures_ite (fun _ => ?_) fun _ => ?_
    · refine ensures_pure.2 ⟨by simp, fun _ closed => ⟨?_, e, further, closed, rfl⟩⟩
      exact fun m member => all' m (List.mem_reverse.1 member)
    · simp only [ensures_run]
      intro comma
      exact ⟨fun _ => ⟨all', (further.eaten comma).toReads⟩, by simp⟩

theorem listUntil_takes {close : String} {item : Parse Node}
    (each : ∀ c, c.Valid text → Ensures item s c (Tree text c)) (v : c.Valid text) :
    Ensures (listUntil close item) s c (Takes text c) := by
  refine (listUntil_reads (P := fun _ => True)
    (fun c v => (each c v).mono fun n d tree => ⟨tree, trivial⟩) v).mono ?_
  rintro ns _ ⟨-, d, read, closed, rfl⟩
  exact read.eaten closed

-- Trees that a loop gathers, the last one first.
theorem ensures_gather {step : List Node → Parse (List Node × Bool)} (init : List Node)
    (h : Reads text c init.reverse d)
    (each : ∀ ns e, Reads text c ns.reverse e →
      Ensures (step ns) s e fun r f => Reads text c r.1.reverse f) :
    Ensures (loop step init) s d fun ns e => Reads text c ns.reverse e :=
  ensures_rounds (I := fun (ns : List Node) e => Reads text c ns.reverse e) h each

-- A tree that may be left out.
theorem ensures_maybe {α : Type} {b : Prop} [Decidable b] {p : Parse Node}
    {f : List Node → Parse α} {Q : α → Cursor → Prop} (v : c.Valid text)
    (one : b → Ensures p s c (Tree text c))
    (rest : ∀ ns d, Reads text c ns d → Ensures (f ns) s d Q) :
    Ensures (if b then (do return [← p]) >>= f else pure [] >>= f) s c Q := by
  refine ensures_either (Reads text c) (fun here => ?_) (fun _ => ensures_pure.2 v.reads) rest
  simp only [ensures_run]
  exact (one here).mono fun n d tree => tree.takes.toReads

-- The same where the list is made after the tree.
theorem ensures_optional {α : Type} {b : Prop} [Decidable b] {p : Parse Node}
    {f : List Node → Parse α} {Q : α → Cursor → Prop} (v : c.Valid text)
    (one : b → Ensures p s c fun n d => Takes text c [n] d)
    (rest : ∀ ns d, Reads text c ns d → Ensures (f ns) s d Q) :
    Ensures (if b then p >>= fun n => pure [n] >>= f else pure [] >>= f) s c Q := by
  refine ensures_ite (fun here => ?_) fun _ => ?_
  · simp only [ensures_run]
    exact (one here).mono fun n d taken => rest [n] d taken.toReads
  · simp only [ensures_run]
    exact rest [] c v.reads

variable {self : Goal → Parse Node} (sound : Sound text self)

include sound

/-! ### Types -/

theorem typeAnnotation_tree (v : c.Valid text) :
    Ensures ( typeAnnotation self) s c (Tree text c) := by
  simp only [ typeAnnotation, ensures_run, ensures_look]
  intro colon
  have h := v.reads.eaten colon
  refine (sound .type _ _ h.valid).mono fun t d read => ?_
  exact (h.tree read).node

theorem typeAnnotation?_reads (v : c.Valid text) :
    Ensures ( typeAnnotation? self) s c (Reads text c) := by
  simp only [ typeAnnotation?, ensures_run, ensures_look]
  refine ensures_ite (fun _ => ?_) fun _ => ensures_pure.2 v.reads
  simp only [ensures_run]
  exact ( typeAnnotation_tree sound v).mono fun t d read => read.takes.toReads

theorem returnAnnotation?_reads (v : c.Valid text) :
    Ensures (returnAnnotation? self) s c (Reads text c) := by
  simp only [returnAnnotation?, ensures_run, ensures_look]
  refine ensures_ite (fun colon => ?_) fun _ => ensures_pure.2 v.reads
  simp only [ensures_run, ensures_look]
  intro _
  have h := v.reads.eaten (Bool.and_eq_true_iff.1 colon).2
  refine (sound .returnType _ _ h.valid).mono fun t d read => ?_
  exact (h.tree read).node.takes.toReads

omit sound in
theorem openAngle_takes (v : c.Valid text) : Ensures openAngle s c fun _ => Takes text c [] := by
  simp only [openAngle, ensures_run, ensures_look]
  split
  · rename_i angle
    simp only [ensures_run]
    exact fun _ => v.reads.matched angle
  · rename_i angles
    simp only [ensures_run, ensures_look]
    obtain ⟨two, -⟩ := v.stands.spelled _ (by rw [angles]; rfl)
    refine v.reads.moveTo ?_ (Nat.lt_succ_self _) (by simp [angles])
    rw [two]
    exact .cons_ascii rfl (.refl _ _)
  · exact ensures_fail.2 trivial

theorem typeArguments_takes (v : c.Valid text) :
    Ensures (typeArguments self) s c fun n d => Takes text c [n] d ∧ n.kind = .typeArgs := by
  simp only [typeArguments, ensures_run, ensures_look]
  refine (openAngle_takes v).mono fun _ d h _ => ?_
  refine (listUntil_takes (fun c v => sound .type _ c v) h.valid).mono fun ts e read => ?_
  exact ⟨((h.append read.toReads).item).takes, rfl⟩

theorem typeArguments?_reads (v : c.Valid text) :
    Ensures (typeArguments? self) s c fun ns d => Reads text c ns d ∧
      ∃ types : Option Node, ns = types.toList ∧ ∀ t ∈ types, t.kind = .typeArgs := by
  simp only [typeArguments?, angleAhead, ensures_run, ensures_look]
  refine ensures_ite (fun _ => ?_) fun _ => ensures_pure.2 ⟨v.reads, none, rfl, by simp⟩
  simp only [ensures_run]
  refine (typeArguments_takes sound v).mono ?_
  rintro n d ⟨takes, kind⟩
  exact ⟨takes.toReads, some n, rfl, by simpa using kind⟩

omit sound in
theorem varianceWords_reads (v : c.Valid text) (place : TypeParamPlace) :
    Ensures (varianceWords place) s c fun _ => Reads text c [] := by
  refine ensures_rounds (I := fun _ => Reads text c []) v.reads ?_
  rintro ⟨isIn, isOut⟩ d h
  simp only [ensures_run]
  refine ensures_ifEatWord (fun const => ?_) ?_
  · simp only [ensures_run]
    exact fun _ => (h.eaten const).toReads
  simp only [ensures_run]
  refine ensures_ifEatWord (fun in_ => ?_) ?_
  · simp only [ensures_run]
    exact fun _ => (h.eaten in_).toReads
  simp only [ensures_run, ensures_look]
  refine ensures_ite (fun out => ?_) fun _ => ensures_pure.2 h
  simp only [ensures_run, ensures_look]
  split
  · refine ensures_ite (fun _ => ensures_pure.2 h) fun _ => ?_
    simp only [ensures_run]
    exact fun _ _ => (h.eaten out).toReads
  · exact ensures_pure.2 h

theorem typeParameter_tree (v : c.Valid text) (place : TypeParamPlace) :
    Ensures (typeParameter self place) s c (Tree text c) := by
  simp only [typeParameter, ensures_run, ensures_look]
  refine (varianceWords_reads v place).mono fun _ c₁ words => ?_
  refine (plainName_takes words.valid).mono fun name c₂ named => ?_
  have h := words.tree (named.node (k := .typeBind name))
  refine (eatWord_reads h.valid _).mono fun _ c₃ eaten => ?_
  have h := h.skip eaten.1
  refine ensures_maybe h.valid (fun _ => sound .type _ _ h.valid) fun bound c₄ read => ?_
  have h := h.append read
  simp only [ensures_run]
  refine (eat_reads h.valid _).mono fun _ c₅ eaten => ?_
  have h := h.skip eaten.1
  refine ensures_maybe h.valid (fun _ => sound .type _ _ h.valid) fun default c₆ read => ?_
  simp only [ensures_run]
  simpa using (h.append read).node (k := .typeParam)

theorem typeParameters_tree (v : c.Valid text) (place : TypeParamPlace) :
    Ensures (typeParameters self place) s c (Tree text c) := by
  simp only [typeParameters, ensures_run, ensures_look]
  refine (openAngle_takes v).mono fun _ d h _ => ?_
  refine (listUntil_takes (fun c v => typeParameter_tree sound v place) h.valid).mono
    fun ps e read => ?_
  exact (h.append read.toReads).node

theorem typeParameters?_reads (v : c.Valid text) (place : TypeParamPlace) :
    Ensures (typeParameters? self place) s c (Reads text c) := by
  simp only [typeParameters?, angleAhead, ensures_run, ensures_look]
  refine ensures_ite (fun _ => ?_) fun _ => ensures_pure.2 v.reads
  simp only [ensures_run]
  exact (typeParameters_tree sound v place).mono fun n d tree => tree.takes.toReads

/-! ### Names of properties -/

theorem computedName_tree (v : c.Valid text) :
    Ensures (computedName self) s c (Tree text c) := by
  simp only [computedName, ensures_run, ensures_look]
  intro opened
  have h := v.reads.eaten opened
  refine (sound .assignment _ _ h.valid).mono fun e d read closed => ?_
  exact ((h.tree read).eaten closed).node

theorem propertyName_tree (v : c.Valid text) :
    Ensures (propertyName self) s c (Tree text c) := by
  simp only [propertyName, ensures_run, ensures_look]
  split
  · exact computedName_tree sound v
  · exact word_tree v
  iterate 3
    · rename_i here
      simp only [ensures_run, ensures_look]
      intros
      exact (v.reads.matched here).node
  · exact ensures_fail.2 trivial

end Parse

end ServerLink.Script
