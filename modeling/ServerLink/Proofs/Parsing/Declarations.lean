import ServerLink.Proofs.Parsing.Statements

/-!
Declarations stand where they are read, and those of classes with the decorators before them.
-/

set_option autoImplicit false

namespace ServerLink.Script

open Text

/-- A declaration was read that begins at the offset; decorators before it are part of a class. -/
def Declared (text : List Char) (start : Nat) (ds : List Node) (c : Cursor) (n : Node) (d : Cursor) :
    Prop :=
  ∃ k before more, Takes text c more d ∧ n = .mk k ⟨start, d.lastStop⟩ (before ++ more) ∧
    k.isItem = true ∧ (before = [] ∨ k = .classDecl ∧ before = ds)

section

variable {text : List Char} {start : Nat} {ds : List Node} {b c d : Cursor} {n : Node}

theorem Reads.declared {k : Kind} (h : Reads text b [] c)
    (rest : Completes text k start [] c n d) [sort : Holds k.isItem] :
    Declared text start ds b n d := by
  obtain ⟨more, taken, rfl⟩ := rest
  exact ⟨k, [], more, h.take taken, rfl, sort.eq, Or.inl rfl⟩

theorem Reads.declaredClass (h : Reads text b [] c)
    (rest : Completes text .classDecl start ds c n d) : Declared text start ds b n d := by
  obtain ⟨more, taken, rfl⟩ := rest
  exact ⟨.classDecl, ds, more, h.take taken, rfl, rfl, Or.inr ⟨rfl, rfl⟩⟩

theorem Declared.after (h : Declared text start ds c n d) (before : Reads text b [] c) :
    Declared text start ds b n d := by
  obtain ⟨k, decorators, more, taken, rest⟩ := h
  exact ⟨k, decorators, more, before.take taken, rest⟩

theorem Declared.reads (h : Declared text start ds c n d) : Reads text c [] d := by
  obtain ⟨k, decorators, more, taken, rest⟩ := h
  exact taken.drop

-- A declaration behind decorators is an item, be it that it begins with them or after them.
theorem Declared.item (h : Declared text start ds c n d) (before : Reads text b ds c)
    (begins : ∀ n ∈ ds, Begins text n.front)
    (at_ : start = b.here.offset ∨ start = c.here.offset) : Item text b n d := by
  obtain ⟨k, decorators, more, taken, rfl, sort, decorated⟩ := h
  rcases decorated with rfl | ⟨rfl, rfl⟩
  · have : Holds k.isItem := ⟨sort⟩
    rcases at_ with rfl | rfl
    · exact (before.drop.take taken).item
    · have item := taken.item (k := k)
      exact ⟨before.drop.take item.takes, item.begins⟩
  · have whole := before.take taken
    obtain ⟨cut, low, high, opens, late⟩ : IsBoundary text start ∧ b.here.offset ≤ start ∧
        start < d.lastStop ∧ Begins text start ∧ start ≤ c.here.offset := by
      rcases at_ with rfl | rfl
      · exact ⟨before.start.stands.here.cut, Nat.le_refl _, whole.lt, whole.begins, before.here⟩
      · exact ⟨taken.start.stands.here.cut, before.here, taken.lt, taken.begins, Nat.le_refl _⟩
    refine whole.itemFrom rfl cut low high opens fun n head => ?_
    cases decorators with
    | nil =>
      have bounds := taken.placed.bounds n (List.mem_of_head? head)
      exact Or.inl (Nat.le_trans late bounds.1)
    | cons first rest =>
      obtain rfl : first = n := by simpa using head
      exact Or.inr (begins first (by simp))

-- A function that takes up the decorators before it.
theorem Declared.decorated {ds' : List Node} (h : Declared text start ds c n d)
    (kind : n.kind = .functionDecl) (before : Reads text b ds' c)
    (begins : ∀ n ∈ ds', Begins text n.front) :
    Item text b (.mk .functionDecl ⟨c.here.offset, n.stop⟩ (ds' ++ n.parts)) d := by
  obtain ⟨k, decorators, more, taken, rfl, -, decorated⟩ := h
  obtain rfl : k = .functionDecl := kind
  obtain rfl : decorators = [] := by simpa using decorated
  refine (before.take taken).itemFrom rfl taken.start.stands.here.cut before.here taken.lt
    taken.begins fun n head => ?_
  cases ds' with
  | nil => exact Or.inl (taken.placed.bounds n (List.mem_of_head? head)).1
  | cons first rest =>
    obtain rfl : first = n := by simpa using head
    exact Or.inr (begins first (by simp))

end

namespace Parse

variable {text : List Char} {s : Setting} {c d : Cursor} {self : Goal → Parse Node}
  (sound : Sound text self)

theorem nameOnLine_stays : Ensures nameOnLine s c fun _ d => d = c := by
  simp only [nameOnLine, ensures_run, ensures_look]
  split <;> exact ensures_pure.2 rfl

theorem ambientAhead_stays : Ensures ambientAhead s c fun _ d => d = c := by
  simp only [ambientAhead, ensures_run, ensures_look]
  refine ensures_ite (fun _ => ?_) fun _ => ensures_pure.2 rfl
  simp only [ensures_run, ensures_look]
  split <;> exact ensures_pure.2 rfl

include sound

/-! ### Declarations of types -/

theorem interfaceDecl_completes (v : c.Valid text) (start : Nat) :
    Ensures (interfaceDecl self start) s c (Completes text .interfaceDecl start [] c) := by
  simp -zeta only [interfaceDecl, ensures_run, ensures_look]
  refine (plainName_takes v).mono fun name d read _ => ?_
  have h := read.node (k := .typeBind name)
  refine (typeParameters?_reads sound h.takes.valid _).mono fun ts e typed => ?_
  have h := h.takes.append typed
  refine (eatWord_reads h.valid _).mono fun _ f word => ?_
  have h := h.skip word.1
  extract_lets body
  refine ensures_optional h.valid (fun _ => ?_) fun above g read => ?_
  · exact (heritageList_tree sound h.valid _).mono fun t g tree => tree.takes
  have h := h.append read
  simp only [body, ensures_run, ensures_look]
  exact (typeLiteral_tree sound h.valid).mono fun b i tree => ⟨_, h.toReads.tree tree, by simp⟩

theorem aliasDecl_completes (v : c.Valid text) (start : Nat) :
    Ensures (aliasDecl self start) s c (Completes text .aliasDecl start [] c) := by
  simp only [aliasDecl, ensures_run, ensures_look]
  refine (plainName_takes v).mono fun name d read => ?_
  have h := read.node (k := .typeBind name)
  refine (typeParameters?_reads sound h.takes.valid _).mono fun ts e typed equals => ?_
  have h := (h.takes.append typed).toReads.eaten equals
  refine (sound .type _ _ h.valid).mono fun t f read => ?_
  have h := h.toReads.tree read
  exact (semicolon_reads h.valid).mono fun _ g ended => ⟨_, h.skip ended, by simp⟩

theorem enumMember_tree (v : c.Valid text) : Ensures (enumMember self) s c (Tree text c) := by
  simp -zeta only [enumMember, ensures_run, ensures_look]
  extract_lets afterName
  have finish (name : Option String) (d : Cursor) (h : Takes text c [] d) :
      Ensures (afterName name) s d (Tree text c) := by
    simp only [afterName, enclosed, ensures_run]
    refine ensures_ifEat (fun equals => ?_) (ensures_bind.2 (ensures_pure.2 (ensures_node.2 h.node)))
    have h := h.toReads.eaten equals
    simp only [ensures_run]
    exact (sound .assignment _ _ h.valid).mono fun e f read => (h.toReads.tree read).node
  split
  · rename_i here
    simp only [ensures_run]
    exact fun _ => finish _ _ (v.reads.matched here)
  · rename_i here
    simp only [ensures_run]
    exact fun _ => finish _ _ (v.reads.matched here)
  · simp only [ensures_run]

theorem enumDecl_completes (v : c.Valid text) (start : Nat) :
    Ensures (enumDecl self start) s c (Completes text .enumDecl start [] c) := by
  simp only [enumDecl, ensures_run, ensures_look]
  refine (bindingName_takes v).mono fun name d read opened => ?_
  have h := (read.node (k := .bind name false)).takes.toReads.eaten opened
  refine (listUntil_takes (fun c v => enumMember_tree sound v) h.valid).mono fun ms e taken => ?_
  exact ⟨_, h.append taken.toReads, by simp⟩

theorem moduleBlock_tree (v : c.Valid text) : Ensures (moduleBlock self) s c (Tree text c) := by
  simp only [moduleBlock, ensures_run, ensures_look]
  intro opened
  have h := v.reads.eaten opened
  refine (itemsUntilBrace_takes (fun s c v => sound .moduleItem s c v) h.valid).mono
    fun items d read => ?_
  exact (h.append read.toReads).node

theorem namespaceDecl_completes (v : c.Valid text) (start : Nat) :
    Ensures (namespaceDecl self start) s c (Completes text .namespaceDecl start [] c) := by
  simp only [namespaceDecl, ensures_run, ensures_look]
  refine (plainName_takes v).mono fun name d read => ?_
  have h := read.node (k := .bind name false)
  refine (dottedNames_reads h.takes.valid).mono fun _ e dots => ?_
  have h := h.takes.skip dots
  exact (moduleBlock_tree sound h.valid).mono fun b f read => ⟨_, h.toReads.tree read, by simp⟩

theorem foreignModule_completes (v : c.Valid text) (solid : c.token.isSolid = true) (start : Nat) :
    Ensures (foreignModule self start) s c (Completes text .namespaceDecl start [] c) := by
  simp only [foreignModule, ensures_run, ensures_look]
  intro _
  have h := v.reads.token solid
  refine ensures_ite (fun _ => ?_) fun _ => ?_
  · simp only [ensures_run]
    exact (moduleBlock_tree sound h.valid).mono fun b d read => ⟨_, h.toReads.tree read, by simp⟩
  · simp only [ensures_run]
    exact (semicolon_reads h.valid).mono fun _ d ended => ⟨[], h.skip ended, by simp⟩

/-! ### Declarations that may be ahead -/

/-- What may be ahead of a cursor: nothing, and it stays, or a tree. -/
def May (P : Node → Cursor → Prop) (c : Cursor) (o : Option Node) (d : Cursor) : Prop :=
  (∀ n ∈ o, P n d) ∧ (o = none → d = c)

omit sound in
theorem may_none {P : Node → Cursor → Prop} :
    Ensures (pure (none : Option Node)) s c (May P c) :=
  ensures_pure.2 ⟨by simp, fun _ => rfl⟩

omit sound in
theorem may_some {P : Node → Cursor → Prop} {n : Node} (h : P n d) : May P c (some n) d :=
  ⟨by simpa using h, by simp⟩

omit sound in
-- A declaration on the line of the word before it.
theorem onLine_declared {start : Nat} {ds : List Node} {k : Kind} {p : Parse Node}
    (v : c.Valid text)
    (each : ∀ c, c.Valid text → Ensures p s c (Completes text k start [] c)) [Holds k.isItem] :
    Ensures nameOnLine s c fun b d => Ensures (if b = true then do
      advance
      return some (← p) else pure none) s d (May (Declared text start ds c) c) := by
  refine nameOnLine_stays.mono ?_
  rintro b _ rfl
  refine ensures_ite (fun _ => ?_) fun _ => may_none
  simp only [ensures_run]
  intro valid
  have h := v.reads.next valid
  exact (each _ h.valid).mono fun n e rest => may_some (h.declared rest)

theorem typeDeclaration?_declared (v : c.Valid text) (start : Nat) (ds : List Node) :
    Ensures (typeDeclaration? self start ds) s c (May (Declared text start ds c) c) := by
  simp only [typeDeclaration?, ensures_run, ensures_look]
  refine ensures_ite (fun _ => may_none) fun _ => ?_
  simp only [ensures_run, ensures_look]
  split
  · simp only [ensures_bind]
    exact onLine_declared v fun c v => interfaceDecl_completes sound v start
  · simp only [ensures_bind]
    exact onLine_declared v fun c v => aliasDecl_completes sound v start
  · simp only [ensures_run]
    intro valid
    have h := v.reads.next valid
    exact (enumDecl_completes sound h.valid start).mono fun n d rest => may_some (h.declared rest)
  · refine ensures_ite (fun _ => ?_) fun _ => may_none
    simp only [ensures_run]
    intro first second
    have h := (v.reads.next first).next second
    exact (enumDecl_completes sound h.valid start).mono fun n d rest => may_some (h.declared rest)
  · refine ensures_ite (fun _ => ?_) fun _ => may_none
    simp only [ensures_run]
    intro first second
    have h := (v.reads.next first).next second
    exact (classTail_completes sound h.valid _ _ _ _).mono fun n d rest => may_some (h.declaredClass rest)
  · simp only [ensures_bind]
    exact onLine_declared v fun c v => namespaceDecl_completes sound v start
  · split
    · rename_i named
      refine ensures_ite (fun _ => may_none) fun _ => ?_
      simp only [ensures_run]
      intro valid
      have h := v.reads.next valid
      have solid : (Cursor.at c.next).token.isSolid = true := by simp [named, Token.isSolid]
      exact (foreignModule_completes sound h.valid solid start).mono fun n d rest =>
        may_some (h.declared rest)
    · simp only [ensures_bind]
      exact onLine_declared v fun c v => namespaceDecl_completes sound v start
  · rename_i here
    refine ensures_ite (fun _ => ?_) fun _ => may_none
    simp only [ensures_run]
    have solid : c.token.isSolid = true := by simp [here, Token.isSolid]
    exact (foreignModule_completes sound v solid start).mono fun n d rest =>
      may_some (v.reads.declared rest)
  · exact may_none

theorem functionDecl?_declared (v : c.Valid text) (nameNeeded : Bool) :
    Ensures (functionDecl? self nameNeeded) s c
      (May (Completes text .functionDecl c.here.offset [] c) c) := by
  simp only [functionDecl?, ensures_run, ensures_look]
  refine ensures_ifEatWord (fun word => ?_) ?_
  · have h := (v.reads.eaten word).toReads
    simp only [ensures_run]
    exact (functionAfterWord_completes sound h.valid _ _ _ _).mono fun n d rest =>
      may_some (h.completes rest)
  · simp only [ensures_run, ensures_look]
    refine ensures_ite (fun _ => ?_) fun _ => may_none
    simp only [ensures_run]
    intro first second
    have h := (v.reads.next first).next second
    exact (functionAfterWord_completes sound h.valid _ _ _ _).mono fun n d rest =>
      may_some (h.completes rest)

theorem ambientDecl_declared (v : c.Valid text) (start : Nat) (ds : List Node) :
    Ensures (ambientDecl self start ds) s c (Declared text start ds c) := by
  simp only [ambientDecl, ensures_run]
  refine (typeDeclaration?_declared sound v start ds).mono ?_
  rintro o d ⟨some, none⟩
  cases o with
  | some n => exact ensures_pure.2 (some n rfl)
  | none =>
    obtain rfl := none rfl
    simp only [ensures_run]
    refine (functionDecl?_declared sound v true).mono ?_
    rintro o d ⟨some, none⟩
    cases o with
    | some f =>
      obtain ⟨more, taken, rfl⟩ := some f rfl
      exact ensures_pure.2 (v.reads.declared (k := .functionDecl) ⟨more, taken, rfl⟩)
    | none =>
      obtain rfl := none rfl
      simp only [ensures_run]
      refine ensures_ifEatWord (fun word => ?_) ?_
      · have h := (v.reads.eaten word).toReads
        exact (classTail_completes sound h.valid _ _ _ _).mono fun n e rest => h.declaredClass rest
      · simp only [ensures_run]
        refine variableWords_stays.mono ?_
        rintro o _ ⟨rfl, words⟩
        split
        · have simple := words _ rfl
          refine (variableStatement_completes sound v _ _ _ _).mono fun n e rest => ?_
          exact @Reads.declared _ _ _ _ _ _ _ _ v.reads rest ⟨Kind.isItem_of_isSimple simple⟩
        · exact ensures_fail.2 trivial

-- A declaration begins where it is said to, but a function where its first word is.
theorem declaration?_declared (v : c.Valid text) (start : Nat) (ds : List Node) :
    Ensures (declaration? self start ds) s c (May (fun n d =>
      Declared text start ds c n d ∨ Declared text c.here.offset ds c n d) c) := by
  simp only [declaration?, ensures_run]
  refine (functionDecl?_declared sound v true).mono ?_
  rintro o d ⟨some, none⟩
  cases o with
  | some f => exact ensures_pure.2 (may_some (Or.inr (v.reads.declared (some f rfl))))
  | none =>
    obtain rfl := none rfl
    simp only [ensures_run, ensures_look]
    refine ensures_ite (fun _ => ?_) fun _ => ?_
    · simp only [ensures_run]
      intro valid
      have h := v.reads.next valid
      exact (classTail_completes sound h.valid _ _ _ _).mono fun n e rest =>
        may_some (Or.inl (h.declaredClass rest))
    simp only [ensures_run]
    refine ambientAhead_stays.mono ?_
    rintro ambient d rfl
    refine ensures_ite (fun _ => ?_) fun _ => ?_
    · simp only [ensures_run, ensures_look]
      intro _ valid
      have h := v.reads.next valid
      exact (ambientDecl_declared sound h.valid start ds).mono fun n e declared =>
        may_some (Or.inl (declared.after h))
    simp only [ensures_run]
    refine (typeDeclaration?_declared sound v start ds).mono ?_
    rintro o e ⟨some, none⟩
    cases o with
    | some n => exact ensures_pure.2 (may_some (Or.inl (some n rfl)))
    | none =>
      obtain rfl := none rfl
      simp only [ensures_run]
      refine variableWords_stays.mono ?_
      rintro o _ ⟨rfl, words⟩
      split
      · have simple := words _ rfl
        simp only [ensures_run]
        refine (variableStatement_completes sound v _ _ _ _).mono fun n e rest => may_some (Or.inl ?_)
        exact @Reads.declared _ _ _ _ _ _ _ _ v.reads rest ⟨Kind.isItem_of_isSimple simple⟩
      · exact may_none

theorem item_item (v : c.Valid text) : Ensures (item self) s c (Item text c) := by
  simp only [item, ensures_run, ensures_look]
  refine ensures_ite (fun _ => ?_) fun _ => ?_
  · simp only [ensures_run, ensures_look]
    refine (decorators_reads sound v).mono ?_
    rintro ds d ⟨before, begins⟩
    refine (declaration?_declared sound before.valid _ _).mono ?_
    rintro o e ⟨some, -⟩
    split
    · rename_i n
      have declared := some n rfl
      split
      · refine ensures_pure.2 ?_
        rcases declared with early | late
        · exact early.item before begins (Or.inl rfl)
        · exact late.item before begins (Or.inr rfl)
      · rename_i kind
        rw [kind]
        refine ensures_pure.2 ?_
        rcases declared with early | late
        · exact early.decorated kind before begins
        · exact late.decorated kind before begins
      · exact ensures_fail.2 trivial
    · exact ensures_fail.2 trivial
  · simp only [ensures_run]
    refine (declaration?_declared sound v _ _).mono ?_
    rintro o e ⟨some, none⟩
    cases o with
    | some n =>
      refine ensures_pure.2 ?_
      rcases some n rfl with declared | declared <;>
        exact declared.item v.reads (by simp) (Or.inl rfl)
    | none =>
      obtain rfl := none rfl
      exact statement_item sound v

end Parse

end ServerLink.Script
