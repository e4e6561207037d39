import ServerLink.Proofs.Parsing.Declarations
import ServerLink.Script.Grammar.ModuleItem

/-!
Imports and exports stand where they are read.
-/

set_option autoImplicit false

namespace ServerLink.Script

open Text

theorem Item.after {text : List Char} {b c d : Cursor} {n : Node} (h : Item text c n d)
    (before : Reads text b [] c) : Item text b n d :=
  ⟨before.take h.takes, h.begins⟩

namespace Parse

variable {text : List Char} {s : Setting} {c d : Cursor} {ds : List Node} {self : Goal → Parse Node}
  (sound : Sound text self)

/-! ### Entries of lists -/

theorem moduleText_takes (v : c.Valid text) : Ensures moduleText s c fun _ => Takes text c [] := by
  simp only [moduleText, ensures_run, ensures_look]
  split
  · rename_i here
    simp only [ensures_run]
    exact fun _ => v.reads.matched here
  · exact ensures_fail.2 trivial

theorem nameAhead_stays : Ensures nameAhead s c fun _ d => d = c := by
  simp only [nameAhead, ensures_run, ensures_look]
  split <;> exact ensures_pure.2 rfl

theorem exportName_takes (v : c.Valid text) : Ensures exportName s c fun _ => Takes text c [] := by
  simp only [exportName, ensures_run, ensures_look]
  split
  · rename_i here
    simp only [ensures_run]
    exact fun _ => v.reads.matched here
  · rename_i here
    simp only [ensures_run]
    exact fun _ => v.reads.matched here
  · exact ensures_fail.2 trivial

/-- A tree may stand at the span. -/
def Spans (text : List Char) (c : Cursor) (span : Span) (d : Cursor) : Prop :=
  Tree text c (.mk .hole span []) d

theorem Spans.tree {span : Span} (h : Spans text c span d) {k : Kind}
    [Holds k.isSimple] : Tree text c (.mk k span []) d :=
  Tree.relabel h trivial

theorem Spans.use {span : Span} (h : Spans text c span d) {s : String} {o : Bool} :
    Tree text c (.mk (.use s o) span []) d :=
  Tree.asUse h

theorem entryName_spans (v : c.Valid text) :
    Ensures entryName s c fun r d => Spans text c r.2.2 d ∧ r.2.2.stop = d.lastStop := by
  simp only [entryName, ensures_bind, ensures_look]
  exact (exportName_takes v).mono fun r d read => ensures_pure.2 ⟨read.node, rfl⟩

/-- The names of an entry were read, the one on the other side last. -/
structure Entry.Read (text : List Char) (c : Cursor) (e : Entry) (d : Cursor) : Prop where
  name : Spans text c e.span d
  other : ∀ o ∈ e.other, Spans text c o.2.2 d ∧ e.span.stop ≤ o.2.2.stop

-- An entry with one name.
theorem Spans.alone {span : Span} (h : Spans text c span d) (name : String) (isText typeOnly : Bool) :
    Entry.Read text c ⟨name, isText, span, none, typeOnly⟩ d :=
  ⟨h, by simp⟩

-- An entry whose other name stands behind its first.
theorem Spans.beside {span : Span} {e : Cursor} {r : String × Bool × Span} (h : Spans text c span d)
    (other : Spans text d r.2.2 e) (stop : r.2.2.stop = e.lastStop) (name : String)
    (isText typeOnly : Bool) : Entry.Read text c ⟨name, isText, span, some r, typeOnly⟩ e := by
  refine ⟨h.skip other.takes.drop, ?_⟩
  rintro _ ⟨⟩
  refine ⟨other.after h.takes.drop, ?_⟩
  rw [stop]
  exact Nat.le_trans h.stop_le other.takes.stop

-- A name, and perhaps `as` and another one.
theorem as_read {span : Span} (h : Spans text c span d) (name : String) (isText typeOnly : Bool) :
    Ensures (eatWord "as") s d fun b e => Ensures (if b = true then do
      let other ← entryName
      return (⟨name, isText, span, some other, typeOnly⟩ : Entry)
      else return (⟨name, isText, span, none, typeOnly⟩ : Entry)) s e fun e d => e.Read text c d := by
  refine ensures_ifEatWord (fun word => ?_) (ensures_pure.2 (h.alone name isText typeOnly))
  have further : Spans text c span (.at d.next) := h.skip (h.takes.valid.reads.eaten word).toReads
  simp only [ensures_bind]
  refine (entryName_spans further.takes.valid).mono ?_
  rintro r e ⟨other, stop⟩
  exact ensures_pure.2 (further.beside other stop name isText typeOnly)

theorem entry_read (v : c.Valid text) : Ensures entry s c fun e d => e.Read text c d := by
  simp only [entry, ensures_bind, ensures_look]
  refine (exportName_takes v).mono fun r d read => ?_
  have first : Spans text c ⟨c.here.offset, d.lastStop⟩ d := read.node
  refine nameAhead_stays.mono ?_
  rintro named d rfl
  refine ensures_ite (fun _ => ?_) fun _ => ?_
  · simp only [ensures_bind]
    refine (entryName_spans read.valid).mono ?_
    rintro second e ⟨name, -⟩
    have second' : Spans text c second.2.2 e := name.after read.toReads
    refine ensures_ite (fun _ => ?_) fun _ => ?_
    · simpa only [ensures_bind] using as_read second' _ _ _
    simp only [ensures_bind]
    refine nameAhead_stays.mono ?_
    rintro ahead e rfl
    refine ensures_ite (fun _ => ensures_pure.2 (second'.alone _ _ _)) fun _ => ?_
    simp only [ensures_bind]
    refine (entryName_spans name.takes.valid).mono ?_
    rintro third f ⟨other, stop⟩
    have first : Spans text c _ e := first.skip name.takes.drop
    have renamed := first.beside other stop "type" false false
    refine ensures_ite (fun _ => ensures_pure.2 renamed) fun _ => ?_
    simp only [ensures_bind]
    refine nameAhead_stays.mono ?_
    rintro ahead f rfl
    refine ensures_ite (fun _ => ?_) fun _ => ensures_pure.2 renamed
    simp only [ensures_bind]
    refine (entryName_spans other.takes.valid).mono ?_
    rintro fourth g ⟨last, stop⟩
    have second' : Spans text c _ f := second'.skip other.takes.drop
    exact ensures_pure.2 (second'.beside last stop _ _ _)
  · simpa only [ensures_bind] using as_read first _ _ _

/-- The tree of an entry of an export list. -/
def Entry.spec (source : Option String) (e : Entry) : Node :=
  .mk (.exportSpec ((e.other.map Prod.fst).getD e.name) e.typeOnly)
    ⟨e.span.start, match e.other with
      | some (_, _, s) => s.stop
      | none => e.span.stop⟩
    [.mk (if source.isSome then .word e.name else if e.isText then .text e.name
      else .use e.name false) e.span []]

theorem Entry.Read.spec {e : Entry} (h : e.Read text c d) (source : Option String) :
    Tree text c (e.spec source) d := by
  obtain ⟨name, isText, span, other, typeOnly⟩ := e
  have inner : Tree text c (.mk (if source.isSome then .word name else if isText then .text name
      else .use name false) span []) d := by
    split
    · exact h.name.tree
    · split
      · exact h.name.tree
      · exact h.name.use
  -- The tree ends with the last of the names.
  cases other with
  | none => exact inner.around
  | some o =>
    obtain ⟨spans, le⟩ := h.other o rfl
    exact inner.around.upTo rfl spans.placed.cuts_stop le spans.stop_le

theorem importEntry_tree (v : c.Valid text) (allTypes : Bool) :
    Ensures (importEntry allTypes) s c fun n d => Tree text c n d ∧ n.kind ≠ .importAlias := by
  simp -zeta only [importEntry, ensures_run, ensures_look]
  refine (entry_read v).mono fun e d read _ => ?_
  extract_lets bound
  have finish (r : String × Span) (spans : Spans text c r.2 d) :
      Ensures (bound r) s d fun n d => Tree text c n d ∧ n.kind ≠ .importAlias := by
    simp only [bound, ensures_run]
    exact fun _ => ⟨(spans.tree (k := .bind r.1 false)).takes.node, by simp⟩
  split
  · rename_i other _ _ given
    simp only [ensures_run]
    exact fun _ => finish _ (read.other _ given).1
  · simp only [ensures_run]
    exact fun _ => finish _ read.name

theorem wholeImport_tree (v : c.Valid text) (imported : Imported) {b : Cursor} (h : Reads text b [] c) :
    Ensures (wholeImport imported b.here.offset) s c fun n d =>
      Tree text b n d ∧ n.kind ≠ .importAlias ∧
        ∃ name, n.parts = [name] ∧ Tree text c name d := by
  simp only [wholeImport, ensures_run, ensures_look]
  refine (bindingName_takes v).mono fun name d read => ?_
  have bound := read.node (k := .bind name false)
  exact ⟨(h.tree bound).node, by simp, _, rfl, bound⟩

theorem importAlias_completes (v : c.Valid text) (start : Nat) (name : Node) :
    Ensures (importAlias start name) s c (Completes text .importAlias start [name] c) := by
  simp only [importAlias, ensures_run, ensures_look]
  intro equals
  have h := v.reads.eaten equals
  refine ensures_ite (fun _ => ?_) fun _ => ?_
  · simp only [ensures_run]
    intro first second
    have h := h.append ((h.valid.reads.next first).next second)
    refine (moduleText_takes h.valid).mono fun _ d read closed => ?_
    have h := (h.append read.toReads).toReads.eaten closed
    exact (semicolon_reads h.valid).mono fun _ e ended => ⟨[], h.skip ended, rfl⟩
  · simp only [ensures_run]
    refine (entityName_tree h.valid).mono fun n d read => ?_
    have h := h.toReads.tree read
    exact (semicolon_reads h.valid).mono fun _ e ended => ⟨[n], h.skip ended, rfl⟩

-- What an import takes of a module: a list of names, or all under one.
theorem importList_takes (v : c.Valid text) (allTypes : Bool) : Ensures (do
    let s ← here
    if ← eat "*" then
      expectWord "as"
      return [← wholeImport .namespace s]
    else
      expect "\x7b"
      listUntil "\x7d" (importEntry allTypes)) s c fun ns d =>
    Takes text c ns d ∧ ∀ n ∈ ns, n.kind ≠ .importAlias := by
  simp only [ensures_run, ensures_look]
  refine ensures_ifEat (fun star => ?_) ?_
  · simp only [ensures_run]
    intro word
    have h := ((v.reads.eaten star).toReads.eaten word).toReads
    refine (wholeImport_tree h.valid _ h).mono ?_
    rintro n d ⟨tree, kind, -⟩
    exact ⟨tree.takes, by simpa using kind⟩
  · simp only [ensures_run]
    intro opened
    have h := v.reads.eaten opened
    refine (listUntil_reads (fun c v => importEntry_tree v allTypes) h.valid).mono ?_
    rintro ns _ ⟨kinds, d, read, closed, rfl⟩
    exact ⟨by simpa using (h.append read).toReads.eaten closed, kinds⟩

include sound

theorem importOptions_reads (v : c.Valid text) :
    Ensures (importOptions self) s c (Reads text c) := by
  simp only [importOptions, ensures_run, ensures_look]
  refine ensures_ite (fun _ => ensures_pure.2 v.reads) fun _ => ?_
  simp only [ensures_run, ensures_look]
  refine ensures_ite (fun _ => ?_) fun _ => ensures_pure.2 v.reads
  simp only [ensures_run]
  intro valid
  have h := v.reads.next valid
  exact (objectLiteral_tree sound h.valid).mono fun n d tree => (h.tree tree).toReads

omit sound in
/-- The parts of an import: an alias, which is a tree of its own, or what it takes of a module. -/
def ImportRead (text : List Char) (c : Cursor) (ns : List Node) (d : Cursor) : Prop :=
  (∃ span ps, ns = [.mk .importAlias span ps] ∧ Item text c (.mk .importAlias span ps) d) ∨
    (∀ n ∈ ns, n.kind ≠ .importAlias) ∧ Takes text c ns d

omit sound in
theorem importParts_read (h : Takes text c [] d) : Ensures (importParts c.here.offset) s d
    fun r e => ImportRead text c r.1 e := by
  simp -zeta only [importParts]
  extract_lets rest afterWords
  have list (s : Setting) (allTypes : Bool) (e : Cursor) (k : Reads text d [] e) :
      Ensures (rest allTypes) s e fun ns f => Takes text c ns f ∧ ∀ n ∈ ns, n.kind ≠ .importAlias := by
    refine (importList_takes k.valid allTypes).mono ?_
    rintro ns f ⟨taken, kinds⟩
    exact ⟨(h.append k).toReads.take taken, kinds⟩
  have listed (s : Setting) (allTypes allTypes' : Bool) (e : Cursor) (k : Reads text d [] e) :
      Ensures (rest allTypes) s e fun ns f =>
        Ensures (pure (ns, allTypes')) s f fun r e => ImportRead text c r.1 e :=
    (list s allTypes e k).mono fun ns f read => ensures_pure.2 (Or.inr ⟨read.2, read.1⟩)
  have finish (allTypes : Bool) (e : Cursor) (k : Reads text d [] e) :
      Ensures (afterWords allTypes) s e fun r e => ImportRead text c r.1 e := by
    simp -zeta only [afterWords, ensures_bind, ensures_look]
    refine ensures_ite (fun _ => ?_) fun _ => ?_
    · simpa only [ensures_bind] using listed s allTypes allTypes e k
    simp -zeta only [ensures_bind, ensures_lookahead]
    extract_lets afterPhase
    refine ensures_perhaps (Reads text d []) (fun _ => ensures_advance.2 fun valid => k.next valid)
      (fun _ => k) fun f k => ?_
    simp only [afterPhase, ensures_bind, ensures_look]
    refine ensures_ite (fun _ => ?_) fun _ => ?_
    · simpa only [ensures_bind] using listed s allTypes allTypes f k
    simp only [ensures_bind, ensures_look]
    refine (wholeImport_tree k.valid _ k.valid.reads).mono ?_
    rintro ⟨kind, span, parts⟩ g ⟨tree, other, name, rfl, bound⟩
    refine ensures_ite (fun _ => ?_) fun _ => ?_
    · simp only [ensures_bind]
      have k := (h.append k).toReads.tree bound
      refine (importAlias_completes k.valid _ _).mono ?_
      rintro _ i ⟨more, taken, rfl⟩
      refine ensures_pure.2 (Or.inl ⟨_, _, rfl, ?_⟩)
      exact (k.toReads.take taken).item
    · simp only [ensures_bind]
      have k := (h.append k).toReads.tree tree
      refine ensures_ifEat (fun comma => ?_) ?_
      · simp only [ensures_bind]
        have passed := k.toReads.eaten comma
        refine (importList_takes passed.valid _).mono ?_
        rintro ns i ⟨taken, kinds⟩
        exact ensures_pure.2 (Or.inr ⟨by simpa using ⟨other, kinds⟩, passed.append taken.toReads⟩)
      · exact ensures_pure.2 (Or.inr ⟨by simpa using other, k⟩)
  simp only [ensures_bind, ensures_look]
  refine ensures_ite (fun _ => ?_) fun _ => ?_
  · simp only [ensures_bind, ensures_look]
    refine ensures_ite (fun _ => ?_) fun _ => ?_
    · simp only [ensures_bind, ensures_lookahead]
      refine ensures_ite (fun _ => ?_) fun _ => ?_
      · simp only [ensures_run]
        exact fun valid => finish true _ (h.valid.reads.next valid)
      · simp only [ensures_run]
        exact finish false d h.valid.reads
    · simp only [ensures_run]
      exact finish false d h.valid.reads
  · simpa only [ensures_bind] using listed s false false d h.valid.reads

theorem importItem_item (v : c.Valid text) : Ensures (importItem self) s c (Item text c) := by
  simp only [importItem, ensures_run, ensures_look]
  intro word
  have h := v.reads.eaten word
  split
  · simp only [ensures_run]
    intro valid
    have h := h.append (h.valid.reads.next valid)
    refine (importOptions_reads sound h.valid).mono fun options d read => ?_
    have h := h.append read
    exact (eat_reads h.valid _).mono fun _ e ended => (h.skip ended.1).item
  · simp only [ensures_run]
    refine (importParts_read h).mono ?_
    rintro ⟨parts, allTypes⟩ d read
    split
    · rename_i span ps same
      obtain rfl : parts = [.mk .importAlias span ps] := same
      rcases read with ⟨_, _, alone, item⟩ | ⟨kinds, -⟩
      · rw [(List.cons.inj alone).1]
        exact ensures_pure.2 item
      · exact absurd rfl (kinds (.mk .importAlias span ps) (by simp))
    · rename_i others
      rcases read with ⟨span, ps, alone, -⟩ | ⟨-, taken⟩
      · exact absurd alone (others span ps)
      · simp only [ensures_run]
        intro word
        have h := taken.toReads.eaten word
        refine (moduleText_takes h.valid).mono fun _ e read => ?_
        have h := h.append read.toReads
        refine (importOptions_reads sound h.valid).mono fun options f read => ?_
        have h := h.append read
        exact (semicolon_reads h.valid).mono fun _ g ended => by simpa using (h.skip ended).item

omit sound in
theorem importExpressionAhead_stays : Ensures importExpressionAhead s c fun _ d => d = c := by
  simp only [importExpressionAhead, ensures_run, ensures_look]

/-! ### Exports -/

theorem fromModule_takes (v : c.Valid text) :
    Ensures (fromModule self) s c fun _ => Takes text c [] := by
  simp only [fromModule, ensures_run]
  intro word
  have h := v.reads.eaten word
  refine (moduleText_takes h.valid).mono fun _ d read => ?_
  have h := h.append read.toReads
  refine (importOptions_reads sound h.valid).mono fun options e read => ?_
  have h := h.skip read.drop
  exact (semicolon_reads h.valid).mono fun _ f ended => h.skip ended

theorem exportAll_completes (v : c.Valid text) (start : Nat) :
    Ensures (exportAll self start) s c (Completes text .exportAll start [] c) := by
  simp -zeta only [exportAll, ensures_run]
  intro star
  have h := v.reads.eaten star
  extract_lets source
  have finish (d : Cursor) (h : Takes text c [] d) :
      Ensures (source ()) s d (Completes text .exportAll start [] c) := by
    simp only [source, ensures_run]
    exact (fromModule_takes sound h.valid).mono fun _ e read => ⟨[], h.append read.toReads, rfl⟩
  refine ensures_ifEatWord (fun word => ?_) (finish _ h)
  have h := h.toReads.eaten word
  simp only [ensures_run]
  exact (exportName_takes h.valid).mono fun _ d read => finish d (h.append read.toReads)

theorem exportList_completes (v : c.Valid text) (start : Nat) (allTypes : Bool) :
    Ensures (exportList self start allTypes) s c fun n d => ∃ source,
      Completes text (.exportList source allTypes) start [] c n d := by
  simp -zeta only [exportList, ensures_run]
  intro opened
  have h := (v.reads.eaten opened).toReads
  -- Of what module the names are is only known after the last of them.
  refine (ensures_rounds (a := []) (I := fun (es : List Entry) d =>
    ∀ source, Reads text c (es.map (Entry.spec source)).reverse d) (fun _ => h) ?_).mono ?_
  · intro es d read
    simp only [ensures_run, ensures_look]
    refine ensures_ite (fun _ => ensures_pure.2 read) fun _ => ?_
    simp only [ensures_run]
    refine (entry_read (read none).valid).mono fun e f given _ => ?_
    have read (source : Option String) := (read source).cons (given.spec source)
    refine ensures_ifEat (fun comma => ?_) (ensures_pure.2 read)
    exact ensures_pure.2 fun source => ((read source).eaten comma).toReads
  intro es d read closed
  extract_lets entries list
  have finish (source : Option String) (e : Cursor) (h : Reads text (.at d.next) [] e) :
      Ensures (list source) s e fun n f => ∃ source,
        Completes text (.exportList source allTypes) start [] c n f := by
    refine ensures_node.2 ⟨source, (es.map (Entry.spec source)).reverse, ?_, ?_⟩
    · exact ((read source).eaten closed).skip h
    · simp only [entries, ← List.map_reverse]
      rfl
  simp only [ensures_run, ensures_look]
  have v := ((read none).eaten closed).valid
  refine ensures_ite (fun _ => ?_) fun _ => ?_
  · simp only [ensures_run]
    exact (fromModule_takes sound v).mono fun name e read => finish (some name) e read.toReads
  · simp only [ensures_run]
    exact fun _ => (semicolon_reads v).mono fun _ e ended => finish none e ended

omit sound in
-- What is exported is in the tree of the export, which may begin behind decorators.
theorem exported_item {b : Cursor} {k : Kind} {n : Node} (before : Reads text b ds c)
    (whole : Takes text c [] d) (decorated : k.isDecorated = true) (item : Item text b n d) :
    Item text b (.mk k ⟨c.here.offset, d.lastStop⟩ [n]) d := by
  refine item.takes.itemFrom decorated whole.start.stands.here.cut before.here whole.lt
    whole.begins fun m head => ?_
  obtain rfl : n = m := by simpa using head
  exact Or.inr item.begins

theorem exportDefault_item {b : Cursor} (before : Reads text b ds c)
    (begins : ∀ n ∈ ds, Begins text n.front) (h : Takes text c [] d) :
    Ensures (exportDefault self c.here.offset ds) s d (Item text b) := by
  simp -zeta only [exportDefault, ensures_run, ensures_look]
  intro word
  have h := h.toReads.eaten word
  refine (decorators_reads sound h.valid).mono ?_
  rintro more e ⟨read, begins'⟩
  extract_lets all
  have decorated : Reads text b all e := (before.skip h.toReads).append read
  have allBegin : ∀ n ∈ all, Begins text n.front := List.forall_mem_append.2 ⟨begins, begins'⟩
  have h := h.skip read.drop
  -- A declaration is exported with the decorators that it takes up.
  have declared (n : Node) (f : Cursor) (given : Declared text e.here.offset all e n f) :
      Item text b (.mk .exportDefault ⟨c.here.offset, f.lastStop⟩ [n]) f :=
    exported_item before (h.skip given.reads) rfl (given.item decorated allBegin (Or.inr rfl))
  have v := read.valid
  simp only [ensures_bind]
  refine (functionDecl?_declared sound v false).mono ?_
  rintro o f ⟨some, none⟩
  cases o with
  | some n => exact ensures_node.2 (declared n f (v.reads.declared (some n rfl)))
  | none =>
    obtain rfl := none rfl
    simp only [ensures_run]
    refine ensures_ifEatWord (fun word => ?_) ?_
    · have k := (v.reads.eaten word).toReads
      simp only [ensures_run]
      exact (classTail_completes sound k.valid _ _ _ _).mono fun n f rest =>
        declared n f (k.declaredClass rest)
    simp only [ensures_run, ensures_look]
    refine ensures_ite (fun _ => ?_) fun _ => ?_
    · simp only [ensures_run]
      intro first second
      have k := (v.reads.next first).next second
      exact (classTail_completes sound k.valid _ _ _ _).mono fun n f rest =>
        declared n f (k.declaredClass rest)
    simp only [ensures_run, ensures_look]
    refine nameOnLine_stays.mono ?_
    rintro named e rfl
    refine ensures_ite (fun _ => ?_) fun _ => ?_
    · simp only [ensures_run]
      intro valid
      have k := v.reads.next valid
      exact (interfaceDecl_completes sound k.valid _).mono fun n f rest =>
        declared n f (k.declared rest)
    · simp only [enclosed, ensures_run]
      intro _
      refine (sound .assignment _ _ v).mono fun n f tree => ?_
      have h := h.toReads.tree tree
      exact (semicolon_reads h.valid).mono fun _ g ended => (h.skip ended).item.after before.drop

theorem typedExport?_item (h : Takes text c [] d) :
    Ensures (typedExport? self c.here.offset) s d (May (Item text c) d) := by
  simp only [typedExport?, enclosed, ensures_run, ensures_look]
  refine ensures_ite (fun _ => may_none) fun _ => ?_
  simp only [ensures_run]
  refine ensures_ifEat (fun equals => ?_) ?_
  · have h := h.toReads.eaten equals
    simp only [ensures_run]
    refine (sound .expression _ _ h.valid).mono fun e f read => ?_
    have h := h.toReads.tree read
    exact (semicolon_reads h.valid).mono fun _ g ended => may_some (h.skip ended).item
  simp only [ensures_run, ensures_look]
  refine ensures_ite (fun _ => ?_) fun _ => ?_
  · simp only [ensures_run]
    intro first second
    have h := h.append ((h.valid.reads.next first).next second)
    refine (plainName_takes h.valid).mono fun _ e read => ?_
    have h := h.append read.toReads
    exact (semicolon_reads h.valid).mono fun _ f ended => may_some (h.skip ended).item
  simp -zeta only [ensures_run, ensures_look]
  refine ensures_ite (fun _ => ?_) fun _ => ?_
  · simp -zeta only [ensures_run]
    intro valid
    have k := h.valid.reads.next valid
    refine ensures_perhaps (Reads text d []) (fun _ => ensures_advance.2 fun valid => k.next valid)
      (fun _ => k) fun e k => ?_
    have h := h.append k
    simp only [ensures_run, ensures_look]
    refine (bindingName_takes h.valid).mono fun name f read => ?_
    have h := h.toReads.tree (read.node (k := .bind name false))
    exact (importAlias_completes h.valid _ _).mono fun n g rest =>
      may_some (h.toReads.completeItem rest)
  simp only [ensures_run, ensures_look]
  refine ensures_ite (fun _ => ?_) fun _ => ?_
  · simp only [ensures_run]
    intro valid
    have h := h.append (h.valid.reads.next valid)
    refine (exportList_completes sound h.valid _ _).mono ?_
    rintro n e ⟨source, rest⟩
    exact may_some (h.toReads.completeItem rest)
  simp only [ensures_run, ensures_look]
  refine ensures_ite (fun _ => ?_) fun _ => may_none
  simp only [ensures_run]
  intro valid
  have h := h.append (h.valid.reads.next valid)
  exact (exportAll_completes sound h.valid _).mono fun n e rest =>
    may_some (h.toReads.completeItem rest)

theorem exportItem_item {b : Cursor} (before : Reads text b ds c)
    (begins : ∀ n ∈ ds, Begins text n.front) :
    Ensures (exportItem self ds) s c (Item text b) := by
  have v := before.valid
  simp only [exportItem, ensures_run, ensures_look]
  intro word
  have h := v.reads.eaten word
  refine ensures_ite (fun _ => ?_) fun _ => ?_
  · exact (exportAll_completes sound h.valid _).mono fun n d rest =>
      (h.toReads.completeItem rest).after before.drop
  simp only [ensures_run, ensures_look]
  refine ensures_ite (fun _ => ?_) fun _ => ?_
  · refine (exportList_completes sound h.valid _ _).mono ?_
    rintro n d ⟨source, rest⟩
    exact (h.toReads.completeItem rest).after before.drop
  simp only [ensures_run, ensures_look]
  refine ensures_ite (fun _ => exportDefault_item sound before begins h) fun _ => ?_
  simp only [ensures_run]
  refine (typedExport?_item sound h).mono ?_
  rintro o d ⟨some, none⟩
  cases o with
  | some n => exact ensures_pure.2 ((some n rfl).after before.drop)
  | none =>
    obtain rfl := none rfl
    simp only [ensures_run, ensures_look]
    refine (decorators_reads sound h.valid).mono ?_
    rintro more e ⟨read, begins'⟩
    refine (declaration?_declared sound read.valid _ _).mono ?_
    rintro o f ⟨some, -⟩
    split
    · rename_i n
      simp only [ensures_run]
      intro _
      have decorated := (before.skip h.toReads).append read
      have allBegin := List.forall_mem_append.2 ⟨begins, begins'⟩
      rcases some n rfl with declared | declared <;>
        exact exported_item before ((h.skip read.drop).skip declared.reads) rfl
          (declared.item decorated allBegin (Or.inr rfl))
    · exact ensures_fail.2 trivial

theorem moduleItem_item (v : c.Valid text) : Ensures (moduleItem self) s c (Item text c) := by
  simp only [moduleItem, ensures_run, ensures_look]
  refine ensures_ite (fun _ => exportItem_item sound v.reads (by simp)) fun _ => ?_
  simp only [ensures_run, ensures_look]
  refine importExpressionAhead_stays.mono ?_
  rintro ahead c rfl
  refine ensures_ite (fun _ => importItem_item sound v) fun _ => ?_
  simp only [ensures_run, ensures_look]
  refine ensures_ite (fun _ => ?_) fun _ => item_item sound v
  simp only [ensures_run]
  split
  · simp only [ensures_run]
    refine (decorators_reads sound v).mono ?_
    rintro ds d ⟨before, begins⟩
    exact exportItem_item sound before begins
  · exact item_item sound v

end Parse

end ServerLink.Script
