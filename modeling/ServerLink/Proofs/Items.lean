import ServerLink.Proofs.Rows

/-!
The edits of a whole module in the order of its text: those of its items, with the imports that
are taken out, and the registration behind all of them.
-/

set_option autoImplicit false

namespace ServerLink

open Script Text

namespace Rewriting

/-! ### Nothing to do -/

theorem export?_eq_none {is : Imports} {library : String} (absent : is.importsFrom library = false)
    (e : Node) : is.export? library e = none := by
  have foreign (name : String) : is.value? library name = none := by
    simp only [Imports.value?, Option.filter_eq_none_iff, Imports.find?]
    intro b found
    have member := List.mem_of_find?_eq_some found
    simp only [Imports.importsFrom, List.any_eq_false] at absent
    have := absent b member
    simp_all
  unfold Imports.export?
  split <;> simp [foreign]

-- Where nothing may have to be changed all calls are kept.
theorem planCall_eq_keep (r : Rewriting) (idle : r.isNeeded = false) (start : Nat) (callee : Node)
    (args : List Node) : r.planCall start callee args = .keep := by
  simp only [isNeeded, Bool.or_eq_false_iff, Bool.and_eq_false_iff, Bool.not_eq_false'] at idle
  obtain ⟨⟨sites, stubs⟩, helpers⟩ := idle
  have stubless : r.stubs.lookup start = none := by
    simp [List.isEmpty_iff.1 stubs]
  have uncalled : (if r.passes.callSites then r.imported.calledBy? callee else none) = none := by
    rcases sites with off | empty
    · simp [off]
    · have entries : r.imported.entries = [] := List.isEmpty_iff.1 empty
      have missing (key name : String) : r.imported.find? key name = none := by
        simp [ImportedFunctions.find?, entries]
      have unknown : r.imported.calledBy? callee = none := by
        unfold ImportedFunctions.calledBy?
        split <;> simp [missing]
      simp [unknown]
  have codeless : r.passes.inlineHelpers = true → r.helperCode? callee args.length = none := by
    intro inline
    rcases helpers with off | absent
    · simp [off] at inline
    · simp [helperCode?, export?_eq_none absent]
  simp only [planCall, stubless, uncalled]
  by_cases inline : r.passes.inlineHelpers = true
  · simp [codeless inline]
  · simp [inline]

theorem ordered_eq_nil (r : Rewriting) (idle : ∀ n, r.plan n = .keep) (n : Node) :
    r.ordered n = [] := by
  induction n using Node.induct with
  | step k span ps ih =>
    have inner (stands : Kind → Bool) : ∀ qs, (∀ q ∈ qs, r.ordered q = []) →
        r.orderedParts stands qs = [] := by
      intro qs each
      induction qs with
      | nil => rfl
      | cons q qs more =>
        simp [orderedParts, each q (by simp),
          more fun p member => each p (List.mem_cons_of_mem _ member)]
    simp [ordered, idle, leadEdits, trailEdits, inner _ ps ih]

theorem plan_eq_keep_of_idle (r : Rewriting) (idle : r.isNeeded = false) (n : Node) :
    r.plan n = .keep := by
  unfold plan
  split
  · exact r.planCall_eq_keep idle _ _ _
  · rfl

/-! ### Items and imports -/

/-- The item is an import that the rewriting takes out. -/
def isExcised (r : Rewriting) (item : Node) : Bool :=
  r.isNeeded && (r.passes.inlineHelpers || !r.stubs.isEmpty) && r.isDead r.allUses item

theorem isImport_of_isDead {r : Rewriting} {uses : List String} {item : Node}
    (dead : r.isDead uses item = true) : isImport item.kind = true := by
  unfold isDead at dead
  split at dead
  · rename_i source typeOnly kind
    rw [kind]
    rfl
  · simp at dead

theorem edits_eq_nil {r : Rewriting} {item : Node} (goes : isImport item.kind = true) :
    r.edits item = [] := by
  obtain ⟨k, span, ps⟩ := item
  simp only [Node.kind_mk] at goes
  simp [edits, goes]

/-- The removal of an import with the line feed right behind it. -/
def importRemoval (r : Rewriting) (item : Node) : Edit :=
  .removal (importRange r.module.text item).1 (importRange r.module.text item).2

/-- The edits of an item in the order of the text. -/
def itemEdits (r : Rewriting) (item : Node) : List Edit :=
  if r.isExcised item then [r.importRemoval item] else r.ordered item

/-- The edits of all items in the order of the text. -/
def inOrder (r : Rewriting) : List Edit := r.module.items.flatMap r.itemEdits

theorem partEdits_append_removals_perm (r : Rewriting) {gone : Node → Bool}
    (silent : ∀ item, gone item = true → r.edits item = []) (items : List Node) :
    (r.partEdits (fun _ => true) items ++ (items.filter gone).map r.importRemoval).Perm
      (items.flatMap fun item => if gone item then [r.importRemoval item] else r.ordered item) := by
  induction items with
  | nil => exact List.Perm.refl _
  | cons item items ih =>
    by_cases goes : gone item = true
    · simp only [partEdits, if_true, silent item goes, List.nil_append, List.filter_cons, goes,
        List.map_cons, List.flatMap_cons, List.cons_append]
      exact List.perm_middle.trans (ih.cons _)
    · simp only [partEdits, if_true, List.filter_cons, goes, List.flatMap_cons, if_false,
        Bool.false_eq_true, List.append_assoc]
      exact (r.edits_perm item).append ih

-- Putting all edits of a module in order loses none and adds none.
theorem allEdits_perm (r : Rewriting) : r.allEdits.Perm r.inOrder := by
  by_cases needed : r.isNeeded = true
  · have silent : ∀ item, r.isExcised item = true → r.edits item = [] := by
      intro item gone
      simp only [isExcised, Bool.and_eq_true] at gone
      exact edits_eq_nil (isImport_of_isDead gone.2)
    have same : (if r.passes.inlineHelpers || !r.stubs.isEmpty then r.importRemovals else []) =
        (r.module.items.filter r.isExcised).map r.importRemoval := by
      by_cases active : (r.passes.inlineHelpers || !r.stubs.isEmpty) = true
      · have dead : r.isExcised = r.isDead r.allUses := by
          funext item
          simp [isExcised, needed, active]
        simp only [active, if_true, importRemovals, dead]
        rfl
      · have none : ∀ item, r.isExcised item = false := by
          intro item
          simp [isExcised, active]
        simp [active, none]
    simp only [allEdits, needed, if_true, same]
    exact r.partEdits_append_removals_perm silent r.module.items
  · have idle : r.isNeeded = false := by simpa using needed
    have none : r.inOrder = [] := by
      simp only [inOrder, List.flatMap_eq_nil_iff]
      intro item member
      simp [itemEdits, isExcised, idle, r.ordered_eq_nil (r.plan_eq_keep_of_idle idle)]
    simp [allEdits, idle, none]

-- An import is taken out up to the beginning of what follows it.
theorem importRange_stop {text : List Char} {item : Node} (cut : IsBoundary text item.stop) :
    item.stop ≤ (importRange text item).2 ∧ IsBoundary text (importRange text item).2 ∧
      ∀ n, item.stop ≤ n → IsBoundary text n → (textFrom text n).head? ≠ some '\n' →
        (textFrom text n).head? ≠ some '\r' → (importRange text item).2 ≤ n := by
  obtain ⟨before, after, rfl, here⟩ := cut
  have width : ('\n' : Char).utf8Size = 1 ∧ ('\r' : Char).utf8Size = 1 := by decide
  have ends : (∃ cs, after = '\r' :: '\n' :: cs ∧
        (importRange (before ++ after) item).2 = item.stop + 2) ∨
      (∃ cs, after = '\n' :: cs ∧ (importRange (before ++ after) item).2 = item.stop + 1) ∨
      (importRange (before ++ after) item).2 = item.stop := by
    have rest : ((splitAt? (before ++ after) item.stop).map Prod.snd).getD [] = after := by
      simp [← here, splitAt?_byteLength]
    simp only [importRange, rest]
    split
    · exact Or.inl ⟨_, rfl, rfl⟩
    · exact Or.inr (Or.inl ⟨_, rfl, rfl⟩)
    · exact Or.inr (Or.inr rfl)
  rcases ends with ⟨cs, rfl, stop⟩ | ⟨cs, rfl, stop⟩ | stop
  · refine ⟨by omega, ⟨before ++ ['\r', '\n'], cs, by simp, by simp [here, stop, width]⟩, ?_⟩
    intro n later place noFeed noReturn
    have first := place.past (by omega) noReturn
    have split : before ++ '\r' :: '\n' :: cs = (before ++ ['\r']) ++ '\n' :: cs := by simp
    rw [split] at place noFeed
    have second := place.past first noFeed
    simp [width] at second
    omega
  · refine ⟨by omega, ⟨before ++ ['\n'], cs, by simp, by simp [here, stop, width]⟩, ?_⟩
    intro n later place noFeed noReturn
    have first := place.past (by omega) noFeed
    simp [width] at first
    omega
  · rw [stop]
    exact ⟨Nat.le_refl _, ⟨before, after, rfl, here⟩, fun n later _ _ _ => later⟩

-- What follows an import stands behind what is taken out with it.
theorem importRange_before_rest {text : List Char} {lo hi : Nat} {item : Node} {items : List Node}
    (h : ItemsPlaced text lo hi (item :: items)) :
    ItemsPlaced text (importRange text item).2 hi items := by
  obtain ⟨-, here, -, rest⟩ := h.placed
  obtain ⟨-, -, next⟩ := @importRange_stop _ item here.cuts_stop
  refine ⟨?_, h.tail.begins⟩
  cases items with
  | nil => trivial
  | cons i is =>
    obtain ⟨follows, placed, more⟩ := rest
    have start := h.tail.begins i (by simp)
    exact ⟨next i.front follows placed.cuts_front start.1 start.2, placed, more⟩

theorem importRemoval_row (r : Rewriting) {lo hi : Nat} {item : Node} {items : List Node}
    (h : ItemsPlaced r.module.text lo hi (item :: items)) :
    RowIn r.module.text lo (importRange r.module.text item).2 [r.importRemoval item] := by
  obtain ⟨first, here, -, -⟩ := h.placed
  obtain ⟨after, cut, -⟩ := @importRange_stop _ item here.cuts_stop
  exact .singleton (Nat.le_trans first item.front_le_start)
    (Nat.lt_of_lt_of_le here.solid after) (Nat.le_refl _) here.cuts_start cut

theorem importRange_le_size {text : List Char} {lo hi : Nat} {item : Node} {items : List Node}
    (h : ItemsPlaced text lo hi (item :: items)) :
    (importRange text item).2 ≤ byteLength text :=
  (@importRange_stop _ item h.placed.2.1.cuts_stop).2.1.le_byteLength

-- Items that stand in a row have edits in a row.
theorem itemEdits_row (r : Rewriting) {lo : Nat} {items : List Node} (le : lo ≤ r.module.size)
    (h : ItemsPlaced r.module.text lo r.module.size items) :
    RowIn r.module.text lo r.module.size (items.flatMap r.itemEdits) := by
  induction items generalizing lo with
  | nil => exact .nil le
  | cons item items ih =>
    obtain ⟨first, here, below, -⟩ := h.placed
    simp only [List.flatMap_cons, itemEdits]
    by_cases gone : r.isExcised item = true
    · simp only [gone, if_true]
      exact (r.importRemoval_row h).append
        (ih (importRange_le_size h) (importRange_before_rest h))
    · simp only [gone, if_false, Bool.false_eq_true]
      exact ((r.ordered_row item here).mono first (Nat.le_refl _)).append (ih below h.tail)

theorem inOrder_row (r : Rewriting) (placed : r.module.WellPlaced) :
    RowIn r.module.text 0 r.module.size r.inOrder :=
  r.itemEdits_row (Nat.zero_le _) placed

end Rewriting

/-! ### The edits of a module -/

theorem moduleEdits_cases (o : Options) (t : FileTree) (r : Registry) (side : Side) (m : Module)
    (own : FunctionMap) :
    moduleEdits o t r side m own = [⟨0, m.size, own.stubModule o.globals⟩] ∨
      ∃ imported, moduleEdits o t r side m own =
        (Rewriting.ofModule m o (o.passes side !own.isEmpty) own imported).allEdits ++
          (if (o.passes side !own.isEmpty).registration then own.registrationEdit o.globals m.size
            else []) := by
  simp only [moduleEdits]
  split
  · split
    · exact Or.inl rfl
    · exact Or.inr ⟨_, rfl⟩
  · split
    · exact Or.inl rfl
    · exact Or.inr ⟨_, rfl⟩

theorem registrationEdit_at_end {own : FunctionMap} {g : GlobalNames} {size : Nat}
    {registers : Bool} : ∀ e ∈ (if registers then own.registrationEdit g size else []),
      e.start = size ∧ e.stop = size := by
  intro e member
  cases registers with
  | false => simp at member
  | true =>
    simp only [if_true, FunctionMap.registrationEdit] at member
    split at member
    · simp at member
    · obtain rfl := List.mem_singleton.1 member
      exact ⟨rfl, rfl⟩

theorem registrationEdit_alone {own : FunctionMap} {g : GlobalNames} {size : Nat}
    {registers : Bool} {R : Edit → Edit → Prop} :
    (if registers then own.registrationEdit g size else []).Pairwise R := by
  cases registers with
  | false => simp
  | true =>
    simp only [if_true, FunctionMap.registrationEdit]
    split <;> simp

-- The edits of a module that stand in a row: what is put in at the end of the text comes last.
theorem Module.WellPlaced.moduleEdits_row {m : Module} (placed : m.WellPlaced) (o : Options)
    (t : FileTree) (r : Registry) (side : Side) (own : FunctionMap) :
    ∃ row, (moduleEdits o t r side m own).Perm row ∧ (∀ e ∈ row, e.Fits m.text) ∧
      row.Pairwise fun a b => a.start < b.start ∧ a.stop ≤ b.start := by
  rcases moduleEdits_cases o t r side m own with whole | ⟨imported, parts⟩
  · rw [whole]
    refine ⟨_, List.Perm.refl _, ?_, by simp⟩
    intro e member
    obtain rfl := List.mem_singleton.1 member
    exact ⟨Nat.zero_le _, isBoundary_zero _, isBoundary_byteLength _⟩
  · rw [parts]
    let rewriting := Rewriting.ofModule m o (o.passes side !own.isEmpty) own imported
    have inside : RowIn m.text 0 m.size rewriting.inOrder := rewriting.inOrder_row placed
    refine ⟨_, rewriting.allEdits_perm.append_right _, ?_, ?_⟩
    · intro e member
      rcases List.mem_append.1 member with rewritten | registered
      · exact inside.fits e rewritten
      · obtain ⟨start, stop⟩ := registrationEdit_at_end e registered
        have atEnd : IsBoundary m.text m.size := isBoundary_byteLength _
        exact ⟨by omega, start ▸ atEnd, stop ▸ atEnd⟩
    · refine List.pairwise_append.2 ⟨inside.row.ascending, registrationEdit_alone, ?_⟩
      intro a rewritten b registered
      have bounds := inside.row.bounds a rewritten
      have atEnd := registrationEdit_at_end b registered
      omega

end ServerLink
