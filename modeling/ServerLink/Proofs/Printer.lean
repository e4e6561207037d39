import ServerLink.Proofs.Items

/-!
Rewriting as printing. A module is printed anew in one pass from its first item to its last: text
is copied, and at each call the rule that applies to it says what is copied, what is left out and
what is put in. Carrying out the edits of a rewriting gives the same text.
-/

set_option autoImplicit false

namespace ServerLink

open Script Text

/-- The end of what a call calls, its type arguments included. -/
def Script.Node.headStop (call : Node) : Nat :=
  ((call.typeArgs?.or call.callee?).map Node.stop).getD call.start

namespace Rewriting

/-! ### The printer -/

mutual

/-- A tree printed from its front to its end. -/
def print (r : Rewriting) : Node → List Char
  | .mk k span ps =>
      let call := Node.mk k span ps
      if isImport k then slice r.module.text span.start span.stop
      else match r.plan call with
        | .keep => r.printParts (fun _ => true) call.front span.stop ps
        | .stub id =>
            -- the value of the argument is left out, and the dots of a spread stay
            let value? := call.args.head?.map Node.argValue
            let reached := (value?.map Node.start).getD span.stop
            (if r.passes.inlineHelpers then slice r.module.text call.headStop reached
              else r.printParts (· != .arguments) span.start reached ps)
              ++ match value? with
                | some value =>
                    (r.globals.stub id).toList ++ slice r.module.text value.stop span.stop
                | none => []
        | .dispatch id =>
            (r.globals.dispatchOpening id).toList
              ++ (match call.args.head?, call.args.getLast? with
                | some first, some last => r.printGiven first.start last.stop ps
                | _, _ => [])
              ++ GlobalNames.dispatchClosing.toList
        | .inlined code =>
            code.toList ++ r.printParts (· == .arguments) call.headStop span.stop ps

/-- The text between two offsets with the trees that stand in it printed; where a tree does not
stand the text is copied. -/
def printParts (r : Rewriting) (stands : Kind → Bool) (lo hi : Nat) : List Node → List Char
  | [] => slice r.module.text lo hi
  | p :: ps =>
      if stands p.kind then
        slice r.module.text lo p.front ++ r.print p ++ r.printParts stands p.stop hi ps
      else r.printParts stands lo hi ps

/-- The arguments of a call printed between two offsets. -/
def printGiven (r : Rewriting) (lo hi : Nat) : List Node → List Char
  | [] => []
  | .mk k _ as :: ps =>
      if k = .arguments then r.printParts (fun _ => true) lo hi as else r.printGiven lo hi ps

end

/-- The items of a module printed from an offset on, without the imports that are taken out. -/
def printItems (r : Rewriting) (lo : Nat) : List Node → List Char
  | [] => slice r.module.text lo r.module.size
  | item :: items =>
      if r.isExcised item then
        slice r.module.text lo item.start
          ++ r.printItems (importRange r.module.text item).2 items
      else slice r.module.text lo item.front ++ r.print item ++ r.printItems item.stop items

/-- The whole module printed anew. -/
def printed (r : Rewriting) : List Char := r.printItems 0 r.module.items

/-! ### Printing and splicing -/

theorem printParts_eq_of (r : Rewriting) (stands : Kind → Bool) {lo hi : Nat} {ps : List Node}
    (le : lo ≤ hi) (cutLo : IsBoundary r.module.text lo) (cutHi : IsBoundary r.module.text hi)
    (placed : PlacedFrom r.module.text lo hi ps)
    (each : ∀ p ∈ ps, p.Placed r.module.text →
      r.print p = splice r.module.text p.front p.stop (r.ordered p)) :
    r.printParts stands lo hi ps = splice r.module.text lo hi (r.orderedParts stands ps) := by
  induction ps generalizing lo with
  | nil => rfl
  | cons p ps ih =>
    obtain ⟨first, here, below, rest⟩ := placed
    have eachRest : ∀ q ∈ ps, q.Placed r.module.text →
        r.print q = splice r.module.text q.front q.stop (r.ordered q) :=
      fun q member => each q (List.mem_cons_of_mem _ member)
    simp only [printParts, orderedParts]
    by_cases stays : stands p.kind = true
    · have own := r.ordered_row p here
      have tail := r.orderedParts_row stands below rest
      have gap : slice r.module.text lo p.front
          ++ splice r.module.text p.front p.stop (r.ordered p) =
            splice r.module.text lo p.stop (r.ordered p) :=
        slice_append_splice cutLo here.cuts_front here.cuts_stop first own.row own.cuts
      have joined := splice_append cutLo here.cuts_stop cutHi
        (own.mono first (Nat.le_refl _)).row tail.row own.cuts tail.cuts
      rw [if_pos stays, if_pos stays, each p (by simp) here, gap,
        ih below here.cuts_stop rest eachRest, joined]
    · have further := Nat.le_trans first here.front_le_stop
      rw [if_neg stays, if_neg stays, List.nil_append]
      exact ih le cutLo (rest.mono further (Nat.le_refl _)) eachRest

section Calls

variable (r : Rewriting) {call callee args : Node} {types : Option Node}

theorem headStop_eq {text : List Char} (shape : call.CallPlaced text callee types args) :
    call.headStop = (types.getD callee).stop := by
  have called : call.callee? = some callee := by simp [Node.callee?, shape.parts]
  cases types <;> simp [Node.headStop, shape.typeArgs, called]

theorem printParts_congr {stands stands' : Kind → Bool} {lo hi : Nat} {ps : List Node}
    (same : ∀ p ∈ ps, stands p.kind = stands' p.kind) :
    r.printParts stands lo hi ps = r.printParts stands' lo hi ps := by
  induction ps generalizing lo with
  | nil => rfl
  | cons p ps ih =>
    have rest (lo : Nat) := @ih lo fun q member => same q (List.mem_cons_of_mem _ member)
    simp only [printParts, same p (by simp), rest]

theorem printParts_skip {stands : Kind → Bool} {lo hi : Nat} {ps qs : List Node}
    (none : ∀ p ∈ ps, stands p.kind = false) :
    r.printParts stands lo hi (ps ++ qs) = r.printParts stands lo hi qs := by
  induction ps with
  | nil => rfl
  | cons p ps ih =>
    simp [printParts, none p (by simp), ih fun q member => none q (List.mem_cons_of_mem _ member)]

theorem printParts_skip_last {stands : Kind → Bool} {lo hi : Nat} {ps : List Node} {q : Node}
    (none : stands q.kind = false) :
    r.printParts stands lo hi (ps ++ [q]) = r.printParts stands lo hi ps := by
  induction ps generalizing lo with
  | nil => simp [printParts, none]
  | cons p ps ih => simp [printParts, ih]

theorem printGiven_eq (shape : call.CallPlaced r.module.text callee types args) (lo hi : Nat) :
    r.printGiven lo hi call.parts = r.printParts (fun _ => true) lo hi args.parts := by
  have skip : ∀ ps qs : List Node, (∀ p ∈ ps, p.kind ≠ .arguments) →
      r.printGiven lo hi (ps ++ qs) = r.printGiven lo hi qs := by
    intro ps qs others
    induction ps with
    | nil => rfl
    | cons p ps ih =>
      obtain ⟨k, span, as⟩ := p
      have other : k ≠ .arguments := others (.mk k span as) (by simp)
      simp only [List.cons_append, printGiven, other, if_false]
      exact ih fun q member => others q (List.mem_cons_of_mem _ member)
  rw [shape.parts, ← List.cons_append, skip _ _ shape.heads]
  obtain ⟨k, span, as⟩ := args
  have given : k = .arguments := shape.given
  simp [printGiven, given]

/-- A tree printed is the tree with its edits spliced in. -/
def Prints (n : Node) : Prop :=
  n.Placed r.module.text → r.print n = splice r.module.text n.front n.stop (r.ordered n)

theorem printParts_head {lo hi : Nat} (shape : call.CallPlaced r.module.text callee types args) :
    r.printParts (· != .arguments) lo hi call.parts =
      r.printParts (fun _ => true) lo hi (callee :: types.toList) := by
  have heads : ∀ p ∈ callee :: types.toList, (p.kind != .arguments) = true :=
    fun p member => bne_iff_ne.2 (shape.heads p member)
  have skipped : (args.kind != .arguments) = false := by simp [shape.given]
  rw [shape.parts, ← List.cons_append, printParts_skip_last r skipped]
  exact r.printParts_congr heads

theorem printParts_arguments (shape : call.CallPlaced r.module.text callee types args)
    (lo hi : Nat) :
    r.printParts (· == .arguments) lo hi call.parts =
      r.printParts (· == .arguments) lo hi [args] := by
  have heads : ∀ p ∈ callee :: types.toList, (p.kind == .arguments) = false :=
    fun p member => beq_eq_false_iff_ne.2 (shape.heads p member)
  rw [shape.parts, ← List.cons_append, printParts_skip r heads]

-- What a call calls printed, where it stands.
theorem printParts_head_eq {hi : Nat} (shape : call.CallPlaced r.module.text callee types args)
    (standing : call.Placed r.module.text) (above : (types.getD callee).stop ≤ hi)
    (cut : IsBoundary r.module.text hi) (parts : ∀ q ∈ call.parts, r.Prints q) :
    r.printParts (· != .arguments) call.start hi call.parts =
      splice r.module.text call.start hi (r.orderedParts (· != .arguments) call.parts) := by
  have each : ∀ q ∈ callee :: types.toList, r.Prints q :=
    fun q member => parts q (shape.head_mem q member)
  have solid := shape.solid
  rw [printParts_head r shape, orderedParts_head r shape]
  exact r.printParts_eq_of _ (by omega) standing.cuts_start cut
    (shape.head.mono (Nat.le_refl _) above) each

-- What a stub keeps of what its call calls is the text with the edits of the front spliced in.
theorem print_stub_front (shape : call.CallPlaced r.module.text callee types args)
    (standing : call.Placed r.module.text) (id : String) (parts : ∀ q ∈ call.parts, r.Prints q)
    (hi : Nat) (above : (types.getD callee).stop ≤ hi) (cut : IsBoundary r.module.text hi) :
    (if r.passes.inlineHelpers then slice r.module.text call.headStop hi
      else r.printParts (· != .arguments) call.start hi call.parts) =
    splice r.module.text call.start hi
      (r.leadEdits call (.stub id) ++ r.orderedParts (r.survives (.stub id)) call.parts) := by
  by_cases inline : r.passes.inlineHelpers = true
  · have dropped : r.orderedParts (r.survives (.stub id)) call.parts = [] :=
      r.orderedParts_eq_nil (by simp [survives, inline])
    simp [leadEdits, inline, dropped, calleeEdit_eq shape, headStop_eq shape, splice]
  · have kept : r.survives (.stub id) = (· != .arguments) := by
      funext k
      simp [survives, inline]
    simp only [leadEdits, inline, kept, if_false, Bool.false_eq_true, List.nil_append]
    exact printParts_head_eq r shape standing above cut parts

-- A call printed is the call with its edits spliced in, if that holds of its parts.
theorem print_call {span : Span} {ps : List Node}
    (standing : (Node.mk .call span ps).Placed r.module.text)
    (changed : r.plan (.mk .call span ps) ≠ .keep)
    (shape : (Node.mk .call span ps).CallPlaced r.module.text callee types args)
    (parts : ∀ q ∈ ps, r.Prints q) (given : ∀ q ∈ args.parts, r.Prints q) :
    r.print (.mk .call span ps) =
      splice r.module.text span.start span.stop (r.ordered (.mk .call span ps)) := by
  have solid := shape.solid
  have behind := shape.behind
  have sound := shape.sound
  have inside := shape.inside
  have start : (Node.mk .call span ps).start = span.start := rfl
  have stop : (Node.mk .call span ps).stop = span.stop := rfl
  have cutStart : IsBoundary r.module.text span.start := standing.cuts_start
  have cutStop : IsBoundary r.module.text span.stop := standing.cuts_stop
  rw [start] at solid
  rw [stop] at inside
  cases p : r.plan (.mk .call span ps) with
  | keep => exact absurd p changed
  | stub id =>
    have front := print_stub_front r shape standing id parts
    have heads := r.orderedParts_row (fun _ => true) (Nat.le_of_lt shape.solid) shape.head
    have frontRow := stub_front_row r shape standing id heads
    simp only [print, ordered, isImport, p, Bool.false_eq_true, if_false, trailEdits, stubEdits,
      shape.arguments, start, Node.parts_mk] at front frontRow ⊢
    cases atHead : args.parts.head? with
    | none =>
      simp only [Option.map_none, Option.getD_none, List.append_nil]
      exact front _ (by omega) cutStop
    | some a =>
      obtain ⟨value, left, right⟩ := argument_placed shape (List.mem_of_head? atHead)
      have trail : RowIn r.module.text a.argValue.start span.stop
          [⟨a.argValue.start, a.argValue.stop, r.globals.stub id⟩] :=
        .singleton (Nat.le_refl _) value.solid (by simp only; omega) value.cuts_start value.cuts_stop
      have joined := splice_append cutStart value.cuts_start cutStop
        (frontRow.mono (Nat.le_refl _) (by omega)).row trail.row frontRow.cuts trail.cuts
      simp only [Option.map_some, Option.getD_some, joined]
      rw [front _ (by omega) value.cuts_start]
      simp [splice]
  | dispatch id =>
    have all : r.survives (.dispatch id) = (· == .arguments) := rfl
    have printed := printGiven_eq r shape
    have listed := orderedParts_arguments r shape
    simp only [Node.parts_mk] at printed listed
    simp only [print, ordered, isImport, p, Bool.false_eq_true, if_false, leadEdits, trailEdits,
      dispatchEdits, shape.arguments, all, listed, printed, start, stop]
    cases atHead : args.parts.head? with
    | none =>
      have empty : args.parts = [] := List.head?_eq_none_iff.1 atHead
      simp [empty, orderedParts, splice]
    | some first =>
      obtain ⟨last, atEnd, between, left, width, right, cutFirst, cutLast⟩ :=
        argument_range shape atHead
      have row := r.orderedParts_row (fun _ => true) width between
      have closing : RowIn r.module.text last.stop span.stop
          [⟨last.stop, span.stop, GlobalNames.dispatchClosing⟩] :=
        .singleton (Nat.le_refl _) (by simp only; omega) (Nat.le_refl _) cutLast cutStop
      have joined := splice_append cutFirst cutLast cutStop row.row closing.row row.cuts
        closing.cuts
      simp only [atEnd, List.take_succ_cons, List.take_zero, List.drop_succ_cons, List.drop_zero,
        List.cons_append, List.nil_append, splice, slice_self, joined, List.append_nil]
      rw [r.printParts_eq_of _ width cutFirst cutLast between given]
      simp
  | inlined code =>
    have all : r.survives (.inlined code) = (· == .arguments) := rfl
    have printed := printParts_arguments r shape
    have listed := orderedParts_arguments r shape
    simp only [Node.parts_mk] at printed listed
    have front : args.front = args.start := Node.front_eq_start (by simp [shape.given, Kind.isDecorated])
    have alone : PlacedFrom r.module.text (types.getD callee).stop span.stop [args] :=
      ⟨by omega, standing.parts.placed args shape.args_mem, inside, trivial⟩
    have each : ∀ q ∈ [args], r.Prints q := by
      intro q member
      obtain rfl := List.mem_singleton.1 member
      exact parts q shape.args_mem
    simp only [print, ordered, isImport, p, Bool.false_eq_true, if_false, leadEdits, trailEdits,
      calleeEdit_eq shape, headStop_eq shape, all, listed, printed, start, List.append_nil]
    rw [r.printParts_eq_of _ (by omega) shape.cut cutStop alone each]
    simp [splice, orderedParts, shape.given, r.ordered_arguments shape.given]

end Calls

-- A tree printed is the tree with its edits spliced in.
theorem prints (r : Rewriting) (n : Node) : r.Prints n := by
  induction n using Node.inductDeep with
  | step k span ps ih deep =>
    intro h
    by_cases imports : isImport k = true
    · have plain : (Node.mk k span ps).front = span.start := by
        refine Node.front_eq_start ?_
        cases k <;> simp_all [isImport, Kind.isDecorated]
      simp [print, ordered, imports, splice, plain, Node.stop]
    · by_cases changed : r.plan (.mk k span ps) = .keep
      · have all : r.survives .keep = fun _ => true := rfl
        simp only [print, ordered, imports, changed, leadEdits, trailEdits, all, List.nil_append,
          List.append_nil, if_false, Bool.false_eq_true]
        exact r.printParts_eq_of _ h.front_le_stop h.cuts_front h.cuts_stop h.parts ih
      · obtain rfl : k = .call := Decidable.byContradiction fun plain => changed (r.plan_eq_keep plain)
        obtain ⟨callee, types, args, shape⟩ := h.call
        have start : (Node.mk .call span ps).front = span.start := Node.front_eq_start rfl
        rw [start]
        exact r.print_call h changed shape ih (deep args shape.args_mem)

/-! ### The whole module -/

theorem printItems_eq (r : Rewriting) {lo : Nat} {items : List Node} (le : lo ≤ r.module.size)
    (cut : IsBoundary r.module.text lo)
    (h : ItemsPlaced r.module.text lo r.module.size items) :
    r.printItems lo items =
      splice r.module.text lo r.module.size (items.flatMap r.itemEdits) := by
  induction items generalizing lo with
  | nil => rfl
  | cons item items ih =>
    obtain ⟨first, here, below, -⟩ := h.placed
    have cutEnd : IsBoundary r.module.text r.module.size := isBoundary_byteLength _
    simp only [printItems, List.flatMap_cons, itemEdits]
    by_cases gone : r.isExcised item = true
    · have behind := importRange_before_rest h
      have within := importRange_le_size h
      obtain ⟨-, cutStop, -⟩ := @importRange_stop _ item here.cuts_stop
      simp only [gone, if_true]
      rw [ih within cutStop behind]
      simp [splice, importRemoval, Edit.removal, importRange]
    · have own := (r.ordered_row item here).mono first (Nat.le_refl _)
      have tail := r.itemEdits_row below h.tail
      have gap := slice_append_splice cut here.cuts_front here.cuts_stop first
        (r.ordered_row item here).row own.cuts
      have joined := splice_append cut here.cuts_stop cutEnd own.row tail.row own.cuts tail.cuts
      simp only [gone, if_false, Bool.false_eq_true]
      rw [ih below here.cuts_stop h.tail, r.prints item here, gap, joined]

-- The edits of a module carried out are the module printed anew.
theorem splice_inOrder (r : Rewriting) (placed : r.module.WellPlaced) :
    splice r.module.text 0 r.module.size r.inOrder = r.printed :=
  (r.printItems_eq (Nat.zero_le _) (isBoundary_zero _) placed).symm

-- The edits of a rewriting, in whatever order they were found, give the module printed anew.
theorem applyEdits_allEdits (r : Rewriting) (placed : r.module.WellPlaced)
    (name : Option String) :
    ∃ a, applyEdits r.module.text r.allEdits name = .ok a ∧
      a.code r.module.text = r.printed ∧ (a = .unchanged ↔ r.allEdits = []) := by
  have row := r.inOrder_row placed
  obtain ⟨a, carried, code, still⟩ :=
    applyEdits_of_row name row.row.ascending row.fits r.allEdits_perm
  exact ⟨a, carried, code.trans (r.splice_inOrder placed), still⟩

end Rewriting

end ServerLink
