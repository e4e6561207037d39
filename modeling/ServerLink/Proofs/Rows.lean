import ServerLink.Proofs.Placement
import ServerLink.Proofs.Splice
import ServerLink.Transform

/-!
The edits of a module in the order of its text. They are found from the outside in, those at both
ends of a call at once; in the order of the text they follow one another, however deep calls stand
in each other's arguments.
-/

set_option autoImplicit false

namespace ServerLink

open Script Text

namespace Rewriting

/-! ### The edits of a tree in order -/

/-- The edits of a plan that come before those of the parts. -/
def leadEdits (r : Rewriting) (call : Node) : CallPlan → List Edit
  | .keep => []
  | .stub _ => if r.passes.inlineHelpers then [calleeEdit call ""] else []
  | .dispatch id => (r.dispatchEdits call id).take 1
  | .inlined code => [calleeEdit call code]

/-- The edits of a plan that come after those of the parts. -/
def trailEdits (r : Rewriting) (call : Node) : CallPlan → List Edit
  | .stub id => r.stubEdits call id
  | .dispatch id => (r.dispatchEdits call id).drop 1
  | _ => []

theorem ownEdits_eq (r : Rewriting) (call : Node) (p : CallPlan) :
    r.ownEdits call p = r.leadEdits call p ++ r.trailEdits call p := by
  cases p with
  | dispatch id => exact (List.take_append_drop 1 (r.dispatchEdits call id)).symm
  | _ => simp [ownEdits, leadEdits, trailEdits]

mutual

/-- The edits of a tree in the order of the text. -/
def ordered (r : Rewriting) : Node → List Edit
  | .mk k span ps =>
      let p := r.plan (.mk k span ps)
      if isImport k then []
      else r.leadEdits (.mk k span ps) p ++ r.orderedParts (r.survives p) ps
        ++ r.trailEdits (.mk k span ps) p

def orderedParts (r : Rewriting) (stands : Kind → Bool) : List Node → List Edit
  | [] => []
  | p :: ps => (if stands p.kind then r.ordered p else []) ++ r.orderedParts stands ps

end

theorem partEdits_perm_of (r : Rewriting) (stands : Kind → Bool) {ps : List Node}
    (each : ∀ p ∈ ps, (r.edits p).Perm (r.ordered p)) :
    (r.partEdits stands ps).Perm (r.orderedParts stands ps) := by
  induction ps with
  | nil => exact List.Perm.refl _
  | cons p ps ih =>
    simp only [partEdits, orderedParts]
    refine List.Perm.append ?_ (ih fun q member => each q (List.mem_cons_of_mem _ member))
    split
    · exact each p (by simp)
    · exact List.Perm.refl _

-- Putting the edits in order loses none and adds none.
theorem edits_perm (r : Rewriting) (n : Node) : (r.edits n).Perm (r.ordered n) := by
  induction n using Node.induct with
  | step k span ps ih =>
    simp only [edits, ordered, ownEdits_eq]
    split
    · exact List.Perm.refl _
    · have inner := r.partEdits_perm_of (r.survives (r.plan (.mk k span ps))) ih
      rw [List.append_assoc, List.append_assoc]
      exact (List.perm_append_comm.trans (inner.append_right _)).append_left _

theorem orderedParts_append (r : Rewriting) (stands : Kind → Bool) (ps qs : List Node) :
    r.orderedParts stands (ps ++ qs) = r.orderedParts stands ps ++ r.orderedParts stands qs := by
  induction ps with
  | nil => rfl
  | cons p ps ih => simp [orderedParts, ih, List.append_assoc]

theorem orderedParts_eq_nil (r : Rewriting) {stands : Kind → Bool} {ps : List Node}
    (none : ∀ p ∈ ps, stands p.kind = false) : r.orderedParts stands ps = [] := by
  induction ps with
  | nil => rfl
  | cons p ps ih =>
    simp [orderedParts, none p (by simp), ih fun q member => none q (List.mem_cons_of_mem _ member)]

theorem orderedParts_congr (r : Rewriting) {stands stands' : Kind → Bool} {ps : List Node}
    (same : ∀ p ∈ ps, stands p.kind = stands' p.kind) :
    r.orderedParts stands ps = r.orderedParts stands' ps := by
  induction ps with
  | nil => rfl
  | cons p ps ih =>
    simp [orderedParts, same p (by simp), ih fun q member => same q (List.mem_cons_of_mem _ member)]

theorem mem_orderedParts (r : Rewriting) {stands : Kind → Bool} {ps : List Node} {p : Node}
    {e : Edit} (member : p ∈ ps) (stays : stands p.kind = true) (own : e ∈ r.ordered p) :
    e ∈ r.orderedParts stands ps := by
  induction ps with
  | nil => simp at member
  | cons q ps ih =>
    simp only [orderedParts, List.mem_append]
    rcases List.mem_cons.1 member with rfl | later
    · exact Or.inl (by simpa [stays] using own)
    · exact Or.inr (ih later)

theorem mem_of_orderedParts {r : Rewriting} {stands : Kind → Bool} {ps : List Node} {e : Edit}
    (edit : e ∈ r.orderedParts stands ps) : ∃ p ∈ ps, e ∈ r.ordered p := by
  induction ps with
  | nil => simp [orderedParts] at edit
  | cons p ps ih =>
    rw [orderedParts, List.mem_append] at edit
    rcases edit with own | later
    · split at own
      · exact ⟨p, by simp, own⟩
      · simp at own
    · obtain ⟨q, member, found⟩ := ih later
      exact ⟨q, List.mem_cons_of_mem _ member, found⟩

-- A list of arguments has no edits but those of the arguments.
theorem ordered_arguments (r : Rewriting) {args : Node} (given : args.kind = .arguments) :
    r.ordered args = r.orderedParts (fun _ => true) args.parts := by
  obtain ⟨k, span, ps⟩ := args
  simp only [Node.kind_mk] at given
  subst given
  have kept : r.plan (.mk .arguments span ps) = .keep := rfl
  have all : r.survives .keep = fun _ => true := rfl
  simp [ordered, isImport, kept, leadEdits, trailEdits, all]

end Rewriting

/-! ### Rows that cut their text -/

/-- Edits in a row between two offsets, none of which cuts a character. -/
structure RowIn (text : List Char) (lo hi : Nat) (es : List Edit) : Prop where
  row : EditsFrom lo hi es
  cuts : Cuts text es

namespace RowIn

variable {text : List Char} {lo mid hi : Nat} {xs ys : List Edit}

theorem nil (le : lo ≤ hi) : RowIn text lo hi [] := ⟨le, by simp [Cuts]⟩

theorem singleton {e : Edit} (left : lo ≤ e.start) (solid : e.start < e.stop) (right : e.stop ≤ hi)
    (cutStart : IsBoundary text e.start) (cutStop : IsBoundary text e.stop) :
    RowIn text lo hi [e] :=
  ⟨.singleton left solid right, by simp [Cuts, cutStart, cutStop]⟩

theorem append (left : RowIn text lo mid xs) (right : RowIn text mid hi ys) :
    RowIn text lo hi (xs ++ ys) := by
  refine ⟨left.row.append right.row, ?_⟩
  intro e member
  rcases List.mem_append.1 member with first | second
  · exact left.cuts e first
  · exact right.cuts e second

theorem mono {lo' hi' : Nat} (h : RowIn text lo hi xs) (left : lo' ≤ lo) (right : hi ≤ hi') :
    RowIn text lo' hi' xs := ⟨h.row.mono left right, h.cuts⟩

theorem fits (h : RowIn text lo hi xs) : ∀ e ∈ xs, e.Fits text := by
  intro e member
  have solid := (h.row.bounds e member).2.1
  exact ⟨by omega, h.cuts e member⟩

end RowIn

namespace Rewriting

variable {text : List Char}

theorem orderedParts_row_of (r : Rewriting) (stands : Kind → Bool) {lo hi : Nat} {ps : List Node}
    (le : lo ≤ hi) (placed : PlacedFrom text lo hi ps)
    (each : ∀ p ∈ ps, p.Placed text → RowIn text p.front p.stop (r.ordered p)) :
    RowIn text lo hi (r.orderedParts stands ps) := by
  induction ps generalizing lo with
  | nil => exact .nil le
  | cons p ps ih =>
    obtain ⟨first, here, below, rest⟩ := placed
    have tail := ih below rest fun q member => each q (List.mem_cons_of_mem _ member)
    have own : RowIn text lo p.stop (if stands p.kind then r.ordered p else []) := by
      split
      · exact (each p (by simp) here).mono first (Nat.le_refl _)
      · exact .nil (Nat.le_trans first here.front_le_stop)
    exact own.append tail

/-! ### Calls -/

section Calls

variable (r : Rewriting) {call callee args : Node} {types : Option Node}

theorem calleeEdit_eq (shape : call.CallPlaced text callee types args) (code : String) :
    calleeEdit call code = ⟨call.start, (types.getD callee).stop, code⟩ := by
  have called : call.callee? = some callee := by simp [Node.callee?, shape.parts]
  cases types <;> simp [calleeEdit, shape.typeArgs, called]

theorem orderedParts_head (shape : call.CallPlaced text callee types args) :
    r.orderedParts (· != .arguments) call.parts =
      r.orderedParts (fun _ => true) (callee :: types.toList) := by
  have heads : ∀ p ∈ callee :: types.toList, (p.kind != .arguments) = true :=
    fun p member => bne_iff_ne.2 (shape.heads p member)
  have listed : r.orderedParts (· != .arguments) [args] = [] :=
    r.orderedParts_eq_nil (by simp [shape.given])
  rw [shape.parts, ← List.cons_append, orderedParts_append, listed, List.append_nil]
  exact r.orderedParts_congr heads

theorem orderedParts_arguments (shape : call.CallPlaced text callee types args) :
    r.orderedParts (· == .arguments) call.parts =
      r.orderedParts (fun _ => true) args.parts := by
  have heads : ∀ p ∈ callee :: types.toList, (p.kind == .arguments) = false :=
    fun p member => beq_eq_false_iff_ne.2 (shape.heads p member)
  rw [shape.parts, ← List.cons_append, orderedParts_append, r.orderedParts_eq_nil heads]
  simp [orderedParts, shape.given, r.ordered_arguments shape.given]

-- Each argument stands between the brackets with the value it gives.
theorem argument_placed (shape : call.CallPlaced text callee types args) {a : Node}
    (member : a ∈ args.parts) :
    a.argValue.Placed text ∧ args.start + 1 ≤ a.argValue.start ∧ a.argValue.stop ≤ args.stop - 1 := by
  have placed := shape.list.placed a member
  have bounds := shape.list.bounds a member
  have value := placed.argValue
  have left := a.argValue.front_le_start
  exact ⟨value.1, by omega, by omega⟩

-- The arguments of a call stand between the start of the first and the end of the last.
theorem argument_range (shape : call.CallPlaced text callee types args) {first : Node}
    (atHead : args.parts.head? = some first) :
    ∃ last, args.parts.getLast? = some last ∧
      PlacedFrom text first.start last.stop args.parts ∧ args.start + 1 ≤ first.start ∧
      first.start ≤ last.stop ∧ last.stop ≤ args.stop - 1 ∧
      IsBoundary text first.start ∧ IsBoundary text last.stop := by
  obtain ⟨last, atEnd⟩ : ∃ last, args.parts.getLast? = some last := by
    cases parts : args.parts with
    | nil => simp [parts] at atHead
    | cons x xs => exact ⟨_, List.getLast?_eq_some_getLast (by simp)⟩
  have firstIn : first ∈ args.parts := List.mem_of_head? atHead
  have lastIn : last ∈ args.parts := List.mem_of_getLast? atEnd
  have firstPlaced := shape.list.placed first firstIn
  have lastPlaced := shape.list.placed last lastIn
  have firstBounds := shape.list.bounds first firstIn
  have lastBounds := shape.list.bounds last lastIn
  have front := shape.each first firstIn
  have between : PlacedFrom text first.start last.stop args.parts := by
    have upTo := shape.list.upTo_last atEnd
    cases parts : args.parts with
    | nil => simp [parts] at atHead
    | cons x xs =>
      obtain rfl : x = first := by simpa [parts] using atHead
      rw [parts] at upTo
      exact ⟨by omega, upTo.2⟩
  have reached := between.bounds last lastIn
  have further := lastPlaced.front_le_stop
  exact ⟨last, atEnd, between, by omega, by omega, lastBounds.2, firstPlaced.cuts_start,
    lastPlaced.cuts_stop⟩

theorem calleeEdit_row (shape : call.CallPlaced text callee types args)
    (standing : call.Placed text) (code : String) :
    RowIn text call.start (types.getD callee).stop [calleeEdit call code] := by
  rw [calleeEdit_eq shape]
  exact .singleton (Nat.le_refl _) shape.solid (Nat.le_refl _) standing.cuts_start shape.cut

-- What a call calls is left out in production and keeps its own edits in development.
theorem stub_front_row (shape : call.CallPlaced text callee types args)
    (standing : call.Placed text) (id : String)
    (heads : RowIn text call.start (types.getD callee).stop
      (r.orderedParts (fun _ => true) (callee :: types.toList))) :
    RowIn text call.start (types.getD callee).stop
      (r.leadEdits call (.stub id) ++ r.orderedParts (r.survives (.stub id)) call.parts) := by
  by_cases inline : r.passes.inlineHelpers = true
  · have dropped : r.orderedParts (r.survives (.stub id)) call.parts = [] :=
      r.orderedParts_eq_nil (by simp [survives, inline])
    simpa [leadEdits, inline, dropped] using calleeEdit_row shape standing ""
  · have kept : r.survives (.stub id) = (· != .arguments) := by
      funext k
      simp [survives, inline]
    simpa [leadEdits, inline, kept, orderedParts_head r shape] using heads

-- The edits of a call follow one another if those of its parts do.
theorem ordered_call_row (shape : call.CallPlaced text callee types args)
    (standing : call.Placed text) (p : CallPlan) (changed : p ≠ .keep)
    (heads : RowIn text call.start (types.getD callee).stop
      (r.orderedParts (fun _ => true) (callee :: types.toList)))
    (given : ∀ lo hi, lo ≤ hi → PlacedFrom text lo hi args.parts →
      RowIn text lo hi (r.orderedParts (fun _ => true) args.parts)) :
    RowIn text call.start call.stop
      (r.leadEdits call p ++ r.orderedParts (r.survives p) call.parts ++ r.trailEdits call p) := by
  have solid := shape.solid
  have behind := shape.behind
  have sound := shape.sound
  have inside := shape.inside
  cases p with
  | keep => exact absurd rfl changed
  | inlined code =>
    have all : r.survives (.inlined code) = (· == .arguments) := rfl
    simp only [leadEdits, trailEdits, all, orderedParts_arguments r shape, List.append_nil]
    refine (calleeEdit_row shape standing code).append (given _ _ (by omega) (shape.list.mono (by omega) (by omega)))
  | stub id =>
    refine (stub_front_row r shape standing id heads).append ?_
    simp only [trailEdits, stubEdits, shape.arguments]
    cases atHead : args.parts.head? with
    | none => exact .nil (by omega)
    | some a =>
      have member : a ∈ args.parts := List.mem_of_head? atHead
      obtain ⟨value, left, right⟩ := argument_placed shape member
      exact .singleton (by simp only; omega) value.solid (by simp only; omega) value.cuts_start value.cuts_stop
  | dispatch id =>
    have all : r.survives (.dispatch id) = (· == .arguments) := rfl
    simp only [leadEdits, trailEdits, all, orderedParts_arguments r shape, dispatchEdits,
      shape.arguments]
    cases atHead : args.parts.head? with
    | none =>
      have empty : args.parts = [] := List.head?_eq_none_iff.1 atHead
      simp only [empty, orderedParts, List.take_succ_cons, List.take_zero, List.append_nil,
        List.drop_succ_cons, List.drop_zero]
      exact .singleton (Nat.le_refl _) (by simp only; omega) (Nat.le_refl _) standing.cuts_start
        standing.cuts_stop
    | some first =>
      obtain ⟨last, atEnd, between, left, span, right, cutFirst, cutLast⟩ :=
        argument_range shape atHead
      simp only [atEnd, List.take_succ_cons, List.take_zero, List.drop_succ_cons, List.drop_zero]
      have opening : RowIn text call.start first.start
          [⟨call.start, first.start, r.globals.dispatchOpening id⟩] :=
        .singleton (Nat.le_refl _) (by simp only; omega) (Nat.le_refl _) standing.cuts_start
          cutFirst
      have closing : RowIn text last.stop call.stop
          [⟨last.stop, call.stop, GlobalNames.dispatchClosing⟩] :=
        .singleton (Nat.le_refl _) (by simp only; omega) (Nat.le_refl _) cutLast
          standing.cuts_stop
      exact (opening.append (given _ _ span between)).append closing

end Calls

/-! ### Rows of trees -/

-- What two rewritings agree on for each tree of a row they agree on for the row.

theorem partEdits_congr {r r' : Rewriting} {stands : Kind → Bool} {ps : List Node}
    (each : ∀ p ∈ ps, r.edits p = r'.edits p) : r.partEdits stands ps = r'.partEdits stands ps := by
  induction ps with
  | nil => rfl
  | cons p ps ih =>
    obtain ⟨here, later⟩ := List.forall_mem_cons.1 each
    rw [partEdits, partEdits, here, ih later]

theorem partUses_congr {r r' : Rewriting} {stands : Kind → Bool} {ps : List Node}
    (each : ∀ p ∈ ps, r.uses p = r'.uses p) : r.partUses stands ps = r'.partUses stands ps := by
  induction ps with
  | nil => rfl
  | cons p ps ih =>
    obtain ⟨here, later⟩ := List.forall_mem_cons.1 each
    rw [partUses, partUses, here, ih later]

theorem plan_eq_keep (r : Rewriting) {k : Kind} {span : Span} {ps : List Node} (plain : k ≠ .call) :
    r.plan (.mk k span ps) = .keep := by
  unfold plan
  split
  · rename_i heq
    simp only [Node.mk.injEq] at heq
    exact absurd heq.1 plain
  · rfl

-- A tree that is neither a call nor an import has the edits of all its parts.
theorem mem_ordered (r : Rewriting) {k : Kind} {span : Span} {ps : List Node} {p : Node} {e : Edit}
    (plain : k ≠ .call) (stays : isImport k = false) (member : p ∈ ps) (own : e ∈ r.ordered p) :
    e ∈ r.ordered (.mk k span ps) := by
  have all : r.survives .keep = fun _ => true := rfl
  simp only [ordered, stays, r.plan_eq_keep plain, all, Bool.false_eq_true, if_false,
    List.mem_append]
  exact Or.inl (Or.inr (r.mem_orderedParts member rfl own))

-- The edits of a tree follow one another inside its extent.
theorem ordered_row (r : Rewriting) (n : Node) (h : n.Placed text) :
    RowIn text n.front n.stop (r.ordered n) := by
  induction n using Node.inductDeep with
  | step k span ps ih deep =>
    simp only [ordered]
    split
    · exact .nil h.front_le_stop
    · by_cases changed : r.plan (.mk k span ps) = .keep
      · have all : r.survives .keep = fun _ => true := rfl
        simp only [changed, leadEdits, trailEdits, all, List.nil_append, List.append_nil]
        exact r.orderedParts_row_of _ h.front_le_stop h.parts ih
      · obtain rfl : k = .call := Decidable.byContradiction fun plain => changed (r.plan_eq_keep plain)
        obtain ⟨callee, types, args, shape⟩ := h.call
        have start : (Node.mk .call span ps).front = (Node.mk .call span ps).start :=
          Node.front_eq_start rfl
        rw [start]
        refine r.ordered_call_row shape h _ changed ?_ ?_
        · exact r.orderedParts_row_of _ (Nat.le_of_lt shape.solid) shape.head
            fun q here => ih q (shape.head_mem q here)
        · intro lo hi le between
          exact r.orderedParts_row_of _ le between fun q here => deep args shape.args_mem q here

theorem orderedParts_row (r : Rewriting) (stands : Kind → Bool) {lo hi : Nat} {ps : List Node}
    (le : lo ≤ hi) (placed : PlacedFrom text lo hi ps) :
    RowIn text lo hi (r.orderedParts stands ps) :=
  r.orderedParts_row_of stands le placed fun p _ => r.ordered_row p

end Rewriting

end ServerLink
