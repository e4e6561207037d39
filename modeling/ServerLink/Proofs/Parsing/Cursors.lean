import ServerLink.Proofs.Parsing.Steps
import ServerLink.Proofs.Parsing.Tails
import ServerLink.Proofs.Placement

/-!
Where cursors are. A valid cursor is at a tail of the text; `Reads` says which trees were read on the
way from one cursor to another, and that they stand there one behind the other. `Takes` says besides
that the way was not empty, so that a tree can span it.
-/

set_option autoImplicit false

namespace ServerLink.Script

open Text

/-- A condition that instance search decides by evaluating it. -/
class Holds (condition : Bool) : Prop where
  eq : condition = true

instance : Holds true := ⟨rfl⟩

/-- The token takes up text. -/
@[reducible] def Token.isSolid : Token → Bool
  | .done | .invalid => false
  | _ => true

namespace Cursor

/-- The cursor is at a tail of the text. -/
def Valid (text : List Char) (c : Cursor) : Prop :=
  ∃ t : Tail, t.Of text ∧ c = .at t

/-- What is left before the token of a cursor and behind it, and how the token stands between. -/
structure Stands (text : List Char) (c : Cursor) : Prop where
  here : c.here.Of text
  left : Tail.LeftOf c.here.chars c.here.offset c.next
  last : IsBoundary text c.lastStop
  le : c.lastStop ≤ c.here.offset
  lt : c.token.isSolid = true → c.here.offset < c.next.offset
  spelled : ∀ cs ∈ Tail.spelling? c.token,
    c.here.chars = cs ++ c.next.chars ∧ c.next.offset = c.here.offset + byteLength cs
  read : c.token ≠ .invalid → Tail.takeToken c.here = (c.token, c.next)
  begins : c.token ≠ .invalid → ∀ d ∈ c.here.chars.head?, isLineEnd d = false

theorem Stands.next {text : List Char} {c : Cursor} (h : c.Stands text) : c.next.Of text :=
  h.here.trans h.left

theorem Valid.stands {text : List Char} {c : Cursor} (v : c.Valid text) : c.Stands text := by
  obtain ⟨t, whole, rfl⟩ := v
  unfold Cursor.at
  split
  · rename_i here newline gap
    obtain ⟨left, begins⟩ := Tail.skipGap_eq_some gap
    generalize read : Tail.takeToken here = pair
    obtain ⟨token, next⟩ := pair
    have token := Tail.takeToken_stands read
    simp only
    exact {
      here := whole.trans left
      left := token.left
      last := whole.cut
      le := left.le
      lt := fun solid => token.lt (by rintro rfl; simp [Token.isSolid] at solid)
        (by rintro rfl; simp [Token.isSolid] at solid)
      spelled := token.spelled
      read := fun _ => read
      begins := fun _ => begins }
  · exact {
      here := whole
      left := .refl _ _
      last := whole.cut
      le := Nat.le_refl _
      lt := by simp [Token.isSolid]
      spelled := by simp [Tail.spelling?]
      read := by simp
      begins := by simp }

theorem valid_at {text : List Char} {t : Tail} (h : t.Of text) : (Cursor.at t).Valid text :=
  ⟨t, h, rfl⟩

@[simp] theorem at_lastStop (t : Tail) : (Cursor.at t).lastStop = t.offset := by
  unfold Cursor.at
  split <;> rfl

end Cursor

/-! ### What is read between two cursors -/

theorem PlacedFrom.append {text : List Char} {lo mid next hi : Nat} {ns ms : List Node}
    (first : PlacedFrom text lo mid ns) (second : PlacedFrom text next hi ms) (low : lo ≤ next)
    (gap : mid ≤ next) (high : mid ≤ hi) : PlacedFrom text lo hi (ns ++ ms) := by
  induction ns generalizing lo with
  | nil => exact second.mono low (Nat.le_refl _)
  | cons n ns ih =>
    obtain ⟨left, placed, right, rest⟩ := first
    exact ⟨left, placed, by omega, ih rest (by omega)⟩

/-- The trees were read on the way from one cursor to the other; it moved only if there was a token
to begin with. -/
structure Reads (text : List Char) (c : Cursor) (ns : List Node) (d : Cursor) : Prop where
  start : c.Valid text
  valid : d.Valid text
  here : c.here.offset ≤ d.here.offset
  stop : c.lastStop ≤ d.lastStop
  placed : PlacedFrom text c.here.offset d.lastStop ns
  moved : d = c ∨ c.token ≠ .invalid

/-- The same for a way on which text was read. -/
structure Takes (text : List Char) (c : Cursor) (ns : List Node) (d : Cursor) : Prop
    extends Reads text c ns d where
  lt : c.here.offset < d.lastStop

/-- Trees that stand where they begin, and that are no lists of arguments. -/
@[reducible] def Kind.isPlain : Kind → Bool
  | .functionDecl | .classDecl | .exportDecl | .exportDefault | .arguments | .typeArgs => false
  | _ => true

/-- Trees of which nothing is asked but that their parts stand in their extent. -/
@[reducible] def Kind.isItem : Kind → Bool
  | .call | .use _ _ | .spread | .arguments => false
  | _ => true

/-- The same for trees that stand where they begin. -/
@[reducible] def Kind.isSimple : Kind → Bool
  | .call | .use _ _ | .spread => false
  | k => k.isPlain

theorem Kind.isPlain_of_isSimple {k : Kind} (simple : k.isSimple = true) : k.isPlain = true := by
  cases k <;> first | rfl | exact simple

theorem Kind.isItem_of_isSimple {k : Kind} (simple : k.isSimple = true) : k.isItem = true := by
  cases k <;> first | rfl | exact simple

theorem Kind.isItem_of_isDecorated {k : Kind} (decorated : k.isDecorated = true) :
    k.isItem = true := by
  cases k <;> first | rfl | exact decorated

theorem Kind.admits_of_isItem {k : Kind} (item : k.isItem = true) (ps : List Node) : k.Admits ps := by
  cases k <;> trivial

theorem Kind.admits_of_isSimple {k : Kind} (simple : k.isSimple = true) (ps : List Node) :
    k.Admits ps :=
  Kind.admits_of_isItem (Kind.isItem_of_isSimple simple) ps

theorem Kind.isDecorated_of_isPlain {k : Kind} (plain : k.isPlain = true) : k.isDecorated = false := by
  unfold Kind.isDecorated
  split <;> first | rfl | simp [Kind.isPlain] at plain

theorem Kind.room_of_isPlain {k : Kind} (plain : k.isPlain = true) (span : Span) :
    k.room span = (span.start, span.stop) := by
  have notArguments : k ≠ .arguments := by
    rintro rfl
    simp [Kind.isPlain] at plain
  simp [Kind.room, Kind.isDecorated_of_isPlain plain, notArguments]

/-- The tree was read between the two cursors. -/
structure Tree (text : List Char) (c : Cursor) (n : Node) (d : Cursor) : Prop where
  takes : Takes text c [n] d
  plain : n.kind.isPlain = true

/-- No line ends at the offset. -/
def Begins (text : List Char) (o : Nat) : Prop :=
  ∀ c ∈ (textFrom text o).head?, isLineEnd c = false

/-- The same for a tree that decorators may stand before; it begins with a token. -/
structure Item (text : List Char) (c : Cursor) (n : Node) (d : Cursor) : Prop where
  takes : Takes text c [n] d
  begins : Begins text n.front

/-- The tree of the given kind goes on from where it was begun. -/
def Completes (text : List Char) (k : Kind) (start : Nat) (before : List Node) (c : Cursor)
    (n : Node) (d : Cursor) : Prop :=
  ∃ more, Takes text c more d ∧ n = .mk k ⟨start, d.lastStop⟩ (before ++ more)

section

variable {text : List Char} {c d e : Cursor} {ns ms : List Node} {n : Node}

theorem Cursor.Valid.reads (v : c.Valid text) : Reads text c [] c :=
  ⟨v, v, Nat.le_refl _, Nat.le_refl _, trivial, Or.inl rfl⟩

namespace Reads

theorem append (h : Reads text c ns d) (k : Reads text d ms e) : Reads text c (ns ++ ms) e where
  start := h.start
  valid := k.valid
  here := Nat.le_trans h.here k.here
  stop := Nat.le_trans h.stop k.stop
  placed := h.placed.append k.placed h.here h.valid.stands.le k.stop
  moved := by
    rcases h.moved with rfl | moved
    · exact k.moved
    · exact Or.inr moved

theorem skip (h : Reads text c ns d) (k : Reads text d [] e) : Reads text c ns e := by
  simpa using h.append k

theorem take (h : Reads text c ns d) (k : Takes text d ms e) : Takes text c (ns ++ ms) e :=
  ⟨h.append k.toReads, Nat.lt_of_le_of_lt h.here k.lt⟩

theorem pass (h : Reads text c ns d) (k : Takes text d [] e) : Takes text c ns e := by
  simpa using h.take k

theorem tree (h : Reads text c ns d) (k : Tree text d n e) : Takes text c (ns ++ [n]) e :=
  h.take k.takes

-- What was read is not kept.
theorem drop (h : Reads text c ns d) : Reads text c [] d := { h with placed := trivial }

-- One more tree, where the trees stand in reverse.
theorem push (h : Reads text c ns.reverse d) (k : Takes text d [n] e) :
    Reads text c (n :: ns).reverse e := by
  simpa using (h.take k).toReads

theorem cons (h : Reads text c ns.reverse d) (k : Tree text d n e) :
    Reads text c (n :: ns).reverse e :=
  h.push k.takes

-- The cursor moves on to what is left of where it is.
theorem moveOn (h : Reads text c ns d) {t : Tail}
    (left : Tail.LeftOf d.here.chars d.here.offset t) (sound : d.token ≠ .invalid) :
    Reads text c ns (.at t) := by
  have stands := h.valid.stands
  have valid := Cursor.valid_at (stands.here.trans left)
  have low := left.le
  have behind := valid.stands.le
  have before := stands.le
  rw [Cursor.at_lastStop] at behind
  exact h.skip ⟨h.valid, valid, by omega, by rw [Cursor.at_lastStop]; omega, trivial, Or.inr sound⟩

-- The same over text that it is at.
theorem moveTo (h : Reads text c ns d) {t : Tail}
    (left : Tail.LeftOf d.here.chars d.here.offset t) (lt : d.here.offset < t.offset)
    (sound : d.token ≠ .invalid) : Takes text c ns (.at t) := by
  refine ⟨h.moveOn left sound, ?_⟩
  have := h.here
  rw [Cursor.at_lastStop]
  omega

-- A token that is passed.
theorem next (h : Reads text c ns d) (sound : d.token ≠ .invalid) : Reads text c ns (.at d.next) :=
  h.moveOn h.valid.stands.left sound

-- A solid token that is passed.
theorem token (h : Reads text c ns d) (solid : d.token.isSolid = true) :
    Takes text c ns (.at d.next) := by
  refine h.moveTo h.valid.stands.left (h.valid.stands.lt solid) ?_
  rintro invalid
  simp [invalid, Token.isSolid] at solid

theorem eaten (h : Reads text c ns d) {t : Token} (here : (d.token == t) = true)
    [solid : Holds t.isSolid] : Takes text c ns (.at d.next) :=
  h.token (eq_of_beq here ▸ solid.eq)

theorem anyOf (h : Reads text c ns d) {ps : List String} (here : d.token.isAnyOf ps = true) :
    Takes text c ns (.at d.next) := by
  refine h.token ?_
  unfold Token.isAnyOf at here
  split at here
  · rename_i marked
    rw [marked]
  · simp at here

theorem matched (h : Reads text c ns d) {t : Token} (here : d.token = t)
    [solid : Holds t.isSolid] : Takes text c ns (.at d.next) :=
  h.token (here ▸ solid.eq)

end Reads

namespace Takes

theorem append (h : Takes text c ns d) (k : Reads text d ms e) : Takes text c (ns ++ ms) e := by
  refine ⟨h.toReads.append k, Nat.lt_of_lt_of_le h.lt k.stop⟩

theorem skip (h : Takes text c ns d) (k : Reads text d [] e) : Takes text c ns e := by
  simpa using h.append k

-- Text is taken from where a token begins.
theorem begins (h : Takes text c ns d) : Begins text c.here.offset := by
  have stands := h.start.stands
  have sound : c.token ≠ .invalid := by
    rcases h.moved with rfl | sound
    · exact absurd h.lt (Nat.not_lt.2 stands.le)
    · exact sound
  rw [Begins, stands.here.textFrom]
  exact stands.begins sound

-- What was read is in one tree, whose first part may be before its own beginning.
theorem itemFrom (h : Takes text c ns d) {k : Kind} (decorated : k.isDecorated = true) {start : Nat}
    (cut : IsBoundary text start) (low : c.here.offset ≤ start) (high : start < d.lastStop)
    (begins : Begins text start) (first : ∀ n ∈ ns.head?, start ≤ n.front ∨ Begins text n.front) :
    Item text c (.mk k ⟨start, d.lastStop⟩ ns) d := by
  have placed : (Node.mk k ⟨start, d.lastStop⟩ ns).Placed text := by
    refine ⟨high, cut, h.valid.stands.last,
      Kind.admits_of_isItem (Kind.isItem_of_isDecorated decorated) ns, ?_⟩
    simp only [Kind.room, decorated, if_true]
    exact h.placed.mono (Nat.zero_le _) (Nat.le_refl _)
  have front : (Node.mk k ⟨start, d.lastStop⟩ ns).front = frontOf start ns := by
    simp [Node.front, decorated]
  have opens : c.here.offset ≤ frontOf start ns ∧ Begins text (frontOf start ns) := by
    cases ns with
    | nil => exact ⟨low, begins⟩
    | cons n ns =>
      refine ⟨Nat.le_min.2 ⟨low, h.placed.1⟩, ?_⟩
      rw [frontOf, Nat.min_def]
      split
      · exact begins
      · rename_i less
        exact (first n (by simp)).resolve_left less
  exact ⟨{ h with placed := ⟨front ▸ opens.1, placed, Nat.le_refl _, trivial⟩ }, front ▸ opens.2⟩

-- What was read is in one tree.
theorem item (h : Takes text c ns d) {k : Kind} [sort : Holds k.isItem] :
    Item text c (.mk k ⟨c.here.offset, d.lastStop⟩ ns) d := by
  by_cases decorated : k.isDecorated = true
  · refine h.itemFrom decorated h.start.stands.here.cut (Nat.le_refl _) h.lt h.begins ?_
    intro n atHead
    exact Or.inl (h.placed.bounds n (List.mem_of_head? atHead)).1
  · have front : (Node.mk k ⟨c.here.offset, d.lastStop⟩ ns).front = c.here.offset :=
      Node.front_eq_start (by simpa using decorated)
    have placed : (Node.mk k ⟨c.here.offset, d.lastStop⟩ ns).Placed text := by
      refine ⟨h.lt, h.start.stands.here.cut, h.valid.stands.last, Kind.admits_of_isItem sort.eq ns, ?_⟩
      have notArguments : k ≠ .arguments := by
        rintro rfl
        exact absurd sort.eq (by simp)
      simp only [Kind.room, decorated, notArguments, if_false, Bool.false_eq_true]
      exact h.placed
    exact ⟨{ h with placed := ⟨Nat.le_of_eq front.symm, placed, Nat.le_refl _, trivial⟩ },
      by rw [front]; exact h.begins⟩

-- A plain tree whose parts are as its kind wants them.
theorem treeOf (h : Takes text c ns d) {k : Kind} (plain : k.isPlain = true) (admits : k.Admits ns) :
    Tree text c (.mk k ⟨c.here.offset, d.lastStop⟩ ns) d := by
  have placed : (Node.mk k ⟨c.here.offset, d.lastStop⟩ ns).Placed text := by
    refine ⟨h.lt, h.start.stands.here.cut, h.valid.stands.last, admits, ?_⟩
    rw [Kind.room_of_isPlain plain]
    exact h.placed
  have front : (Node.mk k ⟨c.here.offset, d.lastStop⟩ ns).front = c.here.offset :=
    Node.front_eq_start (Kind.isDecorated_of_isPlain plain)
  exact ⟨{ h with placed := ⟨Nat.le_of_eq front.symm, placed, Nat.le_refl _, trivial⟩ }, plain⟩

theorem node (h : Takes text c ns d) {k : Kind} [simple : Holds k.isSimple] :
    Tree text c (.mk k ⟨c.here.offset, d.lastStop⟩ ns) d :=
  h.treeOf (Kind.isPlain_of_isSimple simple.eq) (Kind.admits_of_isSimple simple.eq ns)

-- A name that is used.
theorem use (h : Takes text c [] d) {s : String} {o : Bool} :
    Tree text c (.mk (.use s o) ⟨c.here.offset, d.lastStop⟩ []) d :=
  h.treeOf rfl rfl

-- An expression behind three dots.
theorem spread (h : Takes text c [n] d) (plain : n.kind.isPlain = true) :
    Tree text c (.mk .spread ⟨c.here.offset, d.lastStop⟩ [n]) d :=
  h.treeOf rfl ⟨n, rfl, Kind.isDecorated_of_isPlain plain⟩

-- A tree without parts in what was read.
theorem leaf (h : Takes text c [] d) {k : Kind} {start : Nat} (cut : IsBoundary text start)
    (low : c.here.offset ≤ start) (high : start < d.lastStop) [simple : Holds k.isSimple] :
    Tree text c (.mk k ⟨start, d.lastStop⟩ []) d := by
  have plain := Kind.isPlain_of_isSimple simple.eq
  have placed : (Node.mk k ⟨start, d.lastStop⟩ []).Placed text :=
    ⟨high, cut, h.valid.stands.last, Kind.admits_of_isSimple simple.eq [], trivial⟩
  have front : (Node.mk k ⟨start, d.lastStop⟩ []).front = start :=
    Node.front_eq_start (Kind.isDecorated_of_isPlain plain)
  exact ⟨{ h with placed := ⟨by omega, placed, Nat.le_refl _, trivial⟩ }, plain⟩

end Takes

-- A tree that is begun with further trees is one that goes on from before them.
theorem Reads.completes {k : Kind} {start : Nat} {before : List Node} (h : Reads text c ms d)
    (rest : Completes text k start (before ++ ms) d n e) : Completes text k start before c n e := by
  obtain ⟨more, taken, rfl⟩ := rest
  exact ⟨ms ++ more, h.take taken, by rw [List.append_assoc]⟩

-- What completes a tree after what was read of it.
theorem Reads.complete (h : Reads text c ns d) {k : Kind}
    (rest : Completes text k c.here.offset ns d n e) [Holds k.isSimple] : Tree text c n e := by
  obtain ⟨more, taken, rfl⟩ := rest
  exact (h.take taken).node

-- The same for a tree that decorators may stand before.
theorem Reads.completeItem (h : Reads text c ns d) {k : Kind}
    (rest : Completes text k c.here.offset ns d n e) [Holds k.isItem] : Item text c n e := by
  obtain ⟨more, taken, rfl⟩ := rest
  exact (h.take taken).item

namespace Tree

theorem placed (h : Tree text c n d) : n.Placed text := h.takes.placed.2.1

theorem le_start (h : Tree text c n d) : c.here.offset ≤ n.start := by
  rw [← Node.front_eq_start (Kind.isDecorated_of_isPlain h.plain)]
  exact h.takes.placed.1

theorem stop_le (h : Tree text c n d) : n.stop ≤ d.lastStop := h.takes.placed.2.2.1

theorem skip (h : Tree text c n d) (k : Reads text d [] e) : Tree text c n e :=
  ⟨h.takes.skip k, h.plain⟩

-- The parts of a tree stand in it.
theorem inside (h : Tree text c n d) : PlacedFrom text n.start n.stop n.parts := by
  obtain ⟨k, span, ps⟩ := n
  have plain : k.isPlain = true := h.plain
  obtain ⟨-, -, -, -, inside⟩ := h.placed
  rwa [Kind.room_of_isPlain plain] at inside

-- A tree that begins where another one does.
theorem remake (h : Tree text c n d) {k : Kind} {stop : Nat} {ps : List Node}
    (solid : n.start < stop) (cut : IsBoundary text stop) (within : stop ≤ d.lastStop)
    (inside : PlacedFrom text n.start stop ps) (plain : k.isPlain = true) (admits : k.Admits ps) :
    Tree text c (.mk k ⟨n.start, stop⟩ ps) d := by
  have placed : (Node.mk k ⟨n.start, stop⟩ ps).Placed text := by
    refine ⟨solid, h.placed.cuts_start, cut, admits, ?_⟩
    rwa [Kind.room_of_isPlain plain]
  have front : (Node.mk k ⟨n.start, stop⟩ ps).front = n.start :=
    Node.front_eq_start (Kind.isDecorated_of_isPlain plain)
  refine ⟨{ h.takes with placed := ⟨?_, placed, within, trivial⟩ }, plain⟩
  rw [front]
  exact h.le_start

-- A tree over the text of another one.
theorem relabel (h : Tree text c n d) {k : Kind} {ps : List Node}
    (inside : PlacedFrom text n.start n.stop ps) [simple : Holds k.isSimple] :
    Tree text c (.mk k n.span ps) d :=
  h.remake h.placed.solid h.placed.cuts_stop h.stop_le inside
    (Kind.isPlain_of_isSimple simple.eq) (Kind.admits_of_isSimple simple.eq ps)

-- A name that is used, over the text of another tree.
theorem asUse (h : Tree text c n d) {s : String} {o : Bool} :
    Tree text c (.mk (.use s o) n.span []) d :=
  h.remake h.placed.solid h.placed.cuts_stop h.stop_le trivial rfl rfl

-- A tree that goes on for longer.
theorem upTo (h : Tree text c n d) (simple : n.kind.isSimple = true) {stop : Nat}
    (cut : IsBoundary text stop) (le : n.stop ≤ stop) (within : stop ≤ d.lastStop) :
    Tree text c (.mk n.kind ⟨n.start, stop⟩ n.parts) d :=
  h.remake (Nat.lt_of_lt_of_le h.placed.solid le) cut within (h.inside.mono (Nat.le_refl _) le)
    (Kind.isPlain_of_isSimple simple) (Kind.admits_of_isSimple simple _)

theorem withKind (h : Tree text c n d) {k : Kind} [Holds k.isSimple] :
    Tree text c (n.withKind k) d :=
  h.relabel h.inside

-- A tree around another one.
theorem around (h : Tree text c n d) {k : Kind} [Holds k.isSimple] :
    Tree text c (.mk k n.span [n]) d := by
  have front : n.front = n.start := Node.front_eq_start (Kind.isDecorated_of_isPlain h.plain)
  exact h.relabel ⟨Nat.le_of_eq front.symm, h.placed, Nat.le_refl _, trivial⟩

-- A tree with further trees at its end.
theorem extend (h : Tree text c n d) (simple : n.kind.isSimple = true) (more : Reads text d ms e) :
    Tree text c (.mk n.kind ⟨n.start, (ms.getLast?.map Node.stop).getD n.stop⟩ (n.parts ++ ms)) e := by
  have solid := h.placed.solid
  have first := h.le_start
  have within := h.stop_le
  -- The tree ends where the last of the further trees does, or where it ended before.
  obtain ⟨stop, reached, solid', cut, within', parts⟩ : ∃ stop,
      (ms.getLast?.map Node.stop).getD n.stop = stop ∧ n.start < stop ∧
        IsBoundary text stop ∧ stop ≤ e.lastStop ∧ PlacedFrom text n.start stop (n.parts ++ ms) := by
    cases atEnd : ms.getLast? with
    | none =>
      obtain rfl := List.getLast?_eq_none_iff.1 atEnd
      exact ⟨n.stop, rfl, solid, h.placed.cuts_stop, Nat.le_trans within more.stop,
        by simpa using h.inside⟩
    | some last =>
      have member := List.mem_of_getLast? atEnd
      have placed := more.placed.placed last member
      have bounds := more.placed.bounds last member
      have before := h.takes.valid.stands.le
      have ends := placed.front_le_stop
      refine ⟨last.stop, rfl, by omega, placed.cuts_stop, bounds.2, ?_⟩
      exact h.inside.append (more.placed.upTo_last atEnd) (by omega) (by omega) (by omega)
  rw [reached]
  exact (h.skip more.drop).remake solid' cut within' parts (Kind.isPlain_of_isSimple simple)
    (Kind.admits_of_isSimple simple _)

-- A tree that was read on from where something was left out.
theorem after (h : Tree text d n e) (before : Reads text c [] d) : Tree text c n e :=
  ⟨before.take h.takes, h.plain⟩

-- A tree with further trees in front of its parts.
theorem preceded (h : Tree text d n e) (simple : n.kind.isSimple = true) (before : Reads text c ms d) :
    Tree text c (.mk n.kind ⟨c.here.offset, n.stop⟩ (ms ++ n.parts)) e := by
  have le := before.here
  have low := h.le_start
  have gap := before.valid.stands.le
  have solid := h.placed.solid
  have placed : (Node.mk n.kind ⟨c.here.offset, n.stop⟩ (ms ++ n.parts)).Placed text := by
    refine ⟨?_, before.start.stands.here.cut, h.placed.cuts_stop,
      Kind.admits_of_isSimple simple _, ?_⟩
    · show c.here.offset < n.stop
      omega
    · rw [Kind.room_of_isPlain h.plain]
      exact before.placed.append h.inside (by omega) (by omega) (by show d.lastStop ≤ n.stop; omega)
  have front : (Node.mk n.kind ⟨c.here.offset, n.stop⟩ (ms ++ n.parts)).front = c.here.offset :=
    Node.front_eq_start (Kind.isDecorated_of_isPlain h.plain)
  exact ⟨{ before.take h.takes with
    placed := ⟨Nat.le_of_eq front.symm, placed, h.stop_le, trivial⟩ }, h.plain⟩

-- The hole that a comma leaves behind a tree.
theorem hole (h : Tree text c n d) (comma : (d.token == .punct ",") = true) :
    Reads text c [n, .mk .hole ⟨n.stop, (Cursor.at d.next).lastStop⟩ []] (.at d.next) := by
  have whole := h.takes.toReads.eaten comma
  have behind : n.stop < (Cursor.at d.next).lastStop := by
    have solid := h.takes.valid.stands.lt (by rw [eq_of_beq comma])
    have gap := h.takes.valid.stands.le
    have within := h.stop_le
    rw [Cursor.at_lastStop]
    omega
  have placed : (Node.mk .hole ⟨n.stop, (Cursor.at d.next).lastStop⟩ []).Placed text :=
    ⟨behind, h.placed.cuts_stop, whole.valid.stands.last, trivial, trivial⟩
  have front : (Node.mk .hole ⟨n.stop, (Cursor.at d.next).lastStop⟩ []).front = n.stop :=
    Node.front_eq_start rfl
  exact { whole.toReads with
    placed := ⟨h.takes.placed.1, h.placed, Nat.le_of_lt behind, Nat.le_of_eq front.symm, placed,
      Nat.le_refl _, trivial⟩ }

end Tree

-- Trees take up text.
theorem Reads.takes (h : Reads text c (n :: ns) d) : Takes text c (n :: ns) d := by
  obtain ⟨low, placed, within, -⟩ := h.placed
  have first := n.front_le_start
  have solid := placed.solid
  exact ⟨h, by omega⟩

-- A tree over trees in a row, from the first of them to the last.
theorem Reads.spanning (h : Reads text c (n :: ns) d) (plain : n.kind.isPlain = true) {k : Kind}
    {last : Node} (atEnd : (n :: ns).getLast? = some last) [simple : Holds k.isSimple] :
    Tree text c (.mk k ⟨n.start, last.stop⟩ (n :: ns)) d := by
  have plain' := Kind.isPlain_of_isSimple simple.eq
  have member := List.mem_of_getLast? atEnd
  have front : n.front = n.start := Node.front_eq_start (Kind.isDecorated_of_isPlain plain)
  obtain ⟨low, placed, within, rest⟩ := h.placed.upTo_last atEnd
  have whole : (Node.mk k ⟨n.start, last.stop⟩ (n :: ns)).Placed text := by
    refine ⟨Nat.lt_of_lt_of_le placed.solid within, placed.cuts_start,
      (h.placed.placed last member).cuts_stop, Kind.admits_of_isSimple simple.eq _, ?_⟩
    rw [Kind.room_of_isPlain plain']
    exact ⟨Nat.le_of_eq front.symm, placed, within, rest⟩
  have front' : (Node.mk k ⟨n.start, last.stop⟩ (n :: ns)).front = n.start :=
    Node.front_eq_start (Kind.isDecorated_of_isPlain plain')
  refine ⟨{ h.takes with placed := ⟨?_, whole, (h.placed.bounds last member).2, trivial⟩ }, plain'⟩
  rw [front', ← front]
  exact low

/-! ### Calls -/

/-- A list of arguments was read. -/
structure Given (text : List Char) (c : Cursor) (args : Node) (d : Cursor) : Prop where
  takes : Takes text c [args] d
  kind : args.kind = .arguments
  each : ∀ a ∈ args.parts, a.kind.isDecorated = false

-- Arguments stand between their parentheses, which take up text of their own.
theorem Cursor.Valid.given (v : c.Valid text) {opens closes : Token} (opened : (c.token == opens) = true)
    (read : Reads text (.at c.next) ns d) (closed : (d.token == closes) = true)
    (each : ∀ n ∈ ns, n.kind.isDecorated = false) [solid : Holds opens.isSolid]
    [solid' : Holds closes.isSolid] :
    Given text c (.mk .arguments ⟨c.here.offset, (Cursor.at d.next).lastStop⟩ ns) (.at d.next) := by
  have whole := ((v.reads.eaten opened).append read).toReads.eaten closed
  have left := v.stands.lt (by rw [eq_of_beq opened]; exact solid.eq)
  have right := read.valid.stands.lt (by rw [eq_of_beq closed]; exact solid'.eq)
  have inner := read.start.stands.le
  have outer := read.valid.stands.le
  rw [Cursor.at_lastStop] at inner
  have room : Kind.room .arguments ⟨c.here.offset, (Cursor.at d.next).lastStop⟩ =
      (c.here.offset + 1, d.next.offset - 1) := by
    simp [Kind.room, Kind.isDecorated]
  have inside : PlacedFrom text (c.here.offset + 1) (d.next.offset - 1) ns :=
    read.placed.mono (by omega) (by omega)
  have placed : (Node.mk .arguments ⟨c.here.offset, (Cursor.at d.next).lastStop⟩ ns).Placed text :=
    ⟨whole.lt, v.stands.here.cut, whole.valid.stands.last, trivial, by rwa [room]⟩
  have front : (Node.mk .arguments ⟨c.here.offset, (Cursor.at d.next).lastStop⟩ ns).front =
      c.here.offset := Node.front_eq_start rfl
  exact ⟨{ whole with placed := ⟨by omega, placed, Nat.le_refl _, trivial⟩ }, rfl, each⟩

theorem Tree.call {callee args : Node} (types : Option Node) (plain : callee.kind.isPlain = true)
    (named : ∀ t ∈ types, t.kind = .typeArgs) (h : Takes text c (callee :: types.toList) d)
    (given : Given text d args e) :
    Tree text c (.mk .call ⟨c.here.offset, e.lastStop⟩ (callee :: (types.toList ++ [args]))) e := by
  have whole : Takes text c (callee :: (types.toList ++ [args])) e := by
    simpa using h.append given.takes.toReads
  have apart : callee.kind ≠ .arguments ∧ callee.kind ≠ .typeArgs := by
    constructor <;> (intro same; simp [same, Kind.isPlain] at plain)
  exact whole.treeOf rfl ⟨apart, named, given.kind, given.each⟩

end

end ServerLink.Script
