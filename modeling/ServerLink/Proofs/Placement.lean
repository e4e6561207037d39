import ServerLink.Module
import ServerLink.Proofs.Slices

/-!
Where trees stand in a text. The parts of a tree stand inside it, one behind the other, and every
tree begins and ends between two characters. Decorators alone may stand before what they decorate.
-/

set_option autoImplicit false

namespace ServerLink

open Text

namespace Script

/-- Decorators may stand before the span of such a tree. -/
def Kind.isDecorated : Kind → Bool
  | .functionDecl | .classDecl | .exportDecl | .exportDefault => true
  | _ => false

mutual

/-- Where a tree begins, with the decorators before it. -/
def Node.front : Node → Nat
  | .mk k span ps => if k.isDecorated then frontOf span.start ps else span.start

def frontOf (start : Nat) : List Node → Nat
  | [] => start
  | p :: _ => min start p.front

end

/-- Between which offsets the parts of a tree stand. -/
def Kind.room (k : Kind) (span : Span) : Nat × Nat :=
  if k.isDecorated then (0, span.stop)
  else if k = .arguments then (span.start + 1, span.stop - 1)
  else (span.start, span.stop)

/-- The parts of a call: its callee, type arguments if there are any, and arguments. -/
inductive CallParts : List Node → Prop
  | mk {callee args : Node} {types : Option Node}
      (apart : callee.kind ≠ .arguments ∧ callee.kind ≠ .typeArgs)
      (named : ∀ t ∈ types, t.kind = .typeArgs) (given : args.kind = .arguments)
      (each : ∀ a ∈ args.parts, a.kind.isDecorated = false) :
      CallParts (callee :: (types.toList ++ [args]))

/-- What is known of the parts of a tree by its kind. -/
def Kind.Admits : Kind → List Node → Prop
  | .call, ps => CallParts ps
  | .use _ _, ps => ps = []
  | .spread, ps => ∃ e, ps = [e] ∧ e.kind.isDecorated = false
  | _, _ => True

mutual

/-- A tree stands in a text with all that is in it; every tree takes up text. -/
def Node.Placed (text : List Char) : Node → Prop
  | .mk k span ps =>
      span.start < span.stop ∧ IsBoundary text span.start ∧ IsBoundary text span.stop ∧
        k.Admits ps ∧ PlacedFrom text (k.room span).1 (k.room span).2 ps

/-- Trees stand between two offsets, one behind the other. -/
def PlacedFrom (text : List Char) (lo hi : Nat) : List Node → Prop
  | [] => True
  | p :: ps => lo ≤ p.front ∧ p.Placed text ∧ p.stop ≤ hi ∧ PlacedFrom text p.stop hi ps

end

theorem Node.front_le_start (n : Node) : n.front ≤ n.start := by
  obtain ⟨k, span, ps⟩ := n
  simp only [front, start, Node.span_mk]
  split
  · cases ps with
    | nil => simp [frontOf]
    | cons p ps => exact Nat.min_le_left _ _
  · exact Nat.le_refl _

theorem Node.front_eq_start {n : Node} (plain : n.kind.isDecorated = false) :
    n.front = n.start := by
  obtain ⟨k, span, ps⟩ := n
  simp only [Node.kind_mk] at plain
  simp [front, start, plain]

/-! ### Induction over trees -/

mutual

-- What passes from the parts of every tree to the tree holds of all trees.
theorem Node.induct {P : Node → Prop} (step : ∀ k span ps, (∀ p ∈ ps, P p) → P (.mk k span ps)) :
    (n : Node) → P n
  | .mk k span ps => step k span ps (inductParts step ps)

theorem inductParts {P : Node → Prop}
    (step : ∀ k span ps, (∀ p ∈ ps, P p) → P (.mk k span ps)) : (ps : List Node) → ∀ p ∈ ps, P p
  | [] => by simp
  | p :: ps => by
      intro q member
      rcases List.mem_cons.1 member with same | later
      · exact same ▸ Node.induct step p
      · exact inductParts step ps q later

end

-- The same where a step also looks at the parts of the parts.
theorem Node.inductDeep {P : Node → Prop}
    (step : ∀ k span ps, (∀ p ∈ ps, P p) → (∀ p ∈ ps, ∀ q ∈ p.parts, P q) → P (.mk k span ps))
    (n : Node) : P n := by
  have both : ∀ n : Node, P n ∧ ∀ q ∈ n.parts, P q := by
    intro n
    induction n using Node.induct with
    | step k span ps ih =>
      exact ⟨step k span ps (fun p member => (ih p member).1) fun p member => (ih p member).2,
        fun p member => (ih p member).1⟩
  exact (both n).1

/-! ### Trees in a row -/

namespace Node.Placed

variable {text : List Char} {n : Node}

theorem solid (h : n.Placed text) : n.start < n.stop := by
  obtain ⟨k, span, ps⟩ := n
  exact h.1

theorem start_le_stop (h : n.Placed text) : n.start ≤ n.stop := Nat.le_of_lt h.solid

theorem cuts_start (h : n.Placed text) : IsBoundary text n.start := by
  obtain ⟨k, span, ps⟩ := n
  exact h.2.1

theorem cuts_stop (h : n.Placed text) : IsBoundary text n.stop := by
  obtain ⟨k, span, ps⟩ := n
  exact h.2.2.1

theorem front_le_stop (h : n.Placed text) : n.front ≤ n.stop :=
  Nat.le_trans n.front_le_start h.start_le_stop

end Node.Placed

namespace PlacedFrom

variable {text : List Char} {lo hi lo' hi' : Nat} {ps : List Node}

theorem mono (h : PlacedFrom text lo hi ps) (left : lo' ≤ lo) (right : hi ≤ hi') :
    PlacedFrom text lo' hi' ps := by
  induction ps generalizing lo lo' with
  | nil => trivial
  | cons p ps ih =>
    obtain ⟨first, placed, inside, rest⟩ := h
    exact ⟨by omega, placed, by omega, ih rest (Nat.le_refl _)⟩

theorem placed (h : PlacedFrom text lo hi ps) : ∀ p ∈ ps, p.Placed text := by
  induction ps generalizing lo with
  | nil => simp
  | cons p ps ih =>
    obtain ⟨-, here, -, rest⟩ := h
    intro a member
    rcases List.mem_cons.1 member with rfl | later
    · exact here
    · exact ih rest a later

theorem bounds (h : PlacedFrom text lo hi ps) : ∀ p ∈ ps, lo ≤ p.front ∧ p.stop ≤ hi := by
  induction ps generalizing lo with
  | nil => simp
  | cons p ps ih =>
    obtain ⟨first, here, inside, rest⟩ := h
    intro a member
    rcases List.mem_cons.1 member with rfl | later
    · exact ⟨first, inside⟩
    · have := ih rest a later
      have := here.front_le_stop
      omega

-- Trees in a row reach no further than the last of them.
theorem upTo_last {last : Node} (h : PlacedFrom text lo hi ps) (atEnd : ps.getLast? = some last) :
    PlacedFrom text lo last.stop ps := by
  induction ps generalizing lo with
  | nil => trivial
  | cons p ps ih =>
    obtain ⟨first, here, inside, rest⟩ := h
    cases ps with
    | nil =>
      obtain rfl : p = last := by simpa using atEnd
      exact ⟨first, here, Nat.le_refl _, trivial⟩
    | cons q qs =>
      have tail := ih rest (by simpa using atEnd)
      exact ⟨first, here, Nat.le_trans (Nat.le_trans tail.1 tail.2.1.front_le_stop) tail.2.2.1, tail⟩

theorem append_left {qs : List Node} (h : PlacedFrom text lo hi (ps ++ qs)) :
    PlacedFrom text lo hi ps := by
  induction ps generalizing lo with
  | nil => trivial
  | cons p ps ih =>
    obtain ⟨first, here, inside, rest⟩ := h
    exact ⟨first, here, inside, ih rest⟩

end PlacedFrom

/-! ### One tree -/

namespace Node.Placed

variable {text : List Char}

-- The parts of a tree stand in its extent.
theorem parts {n : Node} (h : n.Placed text) : PlacedFrom text n.front n.stop n.parts := by
  obtain ⟨k, span, ps⟩ := n
  obtain ⟨sound, -, -, -, inside⟩ := h
  by_cases decorated : k.isDecorated = true
  · cases ps with
    | nil => trivial
    | cons p ps =>
      simp only [Kind.room, decorated, if_true] at inside
      obtain ⟨-, placed, below, rest⟩ := inside
      refine ⟨?_, placed, below, rest⟩
      simp only [front, decorated, if_true, frontOf]
      exact Nat.min_le_right _ _
  · simp only [Kind.room, decorated, if_false, Bool.false_eq_true] at inside
    simp only [front, decorated, if_false, Bool.false_eq_true, stop, span_mk, parts_mk]
    split at inside
    · exact inside.mono (by simp) (by simp)
    · exact inside

theorem cuts_front {n : Node} (h : n.Placed text) : IsBoundary text n.front := by
  induction n using Node.induct with
  | step k span ps ih =>
    simp only [front]
    split
    · cases ps with
      | nil => exact h.cuts_start
      | cons p ps =>
        have inner := ih p (by simp) (h.parts.placed p (by simp))
        simp only [frontOf, Nat.min_def]
        split
        · exact h.cuts_start
        · exact inner
    · exact h.cuts_start

-- The value of an argument stands in it.
theorem argValue {n : Node} (h : n.Placed text) :
    n.argValue.Placed text ∧ n.front ≤ n.argValue.front ∧ n.argValue.stop ≤ n.stop := by
  unfold Node.argValue
  split
  · rename_i span e rest
    have bounds := h.parts.bounds e (by simp)
    exact ⟨h.parts.placed e (by simp), bounds⟩
  · exact ⟨h, Nat.le_refl _, Nat.le_refl _⟩

end Node.Placed

-- All trees inside a tree that stands in a text stand in it.
theorem Node.Placed.all {text : List Char} {n : Node} (h : n.Placed text) :
    ∀ q ∈ n.all, q.Placed text := by
  induction n using Node.induct with
  | step k span ps ih =>
    intro q member
    rcases List.mem_cons.1 member with rfl | inner
    · exact h
    · have placed := h.parts.placed
      clear member h
      simp only [parts_mk] at placed
      induction ps with
      | nil => simp [allNodes] at inner
      | cons p ps more =>
        rcases List.mem_append.1 inner with first | rest
        · exact ih p (by simp) (placed p (by simp)) q first
        · exact more (fun a here => ih a (List.mem_cons_of_mem _ here)) rest
            fun a here => placed a (List.mem_cons_of_mem _ here)

theorem PlacedFrom.all {text : List Char} {lo hi : Nat} {ps : List Node}
    (h : PlacedFrom text lo hi ps) : ∀ q ∈ allNodes ps, q.Placed text := by
  induction ps generalizing lo with
  | nil => simp [allNodes]
  | cons p ps ih =>
    obtain ⟨-, here, -, rest⟩ := h
    intro q member
    rcases List.mem_append.1 member with first | later
    · exact here.all q first
    · exact ih rest q later

theorem mem_all {n q : Node} : q ∈ n.all ↔ q = n ∨ q ∈ allNodes n.parts := by
  obtain ⟨k, span, ps⟩ := n
  exact List.mem_cons

theorem mem_allNodes {ps : List Node} {q : Node} : q ∈ allNodes ps ↔ ∃ p ∈ ps, q ∈ p.all := by
  induction ps with
  | nil => simp [allNodes]
  | cons p ps ih => simp [allNodes, ih]

theorem mem_all_of_part {n p q : Node} (part : p ∈ n.parts) (inside : q ∈ p.all) : q ∈ n.all :=
  mem_all.2 (Or.inr (mem_allNodes.2 ⟨p, part, inside⟩))

theorem mem_all_self (n : Node) : n ∈ n.all := mem_all.2 (Or.inl rfl)

-- A tree inside another one stands in its extent.
theorem Node.Placed.extent {text : List Char} {n q : Node} (h : n.Placed text)
    (inside : q ∈ n.all) : n.front ≤ q.start ∧ q.stop ≤ n.stop := by
  induction n using Node.induct with
  | step k span ps ih =>
    rcases mem_all.1 inside with rfl | deeper
    · exact ⟨Node.front_le_start _, Nat.le_refl _⟩
    · obtain ⟨p, member, found⟩ := mem_allNodes.1 deeper
      have bounds := h.parts.bounds p member
      have here := ih p member (h.parts.placed p member) found
      omega

theorem PlacedFrom.extent {text : List Char} {lo hi : Nat} {ps : List Node} {q : Node}
    (h : PlacedFrom text lo hi ps) (inside : q ∈ allNodes ps) : lo ≤ q.start ∧ q.stop ≤ hi := by
  obtain ⟨p, member, found⟩ := mem_allNodes.1 inside
  have bounds := h.bounds p member
  have here := (h.placed p member).extent found
  omega

-- Of two trees in a row one stands behind the other.
theorem PlacedFrom.apart {text : List Char} {lo hi : Nat} {ps : List Node} {p q : Node}
    (h : PlacedFrom text lo hi ps) (left : p ∈ ps) (right : q ∈ ps) :
    p = q ∨ p.stop ≤ q.front ∨ q.stop ≤ p.front := by
  induction ps generalizing lo with
  | nil => simp at left
  | cons a ps ih =>
    obtain ⟨-, -, -, rest⟩ := h
    rcases List.mem_cons.1 left with rfl | later
    · rcases List.mem_cons.1 right with rfl | later'
      · exact Or.inl rfl
      · exact Or.inr (Or.inl (rest.bounds q later').1)
    · rcases List.mem_cons.1 right with rfl | later'
      · exact Or.inr (Or.inr (rest.bounds p later).1)
      · exact ih rest later later'

-- What begins where a tree inside a part begins is inside that part itself.
theorem PlacedFrom.mem_part {text : List Char} {lo hi : Nat} {ps : List Node} {p q v : Node}
    (h : PlacedFrom text lo hi ps) (member : p ∈ ps) (inside : q ∈ allNodes ps) (deeper : v ∈ p.all)
    (start : q.start = v.start) : q ∈ p.all := by
  obtain ⟨p', member', found⟩ := mem_allNodes.1 inside
  rcases h.apart member member' with rfl | apart
  · exact found
  · have place := (h.placed p member).extent deeper
    have place' := (h.placed p' member').extent found
    have solid := ((h.placed p member).all v deeper).solid
    have solid' := (h.all q inside).solid
    omega

/-- How a call stands in a text: what it calls, up to `head`, and behind it the arguments. -/
structure Node.CallPlaced (text : List Char) (call callee : Node) (types : Option Node)
    (args : Node) : Prop where
  parts : call.parts = callee :: (types.toList ++ [args])
  apart : callee.kind ≠ .arguments
  named : ∀ t ∈ types, t.kind = .typeArgs
  given : args.kind = .arguments
  typeArgs : call.typeArgs? = types
  arguments : call.args = args.parts
  each : ∀ a ∈ args.parts, a.front = a.start
  head : PlacedFrom text call.start (types.getD callee).stop (callee :: types.toList)
  solid : call.start < (types.getD callee).stop
  cut : IsBoundary text (types.getD callee).stop
  behind : (types.getD callee).stop ≤ args.start
  sound : args.start ≤ args.stop
  inside : args.stop ≤ call.stop
  list : PlacedFrom text (args.start + 1) (args.stop - 1) args.parts

-- Only the last part of a call is its list of arguments.
theorem Node.CallPlaced.heads {text : List Char} {call callee args : Node} {types : Option Node}
    (shape : call.CallPlaced text callee types args) :
    ∀ p ∈ callee :: types.toList, p.kind ≠ .arguments := by
  intro p member
  rcases List.mem_cons.1 member with rfl | typed
  · exact shape.apart
  · simp [shape.named p (by simpa using typed)]

theorem Node.CallPlaced.head_mem {text : List Char} {call callee args : Node}
    {types : Option Node} (shape : call.CallPlaced text callee types args) :
    ∀ p ∈ callee :: types.toList, p ∈ call.parts := by
  intro p member
  rw [shape.parts, ← List.cons_append]
  exact List.mem_append_left _ member

theorem Node.CallPlaced.args_mem {text : List Char} {call callee args : Node}
    {types : Option Node} (shape : call.CallPlaced text callee types args) :
    args ∈ call.parts := by
  simp [shape.parts]

theorem Node.Placed.call {text : List Char} {span : Span} {ps : List Node}
    (h : (Node.mk .call span ps).Placed text) :
    ∃ callee types args, (Node.mk .call span ps).CallPlaced text callee types args := by
  obtain ⟨-, -, -, ⟨apart, named, given, each⟩, inside⟩ := h
  rename_i callee args types
  have room : Kind.room .call span = (span.start, span.stop) := by simp [Kind.room, Kind.isDecorated]
  rw [room] at inside
  obtain ⟨kind, place, as⟩ := args
  simp only [kind_mk] at given
  subst given
  obtain ⟨first, placed, below, rest⟩ := inside
  have left := callee.front_le_start
  have solid := placed.solid
  have atArgs : (Node.mk .arguments place as).front = place.start := front_eq_start rfl
  have between : Kind.room .arguments place = (place.start + 1, place.stop - 1) := by
    simp [Kind.room, Kind.isDecorated]
  refine ⟨callee, types, .mk .arguments place as, ?_⟩
  cases types with
  | none =>
    simp only [Option.toList_none, List.nil_append] at rest
    obtain ⟨behind, ⟨sound, -, -, -, list⟩, within, -⟩ := rest
    rw [between] at list
    exact {
      parts := rfl
      apart := apart.1
      named := named
      given := rfl
      typeArgs := by simp [typeArgs?, part?, apart.2]
      arguments := by simp [Node.args, part?, apart.1]
      each := fun a member => front_eq_start (each a member)
      head := ⟨first, placed, Nat.le_refl _, trivial⟩
      solid := by
        simp only [Option.getD_none, start, stop, span_mk] at *
        omega
      cut := placed.cuts_stop
      behind := by simpa [atArgs, start] using behind
      sound := Nat.le_of_lt sound
      inside := within
      list := list }
  | some t =>
    simp only [Option.toList_some, List.cons_append, List.nil_append] at rest
    obtain ⟨next, typed, above, behind, ⟨sound, -, -, -, list⟩, within, -⟩ := rest
    rw [between] at list
    have kind : t.kind = .typeArgs := named t rfl
    have further := typed.front_le_stop
    exact {
      parts := rfl
      apart := apart.1
      named := named
      given := rfl
      typeArgs := by simp [typeArgs?, part?, apart.2, kind]
      arguments := by simp [Node.args, part?, apart.1, kind]
      each := fun a member => front_eq_start (each a member)
      head := ⟨first, placed, by simp only [Option.getD_some]; omega, next, typed, Nat.le_refl _, trivial⟩
      solid := by
        simp only [Option.getD_some, start, stop, span_mk] at *
        omega
      cut := typed.cuts_stop
      behind := by simpa [atArgs, start] using behind
      sound := Nat.le_of_lt sound
      inside := within
      list := list }

/-- Items stand between two offsets, and none begins with the end of a line. -/
structure ItemsPlaced (text : List Char) (lo hi : Nat) (items : List Node) : Prop where
  placed : PlacedFrom text lo hi items
  begins : ∀ item ∈ items,
    (textFrom text item.front).head? ≠ some '\n' ∧ (textFrom text item.front).head? ≠ some '\r'

theorem ItemsPlaced.tail {text : List Char} {lo hi : Nat} {item : Node} {items : List Node}
    (h : ItemsPlaced text lo hi (item :: items)) : ItemsPlaced text item.stop hi items :=
  ⟨h.placed.2.2.2, fun i member => h.begins i (List.mem_cons_of_mem _ member)⟩

end Script

/-- The items of a module stand in its text. -/
def Module.WellPlaced (m : Module) : Prop := Script.ItemsPlaced m.text 0 m.size m.items

end ServerLink
