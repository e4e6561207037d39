import ServerLink.Proofs.Parsing.ModuleItems

/-!
Scripts as wholes. The reader of any depth reads every goal as it should, so that the items of a
script stand in its text; settling what names mean moves nothing. Offsets count from behind a byte
order mark, so a module stands in its text when the text has none.
-/

set_option autoImplicit false

namespace ServerLink

open Text

namespace Script

variable {text : List Char}

/-! ### Reading -/

theorem rule_sound {self : Goal → Parse Node} (sound : Sound text self) :
    Sound text (Goal.rule self) := by
  intro g s c v
  cases g with
  | expression => exact Parse.expression_tree sound v
  | assignment => exact Parse.assignment_tree sound v
  | operation rank => exact Parse.operation_tree sound v rank
  | unary => exact Parse.unary_tree sound v
  | leftHand => exact Parse.leftHand_tree sound v
  | constructed => exact Parse.constructed_tree sound v
  | pattern => exact Parse.bindingPattern_pattern sound v
  | type => exact Parse.typeExpression_tree sound v
  | returnType => exact Parse.returnType_tree sound v
  | markup => exact Parse.element_markup sound v
  | statement => exact Parse.statement_item sound v
  | item => exact Parse.item_item sound v
  | moduleItem => exact Parse.moduleItem_item sound v
  | block =>
    exact (Parse.bracedItems_completes sound v .block).mono fun n d rest => v.reads.complete rest
  | body =>
    exact (Parse.bracedItems_completes sound v .body).mono fun n d rest => v.reads.complete rest

theorem read_sound (depth : Nat) : Sound text (Goal.read depth) := by
  induction depth with
  | zero => exact fun g s c v => Parse.ensures_fail.2 trivial
  | succ depth ih => exact rule_sound ih

theorem skipShellLine_of {t : Tail} (h : t.Of text) : (skipShellLine t).Of text := by
  refine h.trans ?_
  unfold skipShellLine
  split
  · rename_i cs here
    rw [here]
    refine .cons_ascii rfl (.cons_ascii rfl ?_)
    exact ⟨cs.takeWhile (!isLineEnd ·), (List.prefix_iff_eq_append.1 (List.takeWhile_prefix _)).symm, rfl⟩
  · exact .refl _ _

-- The items of a script stand in its text, and each begins with a token.
theorem script_reads {c : Cursor} (v : c.Valid text) (s : Setting) (depth : Nat) :
    Parse.Ensures (Parse.script depth) s c fun items d =>
      Reads text c items d ∧ ∀ i ∈ items, Begins text i.front := by
  simp only [Parse.script, Parse.ensures_run]
  refine (Parse.ensures_rounds (a := []) (I := fun (items : List Node) d =>
    Reads text c items.reverse d ∧ ∀ i ∈ items, Begins text i.front) ⟨v.reads, by simp⟩ ?_).mono
      fun items d read => ⟨read.1, by simpa using read.2⟩
  rintro items d ⟨read, begins⟩
  simp only [Parse.ensures_run, Parse.ensures_look]
  refine Parse.ensures_ite (fun _ => Parse.ensures_pure.2 ⟨read, begins⟩) fun _ => ?_
  simp only [Parse.ensures_run]
  refine (read_sound depth .moduleItem s d read.valid).mono fun i e (item : Item text d i e) => ?_
  exact ⟨read.push item.takes, List.forall_mem_cons.2 ⟨item.begins, begins⟩⟩

/-! ### Settling names -/

/-- Trees that settle to mean something. -/
def Kind.isName : Kind → Bool
  | .use _ _ | .bind _ _ | .typeUse _ _ => true
  | _ => false

section

variable {l : Locals} {v : Views}

theorem Kind.settle_isName (k : Kind) : (k.settle l).isName = k.isName := by
  cases k <;> rfl

theorem Kind.settle_of_other {k : Kind} (other : k.isName = false) : k.settle l = k := by
  cases k <;> first | rfl | simp [Kind.isName] at other

theorem Kind.settle_eq_iff {k n : Kind} (other : n.isName = false) :
    k.settle l = n ↔ k = n := by
  by_cases named : k.isName = true
  · constructor
    · rintro rfl
      rw [settle_isName, named] at other
      exact absurd other (by simp)
    · rintro rfl
      rw [named] at other
      exact absurd other (by simp)
  · rw [settle_of_other (by simpa using named)]

theorem Kind.settle_isDecorated (k : Kind) : (k.settle l).isDecorated = k.isDecorated := by
  cases k <;> rfl

theorem Kind.settle_room (k : Kind) (span : Span) : (k.settle l).room span = k.room span := by
  simp only [Kind.room, settle_isDecorated, settle_eq_iff (n := .arguments) rfl]

theorem Node.resolve_kind (n : Node) : (n.resolve l).kind = n.kind.settle l := by
  obtain ⟨k, span, ps⟩ := n
  simp [Node.resolve]

theorem Node.resolve_span (n : Node) : (n.resolve l).span = n.span := by
  obtain ⟨k, span, ps⟩ := n
  simp [Node.resolve]

theorem Node.resolve_stop (n : Node) : (n.resolve l).stop = n.stop := by
  rw [Node.stop, Node.resolve_span, Node.stop]

theorem Node.resolve_front (n : Node) (l : Locals) : (n.resolve l).front = n.front := by
  induction n using Node.induct generalizing l with
  | step k span ps ih =>
    simp only [Node.resolve, Node.front, Kind.settle_isDecorated]
    cases ps with
    | nil => rfl
    | cons p ps =>
      simp only [resolveParts, frontOf]
      rw [ih p (by simp)]

theorem resolveParts_eq_map (v : Views) (ps : List Node) :
    resolveParts v ps = ps.map fun p => p.resolve (v.at p) := by
  induction ps with
  | nil => rfl
  | cons p ps ih => simp [resolveParts, ih]

theorem Views.at_uniform (l : Locals) (p : Node) : (Views.uniform l).at p = l := by
  unfold Views.at
  split <;> rfl

theorem resolveParts_uniform (l : Locals) (ns : List Node) :
    resolveParts (.uniform l) ns = ns.map (Node.resolve l) := by
  simp only [resolveParts_eq_map, Views.at_uniform]

theorem CallParts.resolve {ps : List Node} (h : CallParts ps) : CallParts (resolveParts v ps) := by
  obtain ⟨apart, named, given, each⟩ := h
  rename_i callee args types
  have typed : (types.toList.map fun p => p.resolve (v.at p)) =
      (types.map fun p => p.resolve (v.at p)).toList := by
    cases types <;> rfl
  rw [resolveParts_eq_map, List.map_cons, List.map_append, List.map_singleton, typed]
  refine .mk ?_ ?_ ?_ ?_
  · rw [Node.resolve_kind]
    exact ⟨mt (Kind.settle_eq_iff rfl).1 apart.1, mt (Kind.settle_eq_iff rfl).1 apart.2⟩
  · intro t member
    obtain ⟨t, here, rfl⟩ := Option.map_eq_some_iff.1 member
    rw [Node.resolve_kind]
    exact (Kind.settle_eq_iff rfl).2 (named t here)
  · rw [Node.resolve_kind]
    exact (Kind.settle_eq_iff rfl).2 given
  · obtain ⟨k, span, ps⟩ := args
    simp only [Node.resolve, Node.parts_mk, resolveParts_eq_map, List.mem_map]
    rintro _ ⟨a, member, rfl⟩
    rw [Node.resolve_kind, Kind.settle_isDecorated]
    exact each a member

theorem Kind.Admits.resolve {k : Kind} {ps : List Node} (h : k.Admits ps) :
    (k.settle l).Admits (resolveParts v ps) := by
  cases k with
  | call => exact CallParts.resolve h
  | use s o =>
    obtain rfl : ps = [] := h
    rfl
  | spread =>
    obtain ⟨e, rfl, plain⟩ := h
    refine ⟨e.resolve (v.at e), by simp [resolveParts], ?_⟩
    rw [Node.resolve_kind, Kind.settle_isDecorated, plain]
  | _ => trivial

mutual

theorem Node.Placed.resolve : {n : Node} → n.Placed text → (l : Locals) → (n.resolve l).Placed text
  | .mk k span ps, h, l => by
    obtain ⟨solid, first, last, admits, inside⟩ := h
    refine ⟨solid, first, last, admits.resolve, ?_⟩
    rw [Kind.settle_room]
    exact PlacedFrom.resolve inside _

theorem PlacedFrom.resolve : {ps : List Node} → {lo hi : Nat} → PlacedFrom text lo hi ps →
    (v : Views) → PlacedFrom text lo hi (resolveParts v ps)
  | [], _, _, _, _ => trivial
  | p :: ps, _, _, h, v => by
    obtain ⟨front, placed, stop, rest⟩ := h
    refine ⟨?_, placed.resolve _, ?_, ?_⟩
    · rwa [Node.resolve_front]
    · rwa [Node.resolve_stop]
    · rw [Node.resolve_stop]
      exact PlacedFrom.resolve rest v

end

end

/-! ### Modules -/

-- The items of a script stand in its text without the mark at its start.
theorem parseScript_placed {language : Language} {items : List Node}
    (parsed : parseScript language text = some items) :
    ItemsPlaced (withoutMark text) 0 (byteLength (withoutMark text)) items := by
  simp only [parseScript] at parsed
  split at parsed
  · rename_i read d found
    have start : (skipShellLine ⟨withoutMark text, 0⟩).Of (withoutMark text) :=
      skipShellLine_of (.refl _ _)
    obtain ⟨reads, begins⟩ := script_reads (Cursor.valid_at start) _ _ _ _ found
    split at parsed
    · simp at parsed
    · obtain rfl := Option.some.inj parsed
      refine ⟨reads.placed.mono (Nat.zero_le _) reads.valid.stands.last.le_byteLength, ?_⟩
      intro i member
      have opens := begins i member
      constructor <;>
      · intro head
        simpa [isLineEnd] using opens _ head
  · simp at parsed

theorem ItemsPlaced.resolve {lo hi : Nat} {items : List Node} (h : ItemsPlaced text lo hi items)
    (v : Views) : ItemsPlaced text lo hi (resolveParts v items) := by
  refine ⟨h.placed.resolve v, ?_⟩
  rw [resolveParts_eq_map]
  intro i member
  obtain ⟨item, here, rfl⟩ := List.mem_map.1 member
  rw [Node.resolve_front]
  exact h.begins item here

end Script

namespace Module

variable {path : Path} {text : List Char} {m : Module}

-- A module stands in the text that its offsets count in.
theorem parse_placed (parsed : parse path text = .ok m) :
    Script.ItemsPlaced (withoutMark text) 0 (byteLength (withoutMark text)) m.items := by
  unfold parse at parsed
  split at parsed
  · rename_i items read
    obtain rfl := Except.ok.inj parsed
    exact (Script.parseScript_placed read).resolve _
  · simp at parsed

theorem parse_text (parsed : parse path text = .ok m) : m.text = text := by
  unfold parse at parsed
  split at parsed
  · obtain rfl := Except.ok.inj parsed
    rfl
  · simp at parsed

theorem parse_path (parsed : parse path text = .ok m) : m.path = path := by
  unfold parse at parsed
  split at parsed
  · obtain rfl := Except.ok.inj parsed
    rfl
  · simp at parsed

-- A text without a byte order mark holds the module that is read from it.
theorem parse_wellPlaced (parsed : parse path text = .ok m) (unmarked : withoutMark text = text) :
    m.WellPlaced := by
  have placed := parse_placed parsed
  rw [unmarked, ← parse_text parsed] at placed
  exact placed

end Module

end ServerLink
