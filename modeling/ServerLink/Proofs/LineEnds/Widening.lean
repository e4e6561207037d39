import ServerLink.Proofs.LineEnds.Tokens
import ServerLink.Proofs.Parsing.Cursors
import ServerLink.Script.Grammar

/-!
What is read from a text, and its counterpart in the text with carriage returns: the same but for
the offsets in it. Nothing that is asked of a tree depends on the offsets.
-/

set_option autoImplicit false

namespace ServerLink.Script

open Text Parse

/-- Data read from a text. `widen` takes it to its counterpart. -/
class Widens (α : Type) where
  widen : List Char → α → α
  /-- What text is left in it is left of the given text. -/
  Placed : List Char → α → Prop

export Widens (widen Placed)

/-- Data without offsets. -/
class Fixed (α : Type) [Widens α] : Prop where
  widen_eq (text : List Char) (a : α) : widen text a = a
  placed (text : List Char) (a : α) : Placed text a

/-- Data without text that is left. -/
class Settles (α : Type) [Widens α] : Prop where
  placed (text : List Char) (a : α) : Placed text a

section Instances

variable {α β : Type} [Widens α] [Widens β]

/-- Data that is its own counterpart. -/
@[reducible] def Widens.same (α : Type) : Widens α := ⟨fun _ a => a, fun _ _ => True⟩

instance : Widens Bool := .same Bool
instance : Widens String := .same String
instance : Widens Unit := .same Unit
instance : Widens Token := .same Token
instance : Widens Kind := .same Kind

instance : @Fixed α (.same α) :=
  let _ := Widens.same α
  ⟨fun _ _ => rfl, fun _ _ => trivial⟩

/-- An offset. -/
instance : Widens Nat := ⟨crlfOffset, fun _ _ => True⟩

instance : Widens (α × β) :=
  ⟨fun text r => (widen text r.1, widen text r.2), fun text r => Placed text r.1 ∧ Placed text r.2⟩

instance : Widens (Option α) :=
  ⟨fun text o => o.map (widen text), fun text o => ∀ a ∈ o, Placed text a⟩

instance : Widens (List α) :=
  ⟨fun text as => as.map (widen text), fun text as => ∀ a ∈ as, Placed text a⟩

instance [Fixed α] [Fixed β] : Fixed (α × β) where
  widen_eq text r := by simp [widen, Fixed.widen_eq]
  placed text r := ⟨Fixed.placed text r.1, Fixed.placed text r.2⟩

instance [Fixed α] : Fixed (Option α) where
  widen_eq text o := by cases o <;> simp [widen, Fixed.widen_eq]
  placed text _ a _ := Fixed.placed text a

instance [Fixed α] : Settles α := ⟨Fixed.placed⟩

instance [Settles α] [Settles β] : Settles (α × β) :=
  ⟨fun text r => ⟨Settles.placed text r.1, Settles.placed text r.2⟩⟩

instance [Settles α] : Settles (Option α) := ⟨fun text _ a _ => Settles.placed text a⟩

instance [Settles α] : Settles (List α) := ⟨fun text _ a _ => Settles.placed text a⟩

end Instances

def Span.widen (text : List Char) (s : Span) : Span :=
  ⟨crlfOffset text s.start, crlfOffset text s.stop⟩

instance : Widens Span := ⟨Span.widen, fun _ _ => True⟩

instance : Settles Span := ⟨fun _ _ => trivial⟩

mutual

def Node.widen (text : List Char) : Node → Node
  | .mk k s ps => .mk k (s.widen text) (widenParts text ps)

def widenParts (text : List Char) : List Node → List Node
  | [] => []
  | p :: ps => p.widen text :: widenParts text ps

end

instance : Widens Node := ⟨Node.widen, fun _ _ => True⟩

instance : Settles Node := ⟨fun _ _ => trivial⟩

instance : Widens Tail := ⟨Tail.widen, fun text t => t.Of text⟩

instance : Widens Tail.TemplatePiece := ⟨Tail.TemplatePiece.widen, fun text p => p.rest.Of text⟩

instance : Widens Cursor where
  widen text c :=
    ⟨c.token, widen text c.here, widen text c.next, c.newline, crlfOffset text c.lastStop⟩
  Placed text c := c.Valid text

instance : Widens Setting where
  widen text s := { s with arrowAt := widen text s.arrowAt }
  Placed _ _ := True

section

variable {α β : Type} [Widens α] [Widens β] (text : List Char)

@[simp] theorem widen_fixed [Fixed α] (a : α) : widen text a = a := Fixed.widen_eq text a

@[simp] theorem placed_of_settles [Settles α] (a : α) : Placed text a := Settles.placed text a

@[simp] theorem widen_pair (a : α) (b : β) : widen text (a, b) = (widen text a, widen text b) := rfl

@[simp] theorem fst_widen (r : α × β) : (widen text r).1 = widen text r.1 := rfl

@[simp] theorem snd_widen (r : α × β) : (widen text r).2 = widen text r.2 := rfl

-- Components that were moved one by one are those of the pair that was moved.
@[simp] theorem widen_fst_eta [Fixed β] (r : α × β) : (widen text r.1, r.2) = widen text r :=
  Prod.ext rfl (widen_fixed text r.2).symm

@[simp] theorem widen_snd_eta [Fixed α] (r : α × β) : (r.1, widen text r.2) = widen text r :=
  Prod.ext (widen_fixed text r.1).symm rfl

@[simp] theorem placed_pair (a : α) (b : β) :
    Placed text (a, b) ↔ Placed text a ∧ Placed text b := Iff.rfl

@[simp] theorem placed_none : Placed text (none : Option α) := by simp [Placed]

@[simp] theorem placed_some (a : α) : Placed text (some a) ↔ Placed text a := by simp [Placed]

/-! ### Options and lists -/

@[simp] theorem widen_none : widen text (none : Option α) = none := rfl

@[simp] theorem widen_some (a : α) : widen text (some a) = some (widen text a) := rfl

theorem widen_ite {c : Prop} [Decidable c] (a b : α) :
    widen text (if c then a else b) = if c then widen text a else widen text b := apply_ite _ c a b

@[simp] theorem isSome_widen (o : Option α) : (widen text o).isSome = o.isSome := by
  cases o <;> rfl

@[simp] theorem isNone_widen (o : Option α) : (widen text o).isNone = o.isNone := by
  cases o <;> rfl

@[simp] theorem widen_toList (o : Option α) : widen text o.toList = (widen text o).toList := by
  cases o <;> rfl

@[simp] theorem widen_getD (o : Option α) (a : α) :
    widen text (o.getD a) = (widen text o).getD (widen text a) := by
  cases o <;> rfl

theorem optionAny_widen {p : α → Bool} (same : ∀ a, p (widen text a) = p a) (o : Option α) :
    (widen text o).any p = o.any p := by
  cases o with
  | none => rfl
  | some a => exact same a

theorem optionMap_widen {f : α → β} (same : ∀ a, f (widen text a) = widen text (f a))
    (o : Option α) : (widen text o).map f = widen text (o.map f) := by
  cases o with
  | none => rfl
  | some a => exact congrArg some (same a)

attribute [simp] optionAny_widen optionMap_widen

@[simp] theorem widen_nil : widen text ([] : List α) = [] := rfl

@[simp] theorem widen_cons (a : α) (as : List α) :
    widen text (a :: as) = widen text a :: widen text as := rfl

@[simp] theorem widen_append (as bs : List α) :
    widen text (as ++ bs) = widen text as ++ widen text bs := List.map_append

@[simp] theorem widen_reverse (as : List α) : widen text as.reverse = (widen text as).reverse :=
  List.map_reverse

@[simp] theorem isEmpty_widen (as : List α) : (widen text as).isEmpty = as.isEmpty :=
  List.isEmpty_map

@[simp] theorem isEmpty_widen_append (as bs : List α) :
    (widen text as ++ widen text bs).isEmpty = (as ++ bs).isEmpty := by
  rw [← widen_append, isEmpty_widen]

@[simp] theorem widen_eq_nil_iff (as : List α) : widen text as = [] ↔ as = [] := List.map_eq_nil_iff

@[simp] theorem length_widen (as : List α) : (widen text as).length = as.length := List.length_map _

@[simp] theorem getLast?_widen (as : List α) :
    (widen text as).getLast? = widen text as.getLast? := List.getLast?_map

@[simp] theorem head?_widen (as : List α) : (widen text as).head? = widen text as.head? :=
  List.head?_map

@[simp] theorem tail_widen (as : List α) : (widen text as).tail = widen text as.tail :=
  List.map_tail.symm

@[simp] theorem all_widen {p : α → Bool} (same : ∀ a, p (widen text a) = p a) (as : List α) :
    (widen text as).all p = as.all p := by
  simp only [widen, List.all_map]
  exact List.all_congr rfl fun a => same a

@[simp] theorem any_widen {p : α → Bool} (same : ∀ a, p (widen text a) = p a) (as : List α) :
    (widen text as).any p = as.any p := by
  simp only [widen, List.any_map]
  exact List.any_congr rfl fun a => same a

@[simp] theorem find?_widen {p : α → Bool} (same : ∀ a, p (widen text a) = p a) (as : List α) :
    (widen text as).find? p = widen text (as.find? p) := by
  simp only [widen, List.find?_map]
  exact congrArg (fun q => (as.find? q).map _) (funext same)

@[simp] theorem filter_widen {p : α → Bool} (same : ∀ a, p (widen text a) = p a) (as : List α) :
    (widen text as).filter p = widen text (as.filter p) := by
  simp only [widen, List.filter_map]
  exact congrArg (fun q => (as.filter q).map _) (funext same)

section

variable {γ : Type}

theorem listMap_widen {f g : α → β} (same : ∀ a, g (widen text a) = widen text (f a))
    (as : List α) : (widen text as).map g = widen text (as.map f) := by
  simp only [widen, List.map_map]
  exact congrArg (as.map ·) (funext same)

theorem widen_filterMap {f g : α → Option β} (same : ∀ a, g (widen text a) = widen text (f a))
    (as : List α) : (widen text as).filterMap g = widen text (as.filterMap f) := by
  simp only [widen, List.filterMap_map, List.map_filterMap]
  exact congrArg (as.filterMap ·) (funext same)

theorem filterMap_widen {f g : α → Option γ} (same : ∀ a, g (widen text a) = f a) (as : List α) :
    (widen text as).filterMap g = as.filterMap f := by
  simp only [widen, List.filterMap_map]
  exact congrArg (as.filterMap ·) (funext same)

theorem flatMap_widen {f g : α → List γ} (same : ∀ a, g (widen text a) = f a) (as : List α) :
    (widen text as).flatMap g = as.flatMap f := by
  simp only [widen, List.flatMap_map]
  exact congrArg (as.flatMap ·) (funext same)

end

/-! ### Trees -/

theorem widenParts_eq (ps : List Node) : widenParts text ps = widen text ps := by
  induction ps with
  | nil => rfl
  | cons p ps ih =>
    rw [widenParts, ih]
    rfl

@[simp] theorem widen_mk (k : Kind) (s : Span) (ps : List Node) :
    widen text (Node.mk k s ps) = .mk k (widen text s) (widen text ps) := by
  rw [← widenParts_eq]
  rfl

@[simp] theorem widen_span (start stop : Nat) :
    widen text (Span.mk start stop) = ⟨widen text start, widen text stop⟩ := rfl

@[simp] theorem spanStart_widen (s : Span) : (widen text s).start = widen text s.start := rfl

@[simp] theorem spanStop_widen (s : Span) : (widen text s).stop = widen text s.stop := rfl

variable (n : Node)

@[simp] theorem kind_widen : (widen text n).kind = n.kind := by cases n; rfl

@[simp] theorem span_widen : (widen text n).span = widen text n.span := by cases n; rfl

@[simp] theorem start_widen : (widen text n).start = widen text n.start := by cases n; rfl

@[simp] theorem stop_widen : (widen text n).stop = widen text n.stop := by cases n; rfl

@[simp] theorem parts_widen : (widen text n).parts = widen text n.parts := by cases n; simp

@[simp] theorem part?_widen (k : Kind) : (widen text n).part? k = widen text (n.part? k) := by
  rw [Node.part?, parts_widen, find?_widen text (by simp), Node.part?]

@[simp] theorem undecorated_widen : (widen text n).undecorated = widen text n.undecorated := by
  rw [Node.undecorated, parts_widen, filter_widen text (by simp), Node.undecorated]

@[simp] theorem withKind_widen (k : Kind) :
    (widen text n).withKind k = widen text (n.withKind k) := by
  simp [Node.withKind]

/-! ### What is asked of trees -/

@[simp] theorem gathersName_widen : gathersName (widen text n) = gathersName n := by
  obtain ⟨k, span, ps⟩ := n
  cases k <;> first
    | rfl
    | rcases ps with _ | ⟨⟨k, _, _⟩, _⟩
      · rfl
      · cases k <;> rfl

mutual

theorem isPlace_widen (n : Node) : (widen text n).isPlace = n.isPlace := by
  obtain ⟨k, span, ps⟩ := n
  rw [widen_mk]
  cases k <;> simp only [Node.isPlace, firstIsPlace_widen ps, lastIsPlace_widen ps]

theorem firstIsPlace_widen (ps : List Node) : firstIsPlace (widen text ps) = firstIsPlace ps := by
  cases ps with
  | nil => rfl
  | cons p ps => simpa only [widen_cons, firstIsPlace] using isPlace_widen p

theorem lastIsPlace_widen (ps : List Node) : lastIsPlace (widen text ps) = lastIsPlace ps := by
  match ps with
  | [] => rfl
  | [p] => simpa only [widen_cons, widen_nil, lastIsPlace] using isPlace_widen p
  | _ :: p :: ps => simpa only [widen_cons, lastIsPlace] using lastIsPlace_widen (p :: ps)

end

attribute [simp] isPlace_widen

@[simp] theorem annotated_widen (ann : List Node) :
    (widen text n).annotated (widen text ann) = widen text (n.annotated ann) := by
  simp only [Node.annotated, widen_mk, widen_span, kind_widen, start_widen, stop_widen,
    parts_widen, getLast?_widen, widen_append, widen_getD]
  cases ann.getLast? <;> simp

-- A list that is spelled out in part.
theorem widen_eq_cons {as : List α} {b : α} {bs : List α} (split : widen text as = b :: bs) :
    ∃ a rest, as = a :: rest ∧ widen text a = b ∧ widen text rest = bs :=
  List.map_eq_cons_iff.1 split

theorem widen_eq_mk {n : Node} {k : Kind} {span : Span} {ps : List Node}
    (same : widen text n = .mk k span ps) :
    ∃ old parts, n = .mk k old parts ∧ widen text old = span ∧ widen text parts = ps := by
  obtain ⟨kind, old, parts⟩ := n
  rw [widen_mk, Node.mk.injEq] at same
  exact ⟨old, parts, by rw [same.1], same.2.1, same.2.2⟩

@[simp] theorem asksStrict_widen (ps : List Node) : asksStrict (widen text ps) = asksStrict ps := by
  fun_induction asksStrict ps with
  | case1 span s _ _ rest ih =>
    simpa [asksStrict] using congrArg (s == "use strict" || ·) ih
  | case2 ps no =>
    unfold asksStrict
    split
    next same =>
      obtain ⟨p, rest, rfl, top, -⟩ := widen_eq_cons text same
      obtain ⟨_, parts, rfl, -, inner⟩ := widen_eq_mk text top
      obtain ⟨q, qs, rfl, first, last⟩ := widen_eq_cons text inner
      obtain ⟨_, _, rfl, -, -⟩ := widen_eq_mk text first
      obtain rfl := (widen_eq_nil_iff text _).1 last
      exact (no _ _ _ _ _ rfl).elim
    next => rfl

@[simp] theorem isSimpleParams_widen : isSimpleParams (widen text n) = isSimpleParams n := by
  rw [isSimpleParams, undecorated_widen, all_widen text (by simp), isSimpleParams]

@[simp] theorem memberName?_widen : memberName? (widen text n) = memberName? n := by
  simp [memberName?]

@[simp] theorem isPrivateKey_widen : isPrivateKey (widen text n) = isPrivateKey n := by
  simp [isPrivateKey]

@[simp] theorem isReceiver_widen : isReceiver (widen text n) = isReceiver n := by
  simp [isReceiver]

@[simp] theorem acceptsAny_widen : acceptsAny (widen text n) = acceptsAny n := by
  rw [acceptsAny, acceptsAny]

@[simp] theorem acceptsNone_widen : acceptsNone (widen text n) = acceptsNone n := by
  rw [acceptsNone, undecorated_widen, all_widen text (by simp), acceptsNone]

@[simp] theorem acceptsOne_widen : acceptsOne (widen text n) = acceptsOne n := by
  rw [acceptsOne, undecorated_widen, filter_widen text (by simp), acceptsOne]
  rcases n.undecorated.filter (!isReceiver ·) with _ | ⟨p, _ | ⟨q, ps⟩⟩ <;> simp

@[simp] theorem isConstructorNode_widen :
    isConstructorNode (widen text n) = isConstructorNode n := by
  simp only [isConstructorNode, kind_widen, parts_widen, part?_widen]
  rw [find?_widen text (by simp)]
  generalize n.parts.find? (fun p => p.kind != .decorator) = key
  rcases key with _ | key <;> rcases n.part? .function with _ | f <;> simp

@[simp] theorem inChain_widen : (widen text n).inChain = n.inChain := by
  fun_induction Node.inChain n with
  | case1 => rfl
  | case2 span p ih => simpa [Node.inChain] using ih
  | case3 n chain mark =>
    unfold Node.inChain
    split
    next same =>
      obtain ⟨_, _, rfl, -, -⟩ := widen_eq_mk text same
      exact (chain _ _ rfl).elim
    next same =>
      obtain ⟨_, _, rfl, -, inner⟩ := widen_eq_mk text same
      obtain ⟨p, rest, rfl, -, last⟩ := widen_eq_cons text inner
      obtain rfl := (widen_eq_nil_iff text _).1 last
      exact (mark _ _ rfl).elim
    next => rfl

@[simp] theorem bare_widen : (widen text n).bare = widen text n.bare := by
  fun_induction Node.bare n with
  | case1 span p ih => simpa [Node.bare] using ih
  | case2 n paren =>
    unfold Node.bare
    split
    next same =>
      obtain ⟨_, _, rfl, -, inner⟩ := widen_eq_mk text same
      obtain ⟨p, rest, rfl, -, last⟩ := widen_eq_cons text inner
      obtain rfl := (widen_eq_nil_iff text _).1 last
      exact (paren _ _ rfl).elim
    next => rfl

@[simp] theorem isDeletable_widen (typed : Bool) :
    isDeletable typed (widen text n) = isDeletable typed n := by
  simp only [isDeletable, bare_widen]
  obtain ⟨k, span, ps⟩ := n.bare
  cases k <;> first
    | rfl
    | rcases ps with _ | ⟨p, _ | ⟨q, ps⟩⟩ <;> simp [Node.isProperty]

@[simp] theorem mixesDefaults_widen (op : String) :
    mixesDefaults op (widen text n) = mixesDefaults op n := by
  simp [mixesDefaults]

@[simp] theorem isDeclaring_widen : isDeclaring (widen text n) = isDeclaring n := by
  simp [isDeclaring]

@[simp] theorem linked_widen (chained : Bool) :
    linked chained (widen text n) = widen text (linked chained n) := by
  cases chained <;> simp [linked]

@[simp] theorem isWalkVariable_widen : isWalkVariable (widen text n) = isWalkVariable n := by
  simp only [isWalkVariable, parts_widen]
  rcases n.parts with _ | ⟨p, _ | ⟨q, ps⟩⟩ <;> simp

/-! ### Patterns -/

variable (role : PatternRole)

mutual

theorem toPattern?_widen (n : Node) :
    (widen text n).toPattern? role = widen text (n.toPattern? role) := by
  obtain ⟨k, span, ps⟩ := n
  have place := isPlace_widen text (.mk k span ps)
  have whole (k : Kind) (o : Option (List Node)) :
      (widen text o).map (Node.mk k (widen text span)) = widen text (o.map (.mk k span)) := by
    cases o <;> simp
  rw [widen_mk] at place ⊢
  cases k with
  | shorthand =>
    match ps with
    | [] | p :: q :: ps =>
      simp only [Node.toPattern?, widen_nil, widen_cons, widen_ite, widen_some, widen_none,
        widen_mk]
      rfl
    | [p] => simpa only [widen_cons, widen_nil, Node.toPattern?] using toPattern?_widen p
  | use s outer => cases role <;> simp [Node.toPattern?, widen_ite]
  | _ =>
    simp only [Node.toPattern?, toPatterns?_widen ps, toPatternFirst?_widen ps,
      toPatternLast?_widen ps, whole, place, all_widen text (gathersName_widen text), widen_ite,
      widen_some, widen_none, widen_mk]

theorem toPatterns?_widen (ps : List Node) :
    toPatterns? role (widen text ps) = widen text (toPatterns? role ps) := by
  cases ps with
  | nil => rfl
  | cons p ps =>
    simp only [widen_cons, toPatterns?, toPattern?_widen p, toPatterns?_widen ps]
    rcases p.toPattern? role with _ | q
    · rfl
    rcases toPatterns? role ps with _ | qs
    · rfl
    have types : (widen text qs).all (·.kind == .typeAnn) = qs.all (·.kind == .typeAnn) :=
      all_widen text (by simp) qs
    simp only [widen_some, Option.bind_eq_bind, Option.bind_some, kind_widen, widen_ite, types,
      widen_none, widen_cons]

theorem toPatternFirst?_widen (ps : List Node) :
    toPatternFirst? role (widen text ps) = widen text (toPatternFirst? role ps) := by
  cases ps with
  | nil => rfl
  | cons p ps =>
    simp only [widen_cons, toPatternFirst?, toPattern?_widen p]
    cases p.toPattern? role <;> rfl

theorem toPatternLast?_widen (ps : List Node) :
    toPatternLast? role (widen text ps) = widen text (toPatternLast? role ps) := by
  match ps with
  | [] => rfl
  | [p] =>
    simp only [widen_cons, widen_nil, toPatternLast?, toPattern?_widen p]
    cases p.toPattern? role <;> rfl
  | p :: q :: ps =>
    simp only [widen_cons, toPatternLast?]
    rw [← widen_cons, toPatternLast?_widen (q :: ps)]
    cases toPatternLast? role (q :: ps) <;> rfl

end

attribute [simp] toPattern?_widen toPatterns?_widen

end

end ServerLink.Script
