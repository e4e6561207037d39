import ServerLink.Proofs.LineEnds.Widening

/-!
Steps of the reader in a text and in the text with carriage returns. Two steps are alike if they
come to counterparts from counterparts; the laws run two steps through side by side.
-/

set_option autoImplicit false

namespace ServerLink.Script

open Text

@[simp] theorem widen_setting (text : List Char) (s : Setting) :
    widen text s = { s with arrowAt := widen text s.arrowAt } := rfl

@[simp] theorem token_widen (text : List Char) (c : Cursor) : (widen text c).token = c.token := rfl

@[simp] theorem here_widen (text : List Char) (c : Cursor) :
    (widen text c).here = widen text c.here := rfl

@[simp] theorem next_widen (text : List Char) (c : Cursor) :
    (widen text c).next = widen text c.next := rfl

@[simp] theorem chars_widen (text : List Char) (t : Tail) : (widen text t).chars = crlf t.chars :=
  rfl

@[simp] theorem offset_widen (text : List Char) (t : Tail) :
    (widen text t).offset = widen text t.offset := rfl

@[simp] theorem newline_widen (text : List Char) (c : Cursor) :
    (widen text c).newline = c.newline := rfl

@[simp] theorem widen_beq_some (text : List Char) (o : Option Nat) (n : Nat) :
    (widen text o == some (widen text n)) = (o == some n) := by
  cases o with
  | none => rfl
  | some m =>
    rw [Bool.eq_iff_iff]
    simp [widen, crlfOffset_inj]

@[simp] theorem widen_eq_some_iff (text : List Char) (o : Option Nat) (n : Nat) :
    widen text o = some (widen text n) ↔ o = some n := by
  rw [← beq_iff_eq, widen_beq_some, beq_iff_eq]

@[simp] theorem placed_cursor {text : List Char} {c : Cursor} : Placed text c ↔ c.Valid text :=
  Iff.rfl

@[simp] theorem placed_tail {text : List Char} {t : Tail} : Placed text t ↔ t.Of text := Iff.rfl

theorem Cursor.at_widen {text : List Char} (plain : '\r' ∉ text) {t : Tail} (h : t.Of text) :
    Cursor.at (widen text t) = widen text (Cursor.at t) := by
  have gap := @Tail.skipGap_crlf text .code t.chars t.offset false h
  simp only [Cursor.at, show (widen text t).chars = crlf t.chars from rfl,
    show (widen text t).offset = crlfOffset text t.offset from rfl, gap]
  cases read : Tail.skipGap .code t.chars t.offset false with
  | none => rfl
  | some r =>
    obtain ⟨rest, newline⟩ := r
    have left : rest.Of text := h.trans (Tail.skipGap_eq_some read).1
    simp only [Option.map_some, Tail.takeToken_crlf plain left]
    rfl

namespace Parse

variable {α β σ : Type} [Widens α] [Widens β] [Widens σ] {text : List Char}

/-- The second step comes from the counterparts of a setting and a cursor to the counterpart of
what the first comes to. -/
def Meets (text : List Char) (p p' : Parse α) (s : Setting) (c : Cursor) : Prop :=
  '\r' ∉ text → c.Valid text →
    p' (widen text s) (widen text c) = widen text (p s c) ∧ Placed text (p s c)

/-- The same from wherever they begin. -/
def Alike (text : List Char) (p p' : Parse α) : Prop := ∀ s c, Meets text p p' s c

/-- What a step comes to. -/
structure Reached (text : List Char) (p : Parse α) (s : Setting) (c : Cursor) where
  value : α
  cursor : Cursor
  plain : '\r' ∉ text
  valid : c.Valid text
  run : p s c = some (value, cursor)

/-! ### Laws -/

variable {s : Setting} {c : Cursor}

@[simp] theorem meets_of_alike {p p' : Parse α} (alike : Alike text p p') : Meets text p p' s c :=
  alike s c

@[simp] theorem meets_pure {a a' : α} (same : a' = widen text a) (placed : Placed text a) :
    Meets text (pure a) (pure a') s c := by
  subst same
  exact fun _ v => ⟨rfl, by simpa [Pure.pure, Parse.pure] using ⟨placed, v⟩⟩

theorem meets_of_eq_none {p p' : Parse α} (given : p s c = none)
    (given' : p' (widen text s) (widen text c) = none) : Meets text p p' s c :=
  fun _ _ => ⟨by rw [given, given', widen_none], by simp [given]⟩

omit [Widens α] in
theorem Reached.eq {p : Parse α} {a : α} {d : Cursor} (r : Reached text p s c)
    (run : p s c = some (a, d)) : r.value = a ∧ r.cursor = d :=
  Prod.mk.inj (Option.some.inj (r.run.symm.trans run))

theorem Reached.placed {p p' : Parse α} (alike : Alike text p p') (r : Reached text p s c) :
    Placed text r.value ∧ r.cursor.Valid text := by
  have placed := (alike s c r.plain r.valid).2
  rwa [r.run, placed_some, placed_pair] at placed

@[simp] theorem meets_bind {p p' : Parse α} {f f' : α → Parse β} (first : Alike text p p') :
    Meets text (p >>= f) (p' >>= f') s c ↔ ∀ r : Reached text p s c,
      Meets text (f r.value) (f' (widen text r.value)) s r.cursor := by
  have start := first s c
  constructor
  · intro h r plain v
    have same := (start plain r.valid).1
    have whole := h plain r.valid
    rw [r.run, widen_some, widen_pair] at same
    rw [run_bind, run_bind, r.run, same] at whole
    exact whole
  · intro h plain v
    obtain ⟨same, placed⟩ := start plain v
    rw [run_bind, run_bind, same]
    cases run : p s c with
    | none => exact ⟨rfl, by simp⟩
    | some r =>
      obtain ⟨a, d⟩ := r
      rw [run, placed_some, placed_pair] at placed
      exact h ⟨a, d, plain, v, run⟩ plain placed.2

@[simp high] theorem meets_bind_fixed [Fixed α] {p p' : Parse α} {f f' : α → Parse β}
    (first : Alike text p p') : Meets text (p >>= f) (p' >>= f') s c ↔
      ∀ r : Reached text p s c, Meets text (f r.value) (f' r.value) s r.cursor := by
  simp [meets_bind first]

-- A step that may have found nothing.
@[simp high] theorem meets_bind_option {p p' : Parse (Option α)} {f f' : Option α → Parse β}
    (first : Alike text p p') : Meets text (p >>= f) (p' >>= f') s c ↔
      ∀ r : Reached text p s c,
        (r.value = none → Meets text (f none) (f' none) s r.cursor) ∧
        ∀ a, r.value = some a → Meets text (f (some a)) (f' (some (widen text a))) s r.cursor := by
  rw [meets_bind first]
  refine forall_congr' fun r => ?_
  cases r.value with
  | none => simp
  | some a => simp

omit [Widens α] in
@[simp high] theorem meets_pure_bind {a a' : α} {f f' : α → Parse β} :
    Meets text (pure a >>= f) (pure a' >>= f') s c ↔ Meets text (f a) (f' a') s c := Iff.rfl

omit [Widens α] [Widens β] [Widens σ] in
theorem bind_bind (p : Parse σ) (g : σ → Parse α) (f : α → Parse β) :
    p >>= g >>= f = p >>= fun a => g a >>= f := by
  funext s c
  simp only [run_bind, Option.bind_assoc]

omit [Widens α] [Widens σ] in
@[simp high] theorem meets_bind_bind {p p' : Parse σ} {g g' : σ → Parse α} {f f' : α → Parse β} :
    Meets text (p >>= g >>= f) (p' >>= g' >>= f') s c ↔
      Meets text (p >>= fun a => g a >>= f) (p' >>= fun a => g' a >>= f') s c := by
  rw [bind_bind, bind_bind]

@[simp] theorem meets_ite {b b' : Prop} [Decidable b] [Decidable b'] (same : b' = b)
    {p p' q q' : Parse α} : Meets text (if b then p else q) (if b' then p' else q') s c ↔
      (b → Meets text p p' s c) ∧ (¬b → Meets text q q' s c) := by
  subst same
  by_cases h : b' <;> simp [h]

@[simp] theorem meets_within {f f' : Setting → Setting} {p p' : Parse α}
    (change : f' (widen text s) = widen text (f s)) :
    Meets text (within f p) (within f' p') s c ↔ Meets text p p' (f s) c := by
  simp only [Meets, within, change]

theorem alike_bind {p p' : Parse α} {f f' : α → Parse β} (first : Alike text p p')
    (rest : ∀ a, Placed text a → Alike text (f a) (f' (widen text a))) :
    Alike text (p >>= f) (p' >>= f') := by
  intro s c
  exact (meets_bind first).2 fun r => rest r.value (r.placed first).1 s r.cursor

@[simp] theorem alike_within {f f' : Setting → Setting} {p p' : Parse α}
    (change : ∀ s, f' (widen text s) = widen text (f s)) (h : Alike text p p') :
    Alike text (within f p) (within f' p') :=
  fun s c => (meets_within (change s)).2 (h (f s) c)

theorem meets_trial {p p' : Parse α} (h : Meets text p p' { s with lenient := true } c) :
    Meets text (trial p) (trial p') s c := by
  intro plain v
  obtain ⟨same, placed⟩ := h plain v
  have same : p' { widen text s with lenient := true } (widen text c) =
      widen text (p { s with lenient := true } c) := same
  simp only [trial, same]
  cases run : p { s with lenient := true } c with
  | none => exact ⟨rfl, by simpa using v⟩
  | some r =>
    rw [run, placed_some, ← Prod.eta r, placed_pair] at placed
    exact ⟨rfl, by simpa using placed⟩

@[simp] theorem alike_trial {p p' : Parse α} (h : Alike text p p') :
    Alike text (trial p) (trial p') := fun _ c => meets_trial (h _ c)

@[simp] theorem alike_lookahead {p p' : Parse α} (h : Alike text p p') :
    Alike text (lookahead p) (lookahead p') := by
  intro s c plain v
  obtain ⟨same, placed⟩ := h s c plain v
  simp only [lookahead, same]
  cases run : p s c with
  | none => exact ⟨rfl, by simpa using v⟩
  | some r =>
    rw [run, placed_some, ← Prod.eta r, placed_pair] at placed
    exact ⟨rfl, by simpa using ⟨placed.1, v⟩⟩

theorem alike_loop {f f' : σ → Parse (σ × Bool)} {a a' : σ} (same : a' = widen text a)
    (placed : Placed text a)
    (round : ∀ a, Placed text a → Alike text (f a) (f' (widen text a))) :
    Alike text (loop f a) (loop f' a') := by
  have upTo (n : Nat) (a : σ) (placed : Placed text a) :
      Alike text (loopUpTo f n a) (loopUpTo f' n (widen text a)) := by
    induction n generalizing a with
    | zero => exact fun _ _ => meets_of_eq_none rfl rfl
    | succ n ih =>
      refine alike_bind (round a placed) fun r placed s c => ?_
      obtain ⟨b, more⟩ := r
      rw [placed_pair] at placed
      simp [ih b placed.1, placed.1]
  subst same
  exact fun s c => upTo s.budget a placed s c

@[simp] theorem alike_fail : Alike text (fail : Parse α) fail :=
  fun _ _ => meets_of_eq_none rfl rfl

@[simp] theorem alike_fault : Alike text fault fault := by
  intro s c plain v
  by_cases lenient : s.lenient = true
  · simpa [fault, lenient] using v
  · simp [fault, lenient]

@[simp] theorem alike_faultIf {b b' : Bool} (same : b' = b) :
    Alike text (faultIf b) (faultIf b') := by
  intro s c
  simp [faultIf, same]

@[simp] theorem alike_failIf {b b' : Bool} (same : b' = b) :
    Alike text (failIf b) (failIf b') := by
  intro s c
  simp [failIf, same]

/-! ### Looking at the cursor -/

-- A step that only looks.
theorem alike_look {p p' : Parse α} {look : Setting → Cursor → α}
    (run : ∀ s c, p s c = some (look s c, c)) (run' : ∀ s c, p' s c = some (look s c, c))
    (same : ∀ s c, look (widen text s) (widen text c) = widen text (look s c))
    (placed : ∀ s c, '\r' ∉ text → c.Valid text → Placed text (look s c)) : Alike text p p' := by
  intro s c plain v
  rw [run, run', same]
  exact ⟨rfl, by simpa using ⟨placed s c plain v, v⟩⟩

@[simp] theorem alike_setting : Alike text setting setting :=
  alike_look (fun _ _ => rfl) (fun _ _ => rfl) (fun _ _ => rfl) fun _ _ _ _ => trivial

@[simp] theorem alike_cursor : Alike text cursor cursor :=
  alike_look (fun _ _ => rfl) (fun _ _ => rfl) (fun _ _ => rfl) fun _ _ _ v => v

@[simp] theorem Reached.here (r : Reached text Parse.cursor s c) : r.value.here.Of text :=
  (r.placed alike_cursor).1.stands.here

@[simp] theorem Reached.next (r : Reached text Parse.cursor s c) : r.value.next.Of text :=
  (r.placed alike_cursor).1.stands.next

@[simp] theorem alike_token : Alike text token token :=
  alike_look (fun _ _ => rfl) (fun _ _ => rfl) (fun _ _ => rfl) fun _ _ _ _ => trivial

@[simp] theorem alike_here : Alike text here here :=
  alike_look (fun _ _ => rfl) (fun _ _ => rfl) (fun _ _ => rfl) fun _ _ _ _ => trivial

@[simp] theorem alike_lastStop : Alike text lastStop lastStop :=
  alike_look (fun _ _ => rfl) (fun _ _ => rfl) (fun _ _ => rfl) fun _ _ _ _ => trivial

@[simp] theorem alike_newline : Alike text newline newline :=
  alike_look (fun _ _ => rfl) (fun _ _ => rfl) (fun _ _ => rfl) fun _ _ _ _ => trivial

@[simp] theorem alike_typed : Alike text typed typed :=
  alike_look (fun _ _ => rfl) (fun _ _ => rfl) (fun _ _ => rfl) fun _ _ _ _ => trivial

@[simp] theorem alike_isPunct (p : String) : Alike text (isPunct p) (isPunct p) :=
  alike_look (fun _ _ => rfl) (fun _ _ => rfl) (fun _ _ => rfl) fun _ _ _ _ => trivial

@[simp] theorem alike_isAnyPunct (ps : List String) :
    Alike text (isAnyPunct ps) (isAnyPunct ps) :=
  alike_look (fun _ _ => rfl) (fun _ _ => rfl) (fun _ _ => rfl) fun _ _ _ _ => trivial

@[simp] theorem alike_isWord (w : String) : Alike text (isWord w) (isWord w) :=
  alike_look (fun _ _ => rfl) (fun _ _ => rfl) (fun _ _ => rfl) fun _ _ _ _ => trivial

@[simp] theorem alike_isDone : Alike text isDone isDone :=
  alike_look (fun _ _ => rfl) (fun _ _ => rfl) (fun _ _ => rfl) fun _ _ _ _ => trivial

@[simp] theorem alike_following : Alike text following following := by
  intro s c plain v
  have next := v.stands.next
  exact ⟨congrArg (fun d => some (d, widen text c)) (Cursor.at_widen plain next),
    by simpa [following] using ⟨Cursor.valid_at next, v⟩⟩

-- The token after the next one.
@[simp] theorem Reached.at_next (r : Reached text following s c) :
    Cursor.at (widen text r.value.next) = widen text (Cursor.at r.value.next) :=
  Cursor.at_widen r.plain (r.placed alike_following).1.stands.next

/-! ### Moving on -/

omit [Widens α] [Widens β] [Widens σ] in
-- What is behind some signs, in both texts.
theorem behind_widen {t : Tail} (h : t.Of text) {p rest : List Char} (split : t.chars = p ++ rest)
    (line : '\n' ∉ p) (small : ∀ c ∈ p, c.utf8Size = 1) :
    (⟨(widen text t).chars.drop p.length, (widen text t).offset + p.length⟩ : Tail) =
        widen text ⟨t.chars.drop p.length, t.offset + p.length⟩ ∧
      Tail.Of text ⟨t.chars.drop p.length, t.offset + p.length⟩ := by
  refine ⟨Tail.behind_crlf h split line small, h.trans ⟨p, ?_, ?_⟩⟩
  · rw [split, List.drop_left]
  · rw [Tail.byteLength_of_sizes small]

-- A step to a token further on.
theorem alike_moveTo {t t' : Tail} (same : t' = widen text t) (left : t.Of text) :
    Alike text (moveTo (.at t)) (moveTo (.at t')) := by
  intro s c plain v
  subst same
  simp only [moveTo, Cursor.at_widen plain left]
  exact ⟨rfl, by simpa using Cursor.valid_at left⟩

@[simp] theorem alike_advance : Alike text advance advance := by
  intro s c plain v
  have next := v.stands.next
  simp only [advance, token_widen]
  split
  · exact ⟨rfl, by simp⟩
  · exact ⟨congrArg (fun d => some ((), d)) (Cursor.at_widen plain next),
      by simpa using Cursor.valid_at next⟩

@[simp] theorem alike_eat (p : String) : Alike text (eat p) (eat p) := by
  intro s c
  simp [eat]

@[simp] theorem alike_eatWord (w : String) : Alike text (eatWord w) (eatWord w) := by
  intro s c
  simp [eatWord]

@[simp] theorem alike_expect (p : String) : Alike text (expect p) (expect p) := by
  intro s c
  simp [expect]

@[simp] theorem alike_expectWord (w : String) : Alike text (expectWord w) (expectWord w) := by
  intro s c
  simp [expectWord]

@[simp] theorem alike_followedBy (p : String) : Alike text (followedBy p) (followedBy p) := by
  intro s c
  simp [followedBy]

@[simp] theorem alike_semicolonAhead : Alike text semicolonAhead semicolonAhead := by
  intro s c
  simp [semicolonAhead]

@[simp] theorem alike_semicolon : Alike text semicolon semicolon := by
  intro s c
  simp [semicolon]

@[simp] theorem alike_node {kind : Kind} {start start' : Nat} {parts parts' : List Node}
    (at_start : start' = widen text start) (same : parts' = widen text parts) :
    Alike text (node kind start parts) (node kind start' parts') := by
  intro s c
  simp [node, at_start, same]

theorem alike_listUntil (close : String) {item item' : Parse Node} (alike : Alike text item item') :
    Alike text (listUntil close item) (listUntil close item') := by
  refine alike_bind (alike_loop rfl (by simp) fun items _ s c => ?_) fun items _ s c => ?_
  · simp [alike]
  · simp

/-! ### Names -/

@[simp] theorem alike_anyName : Alike text anyName anyName := by
  refine alike_bind alike_token fun t _ s c => ?_
  split <;> simp

@[simp] theorem alike_plainName : Alike text plainName plainName := by
  refine alike_bind alike_token fun t _ s c => ?_
  split <;> simp

@[simp] theorem alike_bindingName : Alike text bindingName bindingName := by
  intro s c
  simp [bindingName]

@[simp] theorem alike_word : Alike text word word := by
  intro s c
  simp [word]

end Parse

end ServerLink.Script
