import ServerLink.Script.Reader

/-!
What steps of the reader do. `Ensures` says what holds of every result of a step; its laws run a
step through as far as it is spelled out.
-/

set_option autoImplicit false

namespace ServerLink.Script

/-- The token is one of these marks. -/
def Token.isAnyOf (t : Token) (ps : List String) : Bool :=
  match t with
  | .punct p => ps.contains p
  | _ => false

namespace Parse

variable {α β σ : Type}

/-- Whatever the step gives has the property. -/
def Ensures (p : Parse α) (s : Setting) (c : Cursor) (Q : α → Cursor → Prop) : Prop :=
  ∀ a d, p s c = some (a, d) → Q a d

theorem Ensures.mono {p : Parse α} {s : Setting} {c : Cursor} {P Q : α → Cursor → Prop}
    (h : Ensures p s c P) (imp : ∀ a d, P a d → Q a d) : Ensures p s c Q :=
  fun a d given => imp a d (h a d given)

/-! ### Laws of steps -/

variable {s : Setting} {c : Cursor} {Q : α → Cursor → Prop}

theorem ensures_of_eq_some {p : Parse α} {a : α} {d : Cursor} (given : p s c = some (a, d)) :
    Ensures p s c Q ↔ Q a d := by
  constructor
  · exact fun h => h a d given
  · intro h b e other
    obtain ⟨rfl, rfl⟩ := Prod.mk.inj (Option.some.inj (given.symm.trans other))
    exact h

theorem ensures_of_eq_none {p : Parse α} (given : p s c = none) : Ensures p s c Q :=
  fun _ _ other => by simp [given] at other

theorem run_bind (p : Parse β) (f : β → Parse α) :
    (p >>= f) s c = (p s c).bind fun r => f r.1 s r.2 := by
  simp only [Bind.bind, Parse.bind]
  cases p s c <;> rfl

theorem ensures_bind {p : Parse β} {f : β → Parse α} :
    Ensures (p >>= f) s c Q ↔ Ensures p s c fun b d => Ensures (f b) s d Q := by
  constructor
  · intro h b d given a e more
    apply h a e
    rw [run_bind, given]
    exact more
  · intro h a e given
    rw [run_bind] at given
    obtain ⟨⟨b, d⟩, first, rest⟩ := Option.bind_eq_some_iff.1 given
    exact h b d first a e rest

theorem ensures_ite {b : Prop} [Decidable b] {p q : Parse α} (yes : b → Ensures p s c Q)
    (no : ¬b → Ensures q s c Q) : Ensures (if b then p else q) s c Q := by
  split
  · exact yes ‹_›
  · exact no ‹_›

-- Two ways on that meet again.
theorem ensures_either {b : Prop} [Decidable b] {p q : Parse β} {f : β → Parse α}
    (R : β → Cursor → Prop) (yes : b → Ensures p s c R) (no : ¬b → Ensures q s c R)
    (rest : ∀ x d, R x d → Ensures (f x) s d Q) :
    Ensures (if b then p >>= f else q >>= f) s c Q := by
  split
  · exact ensures_bind.2 ((yes ‹_›).mono rest)
  · exact ensures_bind.2 ((no ‹_›).mono rest)

-- A step that may be left out.
theorem ensures_perhaps {b : Prop} [Decidable b] {p : Parse Unit} {f : Unit → Parse α}
    (R : Cursor → Prop) (yes : b → Ensures p s c fun _ d => R d) (no : ¬b → R c)
    (rest : ∀ d, R d → Ensures (f ()) s d Q) : Ensures (if b then p >>= f else f ()) s c Q := by
  split
  · exact ensures_bind.2 ((yes ‹_›).mono fun _ d => rest d)
  · exact rest c (no ‹_›)

theorem ensures_pure {a : α} : Ensures (pure a) s c Q ↔ Q a c := ensures_of_eq_some rfl

theorem ensures_fail : Ensures fail s c Q ↔ True := by
  simp [ensures_of_eq_none (p := fail) rfl]

theorem ensures_within {p : Parse α} {f : Setting → Setting} :
    Ensures (within f p) s c Q ↔ Ensures p (f s) c Q := Iff.rfl

theorem ensures_lookahead {p : Parse β} {Q : Option β → Cursor → Prop} :
    Ensures (lookahead p) s c Q ↔ Q ((p s c).map Prod.fst) c := ensures_of_eq_some rfl

theorem ensures_fault {Q : Unit → Cursor → Prop} :
    Ensures fault s c Q ↔ (s.lenient = true → Q () c) := by
  by_cases lenient : s.lenient = true
  · simp [lenient, ensures_of_eq_some (p := fault) (if_pos lenient)]
  · simp [lenient, ensures_of_eq_none (p := fault) (if_neg lenient)]

theorem ensures_faultIf {b : Bool} {Q : Unit → Cursor → Prop} :
    Ensures (faultIf b) s c Q ↔ ((b = true → s.lenient = true) → Q () c) := by
  cases b with
  | false => simp [faultIf, ensures_pure]
  | true => simp [faultIf, ensures_fault]

theorem ensures_failIf {b : Bool} {Q : Unit → Cursor → Prop} :
    Ensures (failIf b) s c Q ↔ (b = false → Q () c) := by
  cases b <;> simp [failIf, ensures_pure, ensures_fail]

theorem ensures_advance {Q : Unit → Cursor → Prop} :
    Ensures advance s c Q ↔ (c.token ≠ .invalid → Q () (.at c.next)) := by
  by_cases token : c.token = .invalid
  · simp [token, ensures_of_eq_none (p := advance) (if_pos token)]
  · simp [token, ensures_of_eq_some (p := advance) (if_neg token)]

-- What the steps give that only look at the cursor or the setting.
theorem ensures_look :
    (∀ {Q : Setting → Cursor → Prop}, Ensures setting s c Q ↔ Q s c) ∧
    (∀ {Q : Cursor → Cursor → Prop}, Ensures cursor s c Q ↔ Q c c) ∧
    (∀ {d : Cursor} {Q : Unit → Cursor → Prop}, Ensures (moveTo d) s c Q ↔ Q () d) ∧
    (∀ {Q : Token → Cursor → Prop}, Ensures token s c Q ↔ Q c.token c) ∧
    (∀ {Q : Nat → Cursor → Prop}, Ensures here s c Q ↔ Q c.here.offset c) ∧
    (∀ {Q : Nat → Cursor → Prop}, Ensures lastStop s c Q ↔ Q c.lastStop c) ∧
    (∀ {Q : Bool → Cursor → Prop}, Ensures newline s c Q ↔ Q c.newline c) ∧
    (∀ {Q : Bool → Cursor → Prop}, Ensures typed s c Q ↔ Q s.typed c) ∧
    (∀ {p : String} {Q : Bool → Cursor → Prop},
      Ensures (isPunct p) s c Q ↔ Q (c.token == .punct p) c) ∧
    (∀ {w : String} {Q : Bool → Cursor → Prop},
      Ensures (isWord w) s c Q ↔ Q (c.token == .name w false) c) ∧
    (∀ {Q : Bool → Cursor → Prop}, Ensures isDone s c Q ↔ Q (c.token == .done) c) ∧
    (∀ {ps : List String} {Q : Bool → Cursor → Prop},
      Ensures (isAnyPunct ps) s c Q ↔ Q (c.token.isAnyOf ps) c) ∧
    (∀ {p : String} {Q : Bool → Cursor → Prop},
      Ensures (followedBy p) s c Q ↔ Q ((Cursor.at c.next).token == .punct p) c) ∧
    (∀ {Q : Cursor → Cursor → Prop}, Ensures following s c Q ↔ Q (.at c.next) c) :=
  ⟨ensures_of_eq_some rfl, ensures_of_eq_some rfl, ensures_of_eq_some rfl, ensures_of_eq_some rfl,
    ensures_of_eq_some rfl, ensures_of_eq_some rfl, ensures_of_eq_some rfl, ensures_of_eq_some rfl,
    ensures_of_eq_some rfl, ensures_of_eq_some rfl, ensures_of_eq_some rfl, ensures_of_eq_some rfl,
    ensures_of_eq_some rfl, ensures_of_eq_some rfl⟩

theorem ensures_expect {p : String} {Q : Unit → Cursor → Prop} :
    Ensures (expect p) s c Q ↔ ((c.token == .punct p) = true → Q () (.at c.next)) := by
  simp only [expect, ensures_bind, ensures_look]
  by_cases here : (c.token == .punct p) = true
  · have token : c.token ≠ .invalid := by simp [eq_of_beq here]
    simp [here, ensures_advance, token]
  · simp [here, ensures_fail]

theorem ensures_expectWord {w : String} {Q : Unit → Cursor → Prop} :
    Ensures (expectWord w) s c Q ↔ ((c.token == .name w false) = true → Q () (.at c.next)) := by
  simp only [expectWord, ensures_bind, ensures_look]
  by_cases here : (c.token == .name w false) = true
  · have token : c.token ≠ .invalid := by simp [eq_of_beq here]
    simp [here, ensures_advance, token]
  · simp [here, ensures_fail]

theorem ensures_eat {p : String} {Q : Bool → Cursor → Prop} :
    Ensures (eat p) s c Q ↔
      ((c.token == .punct p) = true → Q true (.at c.next)) ∧
        ((c.token == .punct p) = false → Q false c) := by
  simp only [eat, ensures_bind, ensures_look]
  by_cases here : (c.token == .punct p) = true
  · have token : c.token ≠ .invalid := by simp [eq_of_beq here]
    simp [here, ensures_bind, ensures_advance, ensures_pure, token]
  · simp [here, ensures_pure]

theorem ensures_eatWord {w : String} {Q : Bool → Cursor → Prop} :
    Ensures (eatWord w) s c Q ↔
      ((c.token == .name w false) = true → Q true (.at c.next)) ∧
        ((c.token == .name w false) = false → Q false c) := by
  simp only [eatWord, ensures_bind, ensures_look]
  by_cases here : (c.token == .name w false) = true
  · have token : c.token ≠ .invalid := by simp [eq_of_beq here]
    simp [here, ensures_bind, ensures_advance, ensures_pure, token]
  · simp [here, ensures_pure]

theorem ensures_ifEat {p : String} {x y : Cursor → Parse α}
    (yes : (c.token == .punct p) = true → Ensures (x (.at c.next)) s (.at c.next) Q)
    (no : Ensures (y c) s c Q) :
    Ensures (eat p) s c fun b d => Ensures (if b = true then x d else y d) s d Q :=
  ensures_eat.2 ⟨fun here => by simpa using yes here, fun _ => by simpa using no⟩

theorem ensures_ifEatWord {w : String} {x y : Cursor → Parse α}
    (yes : (c.token == .name w false) = true → Ensures (x (.at c.next)) s (.at c.next) Q)
    (no : Ensures (y c) s c Q) :
    Ensures (eatWord w) s c fun b d => Ensures (if b = true then x d else y d) s d Q :=
  ensures_eatWord.2 ⟨fun here => by simpa using yes here, fun _ => by simpa using no⟩

theorem ensures_node {kind : Kind} {start : Nat} {parts : List Node}
    {Q : Node → Cursor → Prop} :
    Ensures (node kind start parts) s c Q ↔ Q (.mk kind ⟨start, c.lastStop⟩ parts) c := by
  simp only [node, ensures_bind, ensures_look, ensures_pure]

-- All laws of the steps that come to one result.
theorem ensures_run {s : Setting} {c : Cursor} :
    (∀ {α β : Type} {p : Parse β} {f : β → Parse α} {Q : α → Cursor → Prop},
      Ensures (p >>= f) s c Q ↔ Ensures p s c fun b d => Ensures (f b) s d Q) ∧
    (∀ {α : Type} {a : α} {Q : α → Cursor → Prop}, Ensures (pure a) s c Q ↔ Q a c) ∧
    (∀ {α : Type} {Q : α → Cursor → Prop}, Ensures fail s c Q ↔ True) ∧
    (∀ {α : Type} {p : Parse α} {f : Setting → Setting} {Q : α → Cursor → Prop},
      Ensures (within f p) s c Q ↔ Ensures p (f s) c Q) ∧
    (∀ {β : Type} {p : Parse β} {Q : Option β → Cursor → Prop},
      Ensures (lookahead p) s c Q ↔ Q ((p s c).map Prod.fst) c) ∧
    (∀ {Q : Unit → Cursor → Prop}, Ensures fault s c Q ↔ (s.lenient = true → Q () c)) ∧
    (∀ {b : Bool} {Q : Unit → Cursor → Prop},
      Ensures (faultIf b) s c Q ↔ ((b = true → s.lenient = true) → Q () c)) ∧
    (∀ {b : Bool} {Q : Unit → Cursor → Prop},
      Ensures (failIf b) s c Q ↔ (b = false → Q () c)) ∧
    (∀ {Q : Unit → Cursor → Prop},
      Ensures advance s c Q ↔ (c.token ≠ .invalid → Q () (.at c.next))) ∧
    (∀ {p : String} {Q : Unit → Cursor → Prop},
      Ensures (expect p) s c Q ↔ ((c.token == .punct p) = true → Q () (.at c.next))) ∧
    (∀ {w : String} {Q : Unit → Cursor → Prop},
      Ensures (expectWord w) s c Q ↔ ((c.token == .name w false) = true → Q () (.at c.next))) ∧
    (∀ {kind : Kind} {start : Nat} {parts : List Node} {Q : Node → Cursor → Prop},
      Ensures (node kind start parts) s c Q ↔ Q (.mk kind ⟨start, c.lastStop⟩ parts) c) :=
  ⟨ensures_bind, ensures_pure, ensures_fail, ensures_within, ensures_lookahead, ensures_fault,
    ensures_faultIf, ensures_failIf, ensures_advance, ensures_expect, ensures_expectWord, ensures_node⟩

-- A trial gives what the step gives, or stays where it is.
theorem ensures_trial {p : Parse β} {Q : Option β → Cursor → Prop}
    (given : Ensures p { s with lenient := true } c fun b d => Q (some b) d) (missed : Q none c) :
    Ensures (trial p) s c Q := by
  intro o d h
  simp only [trial] at h
  split at h
  · rename_i b e found
    obtain ⟨rfl, rfl⟩ := Prod.mk.inj (Option.some.inj h)
    exact given b e found
  · obtain ⟨rfl, rfl⟩ := Prod.mk.inj (Option.some.inj h)
    exact missed

-- What a loop carries from round to round, and what it leaves with.
theorem ensures_loop {step : σ → Parse (σ × Bool)} {I Q : σ → Cursor → Prop} {a : σ}
    (start : I a c) (each : ∀ a c, I a c → Ensures (step a) s c fun r d =>
      (r.2 = true → I r.1 d) ∧ (r.2 = false → Q r.1 d)) : Ensures (loop step a) s c Q := by
  have upTo (n : Nat) (a : σ) (c : Cursor) (now : I a c) : Ensures (loopUpTo step n a) s c Q := by
    induction n generalizing a c with
    | zero => exact ensures_of_eq_none rfl
    | succ n ih =>
      simp only [loopUpTo, ensures_bind]
      refine (each a c now).mono fun r d round => ?_
      obtain ⟨b, more⟩ := r
      cases more with
      | true => exact ih b d (round.1 rfl)
      | false => exact ensures_pure.2 (round.2 rfl)
  exact upTo s.budget a c start

-- What every round of a loop keeps.
theorem ensures_rounds {step : σ → Parse (σ × Bool)} {I : σ → Cursor → Prop} {a : σ}
    (start : I a c) (each : ∀ a c, I a c → Ensures (step a) s c fun r d => I r.1 d) :
    Ensures (loop step a) s c I :=
  ensures_loop start fun a c now => (each a c now).mono fun _ _ kept => ⟨fun _ => kept, fun _ => kept⟩

end Parse

end ServerLink.Script
