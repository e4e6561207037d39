import ServerLink.Proofs.Parsing.Steps
import ServerLink.Proofs.Spelling.Tokens
import ServerLink.Script.Grammar

/-!
What steps of the reader give at a known token. Where the tokens ahead are known a step is run by
rewriting; the laws here say what each step comes to.
-/

set_option autoImplicit false

namespace ServerLink.Script

namespace Parse

variable {α β σ : Type} {s : Setting} {c d : Cursor}

theorem run_advance (token : c.token ≠ .invalid) : advance s c = some ((), c.skip 1) := if_neg token

theorem run_eat (p : String) :
    eat p s c = if c.token = .punct p then some (true, c.skip 1) else some (false, c) := by
  by_cases here : c.token = .punct p
  · simp [eat, run_bind, isPunct, here, run_advance, pure, Parse.pure]
  · simp [eat, run_bind, isPunct, here, pure, Parse.pure]

theorem run_eatWord (w : String) :
    eatWord w s c = if c.token = .name w false then some (true, c.skip 1) else some (false, c) := by
  by_cases here : c.token = .name w false
  · simp [eatWord, run_bind, isWord, here, run_advance, pure, Parse.pure]
  · simp [eatWord, run_bind, isWord, here, pure, Parse.pure]

theorem run_expect {p : String} (here : c.token = .punct p) :
    expect p s c = some ((), c.skip 1) := by
  simp [expect, run_bind, isPunct, here, run_advance]

theorem run_expectWord {w : String} (here : c.token = .name w false) :
    expectWord w s c = some ((), c.skip 1) := by
  simp [expectWord, run_bind, isWord, here, run_advance]

-- All laws of the steps that ask nothing of the cursor.
theorem run_steps {s : Setting} {c : Cursor} :
    (∀ {α β : Type} (p : Parse β) (f : β → Parse α),
      (p >>= f) s c = (p s c).bind fun r => f r.1 s r.2) ∧
    (∀ {α : Type} (a : α), (pure a : Parse α) s c = some (a, c)) ∧
    (∀ {α : Type} (f : Setting → Setting) (p : Parse α), within f p s c = p (f s) c) ∧
    setting s c = some (s, c) ∧ cursor s c = some (c, c) ∧ token s c = some (c.token, c) ∧
    here s c = some (c.here.offset, c) ∧ lastStop s c = some (c.lastStop, c) ∧
    newline s c = some (c.newline, c) ∧ typed s c = some (s.typed, c) ∧
    (∀ p, isPunct p s c = some (c.token == .punct p, c)) ∧
    (∀ w, isWord w s c = some (c.token == .name w false, c)) ∧
    isDone s c = some (c.token == .done, c) ∧
    (∀ ps, isAnyPunct ps s c = some (c.token.isAnyOf ps, c)) ∧
    following s c = some (c.skip 1, c) ∧
    (∀ p, eat p s c = if c.token = .punct p then some (true, c.skip 1) else some (false, c)) ∧
    (∀ w, eatWord w s c =
      if c.token = .name w false then some (true, c.skip 1) else some (false, c)) ∧
    (∀ kind start parts,
      node kind start parts s c = some (.mk kind ⟨start, c.lastStop⟩ parts, c)) ∧
    failIf false s c = some ((), c) ∧ faultIf false s c = some ((), c) :=
  ⟨run_bind, fun _ => rfl, fun _ _ => rfl, rfl, rfl, rfl, rfl, rfl, rfl, rfl, fun _ => rfl,
    fun _ => rfl, rfl, fun _ => rfl, rfl, run_eat, run_eatWord, fun _ _ _ => rfl, rfl, rfl⟩

/-! ### Loops -/

variable {step : σ → Parse (σ × Bool)} {a b : σ} {n : Nat}

theorem run_loopUpTo_more (more : step a s c = some ((b, true), d)) :
    loopUpTo step (n + 1) a s c = loopUpTo step n b s d := by
  simp [loopUpTo, run_steps, more]

theorem run_loopUpTo_last (last : step a s c = some ((b, false), d)) :
    loopUpTo step (n + 1) a s c = some (b, d) := by
  simp [loopUpTo, run_steps, last]

theorem run_loop_last (room : 0 < s.budget) (last : step a s c = some ((b, false), d)) :
    loop step a s c = some (b, d) := by
  obtain ⟨n, budget⟩ := Nat.exists_eq_add_one.2 room
  rw [loop, budget, run_loopUpTo_last last]

end Parse

end ServerLink.Script
