import ServerLink.Proofs.LineEnds.ModuleItems
import ServerLink.Proofs.Parsing.Scripts

/-!
Scripts as wholes, in a text and in the text with carriage returns. The reader of any depth reads
every goal alike, and both texts are read equally deep.
-/

set_option autoImplicit false

namespace ServerLink.Script

open Text

variable {text : List Char}

theorem alike_rule {self self' : Goal → Parse Node}
    (alike : ∀ g, Parse.Alike text (self g) (self' g)) (g : Goal) :
    Parse.Alike text (g.rule self) (g.rule self') := by
  cases g with
  | expression => exact Parse.alike_expression alike
  | assignment => exact Parse.alike_assignment alike
  | operation rank => exact Parse.alike_operation alike rank
  | unary => exact Parse.alike_unary alike
  | leftHand => exact Parse.alike_leftHand alike
  | constructed => exact Parse.alike_constructed alike
  | pattern => exact Parse.alike_bindingPattern alike
  | type => exact Parse.alike_typeExpression alike
  | returnType => exact Parse.alike_returnType alike
  | markup => exact Parse.alike_element alike
  | statement => exact Parse.alike_statement alike
  | item => exact Parse.alike_item alike
  | moduleItem => exact Parse.alike_moduleItem alike
  | block => exact Parse.alike_bracedItems alike .block
  | body => exact Parse.alike_bracedItems alike .body

theorem alike_read (depth : Nat) (g : Goal) :
    Parse.Alike text (Goal.read depth g) (Goal.read depth g) := by
  induction depth generalizing g with
  | zero => exact Parse.alike_fail
  | succ depth ih => exact alike_rule ih g

theorem alike_script (depth : Nat) :
    Parse.Alike text (Parse.script depth) (Parse.script depth) := by
  refine Parse.alike_bind (Parse.alike_loop rfl (by simp) fun items _ s c => ?_)
    fun items _ s c => ?_
  · simp [alike_read]
  · simp

/-! ### The beginning and the end -/

theorem skipShellLine_crlf {t : Tail} (h : t.Of text) :
    skipShellLine (widen text t) = widen text (skipShellLine t) := by
  obtain ⟨chars, o⟩ := t
  by_cases shell : ∃ cs, chars = '#' :: '!' :: cs
  · obtain ⟨cs, rfl⟩ := shell
    obtain ⟨offset, rest⟩ := h.pair (by decide) (by decide)
    have dropped (cs : List Char) : cs.drop (cs.takeWhile (!isLineEnd ·)).length =
        cs.dropWhile (!isLineEnd ·) :=
      List.append_cancel_left ((List.prefix_iff_eq_append.1 (List.takeWhile_prefix _)).trans
        List.takeWhile_append_dropWhile.symm)
    have apart := span_crlf (p := (!isLineEnd ·)) (by decide) cs
    have behind := (Parse.widen_behind_span (p := (!isLineEnd ·)) (by decide) rest).1
    simp only [List.span_eq_takeWhile_dropWhile, Prod.mk.injEq] at apart behind
    have read (cs : List Char) (o : Nat) : skipShellLine ⟨'#' :: '!' :: cs, o⟩ =
        ⟨cs.dropWhile (!isLineEnd ·), o + 2 + byteLength (cs.takeWhile (!isLineEnd ·))⟩ := by
      simp only [skipShellLine, dropped]
    have marks : widen text (⟨'#' :: '!' :: cs, o⟩ : Tail) =
        ⟨'#' :: '!' :: crlf cs, crlfOffset text o⟩ := rfl
    rw [marks, read, read, apart.1, apart.2, ← offset, behind]
  · have other : ¬∃ ds, crlf chars = '#' :: '!' :: ds := by
      rintro ⟨ds, begins⟩
      exact crlf_begins ['#', '!'] (by decide) (fun es same => shell ⟨es, same⟩) ds begins
    have stays {t : Tail} (no : ¬∃ cs, t.chars = '#' :: '!' :: cs) : skipShellLine t = t := by
      unfold skipShellLine
      split
      · rename_i cs here
        exact (no ⟨cs, here⟩).elim
      · rfl
    rw [stays (t := ⟨chars, o⟩) shell, stays other]

mutual

theorem hasStrayDefault_widen (n : Node) :
    (widen text n).hasStrayDefault = n.hasStrayDefault := by
  obtain ⟨k, span, ps⟩ := n
  simp only [widen_mk, Node.hasStrayDefault, anyStrayDefault_widen ps]

theorem anyStrayDefault_widen (ps : List Node) :
    anyStrayDefault (widen text ps) = anyStrayDefault ps := by
  cases ps with
  | nil => rfl
  | cons p ps =>
    simp only [widen_cons, anyStrayDefault, hasStrayDefault_widen p, anyStrayDefault_widen ps]

end

-- The items read from the text with carriage returns are the counterparts of those of the text.
theorem parseScript_crlf (l : Language) (plain : '\r' ∉ text) :
    parseScript l (crlf text) = widen (withoutMark text) (parseScript l text) := by
  have inside := not_mem_withoutMark plain
  simp only [parseScript, withoutMark_crlf, countP_crlf]
  generalize withoutMark text = text at inside
  have left : Tail.Of text ⟨text, 0⟩ := .refl _ _
  have start := skipShellLine_of left
  have first := skipShellLine_crlf left
  generalize text.countP (· != '\r') = size
  have run := (@alike_script text (64 * (size + 2)) (l.setting size) _ inside
    (Cursor.valid_at start)).1
  rw [show widen text (l.setting size) = l.setting size from rfl, ← Cursor.at_widen inside start,
    ← first, show widen text (⟨text, 0⟩ : Tail) = ⟨crlf text, 0⟩ by simp [widen, Tail.widen]] at run
  rw [run]
  cases Parse.script (64 * (size + 2)) (l.setting size) (.at (skipShellLine ⟨text, 0⟩)) with
  | none => rfl
  | some r =>
    simp only [widen_some, fst_widen, anyStrayDefault_widen, widen_ite, widen_none]

end ServerLink.Script
