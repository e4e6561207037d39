import ServerLink.Generated
import ServerLink.Proofs.Spelling.Statements

/-!
The statements of a module of sending functions. Their text spells tokens, and the tokens are read
as the export of a constant whose value gathers its arguments and sends them.
-/

set_option autoImplicit false

namespace ServerLink

namespace Script

open Text

/-! ### Tokens and trees -/

/-- A call of a property of the global object, with a text and the gathered arguments. -/
def dispatchTokens (dispatch id : String) : List Token :=
  [.name "globalThis" false, .punct ".", .name dispatch false, .punct "(", .text id, .punct ",",
   .name "args" false, .punct ")"]

/-- A function that gathers its arguments for such a call. -/
def stubTokens (dispatch id : String) : List Token :=
  [.punct "(", .punct "...", .name "args" false, .punct ")", .punct "=>"] ++
    dispatchTokens dispatch id

/-- The export of a constant that is such a function. -/
def exportTokens (key dispatch id : String) : List Token :=
  [.name "export" false, .name "const" false, .name key false, .punct "="] ++
    stubTokens dispatch id ++ [.punct ";"]

-- What the tokens are read as that the cursor is at.

def dispatchNode (c : Cursor) (dispatch id : String) : Node :=
  .mk .call (c.spanTo (c.skip 8))
    [.mk (.member dispatch) (c.spanTo (c.skip 3)) [c.leaf (.use "globalThis" false)],
     .mk .arguments ((c.skip 3).spanTo (c.skip 8))
      [(c.skip 4).leaf (.text id), (c.skip 6).leaf (.use "args" false)]]

def stubNode (c : Cursor) (dispatch id : String) : Node :=
  .mk .arrow (c.spanTo (c.skip 13))
    [.mk .params (c.spanTo (c.skip 4))
      [.mk .rest ((c.skip 1).spanTo (c.skip 3)) [(c.skip 2).leaf (.bind "args" false)]],
     dispatchNode (c.skip 5) dispatch id]

def exportNode (c : Cursor) (key dispatch id : String) : Node :=
  .mk .exportDecl (c.spanTo (c.skip 18))
    [.mk (.variables false) ((c.skip 1).spanTo (c.skip 18))
      [.mk .declarator ((c.skip 2).spanTo (c.skip 17))
        [(c.skip 2).leaf (.bind key false), stubNode (c.skip 4) dispatch id]]]

namespace Parse

variable {s : Setting} {c : Cursor} {key dispatch id : String} {rest : List Char} {n : Nat}

theorem run_dispatchArguments (row : c.Faces (dispatchTokens dispatch id ++ [.punct ";"]) rest)
    (room : 1 < s.budget) :
    callArguments (Goal.read (n + 4)) s (c.skip 3) =
      some (.mk .arguments ((c.skip 3).spanTo (c.skip 8))
        [(c.skip 4).leaf (.text id), (c.skip 6).leaf (.use "args" false)], c.skip 8) := by
  have inside : 0 < s.inside.budget := Nat.lt_of_succ_lt room
  have opens : (c.skip 3).token = .punct "(" := row.token rfl
  have literal : (c.skip 4).token = .text id := row.token rfl
  have comma : (c.skip 5).token = .punct "," := row.token rfl
  have name : (c.skip 6).token = .name "args" false := row.token rfl
  have close : (c.skip 7).token = .punct ")" := row.token rfl
  have text : Goal.read (n + 4) .assignment s.inside (c.skip 4) =
      some ((c.skip 4).leaf (.text id), c.skip 5) :=
    read_text literal (Or.inr (Or.inl comma)) inside
  have args : Goal.read (n + 4) .assignment s.inside (c.skip 6) =
      some ((c.skip 6).leaf (.use "args" false), c.skip 7) :=
    read_use name (by decide) (Or.inl close) inside
  exact run_callArguments_two room opens (Or.inr (Or.inl ⟨id, literal⟩)) text comma
    (operand_of_isOrdinary name (by decide)) args close

theorem run_dispatch (row : c.Faces (dispatchTokens dispatch id ++ [.punct ";"]) rest)
    (room : 2 < s.budget) :
    leftHand (Goal.read (n + 4)) s c = some (dispatchNode c dispatch id, c.skip 8) := by
  have point : (c.skip 1).token = .punct "." := row.token rfl
  have name : (c.skip 2).token = .name dispatch false := row.token rfl
  have opens : (c.skip 3).token = .punct "(" := row.token rfl
  have ends : (c.skip 8).token = .punct ";" := row.token rfl
  have object : primary (Goal.read (n + 4)) s c =
      some (c.leaf (.use "globalThis" false), c.skip 1) :=
    run_primary_use row.1 (by decide) (by simp [point])
  have arguments := run_dispatchArguments (n := n) row (Nat.lt_of_succ_lt room)
  obtain ⟨k, budget⟩ : ∃ k, s.budget = k + 1 + 1 + 1 := ⟨s.budget - 3, by omega⟩
  let member : Node :=
    .mk (.member dispatch) (c.spanTo (c.skip 3)) [c.leaf (.use "globalThis" false)]
  -- The property, the call, and the semicolon that ends it.
  rw [run_leftHand (operand_of_isOrdinary row.1 (by decide)) object,
    if_neg (by simp [Cursor.leaf]), links, loop, budget,
    run_loopUpTo_more (b := member) (d := c.skip 3),
    run_loopUpTo_more (b := dispatchNode c dispatch id) (d := c.skip 8),
    run_loopUpTo_last (b := dispatchNode c dispatch id) (d := c.skip 8)]
  · simp [run_steps, ends, angleAhead, Token.isAnyOf]
  · simp [run_steps, opens, arguments, member, Node.inChain, dispatchNode, Cursor.spanTo]
  · simp [run_steps, point, run_dotted name, member, Node.inChain, linked, Cursor.skip_skip,
      Cursor.leaf, Cursor.spanTo]

theorem run_stubItems (row : c.Faces (stubTokens dispatch id ++ [.punct ";"]) rest)
    (room : 0 < s.budget) :
    parenItems (Goal.read (n + 4)) s c =
      some (([.mk .spread ((c.skip 1).spanTo (c.skip 3)) [(c.skip 2).leaf (.use "args" false)]],
        false), c.skip 4) := by
  have inside : 0 < s.inside.budget := room
  have dots : (c.skip 1).token = .punct "..." := row.token rfl
  have name : (c.skip 2).token = .name "args" false := row.token rfl
  have close : (c.skip 3).token = .punct ")" := row.token rfl
  have plain : Goal.read (n + 4) .assignment s.inside (c.skip 2) =
      some ((c.skip 2).leaf (.use "args" false), c.skip 3) :=
    read_use name (by decide) (Or.inl close) inside
  have named : Goal.read (n + 4) (.operation 0)
      { s.inside with arrowAt := some (c.skip 2).here.offset } (c.skip 2) =
        some ((c.skip 2).leaf (.use "args" false), c.skip 3) :=
    read_operation (operand_of_isOrdinary name (by decide))
      (run_leftHand_use name (by decide) (Or.inl close) inside) (Or.inl close) inside
  apply run_parenItems_one room row.1 (by simp [dots]) _ close
  exact run_parenItem_spread dots name (by decide) plain named (Or.inl close)

theorem read_stub (row : c.Faces (stubTokens dispatch id ++ [.punct ";"]) rest)
    (room : 2 < s.budget) :
    Goal.read (n + 12) .assignment s c = some (stubNode c dispatch id, c.skip 13) := by
  have opens : c.token = .punct "(" := row.1
  have arrow : (c.skip 4).token = .punct "=>" := row.token rfl
  have line : (c.skip 4).newline = false := row.newline (k := 3) (by simp [stubTokens])
  have object : (c.skip 5).token = .name "globalThis" false := row.token rfl
  have closes : (c.skip 13).token.Closes := Or.inr (Or.inr (row.token rfl))
  have sends : (c.skip 5).Faces (dispatchTokens dispatch id ++ [.punct ";"]) rest :=
    row.drop 5 (by simp [stubTokens])
  have body (s : Setting) (room : 2 < s.budget) : Goal.read (n + 8) .assignment s (c.skip 5) =
      some (dispatchNode (c.skip 5) dispatch id, c.skip 13) := by
    have call := run_dispatch (n := n) (s := { s with arrowAt := (c.skip 5).arrowAt }) sends room
    rw [Cursor.skip_skip] at call
    exact read_assignment (operand_of_isOrdinary object (by decide)) call closes (by omega)
  apply read_assignment (Or.inl opens) _ closes (by omega)
  apply run_leftHand_arrow (Or.inl opens) _ rfl
  apply run_primary_arrow opens
  · simp [Cursor.arrowAt, opens]
  · exact run_stubItems row (by simp; omega)
  · exact run_arrowAfterItems arrow line rfl (by simp [Cursor.skip_skip, object]) (body _ room)

theorem read_export (row : c.Faces (exportTokens key dispatch id) rest) (free : isFree key = true)
    (room : 2 < s.budget) :
    Goal.read (n + 13) .moduleItem s c = some (exportNode c key dispatch id, c.skip 18) := by
  have exports : c.token = .name "export" false := row.1
  have const : (c.skip 1).token = .name "const" false := row.token rfl
  have name : (c.skip 2).token = .name key false := row.token rfl
  have equals : (c.skip 3).token = .punct "=" := row.token rfl
  have ends : (c.skip 17).token = .punct ";" := row.token rfl
  have stub : (c.skip 4).Faces (stubTokens dispatch id ++ [.punct ";"]) rest :=
    row.drop 4 (by simp [exportTokens])
  have enough : 0 < s.budget := by omega
  have pattern : Goal.read (n + 12) .pattern s (c.skip 2) =
      some ((c.skip 2).leaf (.bind key false), c.skip 3) := run_bindingPattern name free
  have value : Goal.read (n + 12) .assignment s (c.skip 4) =
      some (stubNode (c.skip 4) dispatch id, c.skip 17) := by
    rw [read_stub stub room, Cursor.skip_skip]
  have declared : variableStatement (Goal.read (n + 12)) (c.skip 1).here.offset
      (.variables false) true 1 s (c.skip 1) =
        some (.mk (.variables false) ((c.skip 1).spanTo (c.skip 18))
          [.mk .declarator ((c.skip 2).spanTo (c.skip 17))
            [(c.skip 2).leaf (.bind key false), stubNode (c.skip 4) dispatch id]], c.skip 18) := by
    have word : (c.skip 1).token ≠ .invalid := by simp [const]
    have whole := run_variableStatement (c.skip 1).here.offset (.variables false) true word enough
      (run_declarator pattern equals value) ends
    rwa [Cursor.skip_skip] at whole
  exact run_moduleItem_export exports const (by decide) enough
    (run_declaration_const const name free declared)

end Parse

/-! ### The text of the statements -/

variable {g : GlobalNames}

theorem written_dispatch (named : isName g.dispatch = true) (id : String) (rest : List Char) :
    Written (' ' :: ((g.dispatchCall id "args").toList ++ ';' :: '\n' :: rest))
      (dispatchTokens g.dispatch id ++ [.punct ";"]) ('\n' :: rest) := by
  have whole : (g.dispatchCall id "args").toList ++ ';' :: '\n' :: rest =
      "globalThis".toList ++ (".".toList ++ (g.dispatch.toList ++ ("(".toList ++
        ((quoted id).toList ++ (",".toList ++ (' ' :: ("args".toList ++ (")".toList ++
          (";".toList ++ '\n' :: rest))))))))) := by
    -- By `delta`, since equations would be tried by evaluating the texts.
    delta GlobalNames.dispatchCall GlobalNames.dispatchRef
    simp only [String.toList_append, List.append_assoc]
    rfl
  rw [whole]
  refine .spaced (word_spells (by decide) (by decide) _) ?_
  refine .token (point_spells named _) ?_
  refine .token (word_spells named (by decide) _) ?_
  refine .token (mark_spells rfl (by decide) (by decide) ?_) ?_
  · simp [toList_quoted, quotedChars]
  refine .token (quoted_spells id _) ?_
  refine .token (mark_spells rfl (by decide) (by decide) rfl) ?_
  refine .spaced (word_spells (by decide) (by decide) _) ?_
  refine .token (mark_spells rfl (by decide) (by decide) rfl) ?_
  exact .token (mark_spells rfl (by decide) (by decide) rfl) (.nothing _)

theorem written_stub (named : isName g.dispatch = true) (id : String) (rest : List Char) :
    Written (' ' :: ((g.stub id).toList ++ ';' :: '\n' :: rest))
      (stubTokens g.dispatch id ++ [.punct ";"]) ('\n' :: rest) := by
  have whole : (g.stub id).toList ++ ';' :: '\n' :: rest =
      "(".toList ++ ("...".toList ++ ("args".toList ++ (")".toList ++ (' ' :: ("=>".toList ++
        (' ' :: ((g.dispatchCall id "args").toList ++ ';' :: '\n' :: rest))))))) := by
    delta GlobalNames.stub
    simp only [String.toList_append, List.append_assoc]
    rfl
  rw [whole]
  refine .spaced (mark_spells rfl (by decide) (by decide) rfl) ?_
  refine .token (mark_spells rfl (by decide) (by decide) rfl) ?_
  refine .token (word_spells (by decide) (by decide) _) ?_
  refine .token (mark_spells rfl (by decide) (by decide) rfl) ?_
  exact .spaced (mark_spells rfl (by decide) (by decide) rfl) (written_dispatch named id rest)

end Script

open Script

/-- The text of the statement that exports a function, without the end of its line. -/
def exportLine (g : GlobalNames) (f : ServerFunction) : List Char :=
  "export const ".toList ++ f.exportedName.toList ++ " = ".toList ++ (g.stub f.id).toList ++ [';']

theorem exportLine_head (g : GlobalNames) (f : ServerFunction) (rest : List Char) :
    (exportLine g f ++ rest).head? = some 'e' := by
  delta exportLine
  simp

theorem written_export {g : GlobalNames} (sends : isName g.dispatch = true) {f : ServerFunction}
    (named : isName f.exportedName = true) (rest : List Char) :
    Written (exportLine g f ++ '\n' :: rest)
      (exportTokens f.exportedName g.dispatch f.id) ('\n' :: rest) := by
  have whole : exportLine g f ++ '\n' :: rest =
      "export".toList ++ (' ' :: ("const".toList ++ (' ' :: (f.exportedName.toList ++ (' ' ::
        ("=".toList ++ (' ' :: ((g.stub f.id).toList ++ ';' :: '\n' :: rest)))))))) := by
    delta exportLine
    simp only [List.append_assoc]
    rfl
  rw [whole]
  refine .token (word_spells (by decide) (by decide) _) ?_
  refine .spaced (word_spells (by decide) (by decide) _) ?_
  refine .spaced (word_spells named (by decide) _) ?_
  exact .spaced (mark_spells rfl (by decide) (by decide) rfl) (written_stub sends f.id rest)

end ServerLink
