import ServerLink.Proofs.Spelling.Expressions

/-!
Statements that are read as they are spelled: the export of a constant with its value.
-/

set_option autoImplicit false

namespace ServerLink.Script

theorem Node.annotated_nil (n : Node) : n.annotated [] = n := by
  cases n
  simp [Node.annotated, Node.start, Node.stop, Node.kind, Node.span, Node.parts]

namespace Parse

variable {self : Goal → Parse Node} {s : Setting} {c d f : Cursor} {p v : Node} {w : String}

/-! ### Constants -/

theorem run_bindingPattern (token : c.token = .name w false) (free : isFree w = true) :
    bindingPattern self s c = some (c.leaf (.bind w false), c.skip 1) := by
  have name : plainName s c = some (w, c.skip 1) := run_plainName token free
  simp only [isFree, isFixedName, Bool.not_eq_true', Bool.or_eq_false_iff] at free
  obtain ⟨-, eval, arguments⟩ := free
  simp [bindingPattern, bindingName, run_steps, token, name, eval, arguments, Cursor.leaf,
    Cursor.spanTo]

theorem run_declarator {place : VariablePlace} {needed : Bool}
    (pattern : self .pattern s c = some (p, d)) (equals : d.token = .punct "=")
    (value : self .assignment s (d.skip 1) = some (v, f)) :
    declarator self place needed s c = some (.mk .declarator (c.spanTo f) [p, v], f) := by
  cases types : s.typed
  all_goals
    simp [declarator, typeAnnotation?, run_steps, pattern, equals, types, value,
      Node.annotated_nil, Cursor.spanTo]

theorem run_variableStatement (start : Nat) (kind : Kind) (needed : Bool)
    (word : c.token ≠ .invalid) (room : 0 < s.budget)
    (declared : declarator self .list needed s (c.skip 1) = some (v, d))
    (ends : d.token = .punct ";") :
    variableStatement self start kind needed 1 s c =
      some (.mk kind ⟨start, (d.skip 1).lastStop⟩ [v], d.skip 1) := by
  have only : declarators self .list needed s (c.skip 1) = some ([v], d) := by
    simp only [declarators, run_steps]
    rw [run_loop_last (b := [v]) (d := d) room]
    · rfl
    · simp [run_steps, declared, ends]
  simp [variableStatement, skipWords, semicolon, run_steps, run_advance word, only, ends]

theorem run_declaration_const {start : Nat} {ds : List Node}
    (const : c.token = .name "const" false) (name : (c.skip 1).token = .name w false)
    (free : isFree w = true)
    (declared : variableStatement self start (.variables false) true 1 s c = some (v, d)) :
    declaration? self start ds s c = some (some v, d) := by
  -- Behind `const`, the word `enum` would begin something else.
  have enum : w ≠ "enum" := by
    rintro rfl
    revert free
    decide
  cases types : s.typed
  all_goals
    simp [declaration?, functionDecl?, ambientAhead, typeDeclaration?, variableWords, run_steps,
      const, name, enum, types, declared]

/-! ### Exports -/

theorem run_decorators_none (none : c.token ≠ .punct "@") (room : 0 < s.budget) :
    decorators self s c = some ([], c) := by
  simp only [decorators, run_steps]
  rw [run_loop_last (b := []) (d := c) room]
  · rfl
  · simp [run_steps, none]

theorem run_moduleItem_export (exports : c.token = .name "export" false)
    (word : (c.skip 1).token = .name w false) (plain : w ∉ ["default", "as", "import", "type"])
    (room : 0 < s.budget)
    (declared : declaration? self (c.skip 1).here.offset [] s (c.skip 1) = some (some v, d)) :
    moduleItem self s c = some (.mk .exportDecl (c.spanTo d) [v], d) := by
  have bare : decorators self s (c.skip 1) = some ([], c.skip 1) :=
    run_decorators_none (by simp [word]) room
  simp only [List.mem_cons, not_or] at plain
  obtain ⟨default, as, imports, type, -⟩ := plain
  cases types : s.typed
  all_goals
    simp [moduleItem, exportItem, typedExport?, run_steps, run_expectWord, exports, word, default,
      as, imports, type, types, bare, declared, Cursor.spanTo]

end Parse

end ServerLink.Script
