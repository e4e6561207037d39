import ServerLink.Proofs.Parsing.Functions
import ServerLink.Script.Grammar.TypeExpr

/-!
Types stand where they are read.
-/

set_option autoImplicit false

namespace ServerLink.Script.Parse

open Text

variable {text : List Char} {s : Setting} {c d : Cursor} {self : Goal → Parse Node}
  (sound : Sound text self)

theorem entityName_tree (v : c.Valid text) : Ensures entityName s c (Tree text c) := by
  simp only [entityName, ensures_run, ensures_look]
  refine (anyName_takes v).mono fun name d read _ => ?_
  refine ensures_rounds read.node fun n e tree => ?_
  simp only [ensures_run]
  refine ensures_ifEat (fun dot => ?_) (ensures_pure.2 tree)
  have h := tree.takes.toReads.eaten dot
  simp only [ensures_run, ensures_look]
  split
  · rename_i named
    simp only [ensures_run]
    exact fun _ => (h.toReads.matched named).node
  · simp only [ensures_run]
    exact (anyName_takes h.valid).mono fun name f read => (h.append read.toReads).node

-- Names behind dots, which are not kept.
theorem dottedNames_reads (v : c.Valid text) :
    Ensures (loop (fun (_ : Unit) => do
      if ← eat "." then
        let _ ← anyName
        pure ((), true)
      else pure ((), false)) ()) s c fun _ => Reads text c [] := by
  refine ensures_rounds (I := fun _ => Reads text c []) v.reads fun _ d h => ?_
  simp only [ensures_run]
  refine ensures_ifEat (fun dot => ?_) (ensures_pure.2 h)
  have h := h.eaten dot
  simp only [ensures_run]
  exact (anyName_takes h.valid).mono fun _ e read => h.toReads.skip read.toReads

include sound

theorem innerType_tree (v : c.Valid text) : Ensures (innerType self) s c (Tree text c) :=
  sound .type _ _ v

theorem sameLineTypeArguments?_reads (v : c.Valid text) :
    Ensures (sameLineTypeArguments? self) s c (Reads text c) := by
  simp only [sameLineTypeArguments?, ensures_run, ensures_look]
  refine ensures_ite (fun _ => ?_) fun _ => ensures_pure.2 v.reads
  exact (typeArguments?_reads sound v).mono fun ns d read => read.1

theorem typeReference_tree (v : c.Valid text) : Ensures (typeReference self) s c (Tree text c) := by
  simp only [typeReference, ensures_run, ensures_look]
  refine (entityName_tree v).mono fun name d read => ?_
  refine (sameLineTypeArguments?_reads sound read.takes.valid).mono fun args e typed => ?_
  exact (read.takes.append typed).node (k := .typeRef)

theorem importType_completes (v : c.Valid text) (start : Nat) :
    Ensures (importType self start) s c (Completes text .typePart start [] c) := by
  simp -zeta only [importType, ensures_run, ensures_look]
  intro word opened
  have h := (v.reads.eaten word).toReads.eaten opened
  extract_lets close rest
  have closed (options : List Node) (d : Cursor) (h : Takes text c options d) :
      Ensures (close options) s d (Completes text .typePart start [] c) := by
    simp only [close, ensures_run]
    intro paren
    have h := h.toReads.eaten paren
    refine (dottedNames_reads h.valid).mono fun _ e dots => ?_
    have h := h.skip dots
    refine (sameLineTypeArguments?_reads sound h.valid).mono fun args f typed => ?_
    exact ⟨_, h.append typed, rfl⟩
  split
  · rename_i named
    simp -zeta only [ensures_run, rest]
    intro _
    have h := h.toReads.matched named
    refine ensures_ifEat (fun comma => ?_) ?_
    · have h := h.toReads.eaten comma
      simp only [ensures_run, ensures_look]
      refine ensures_ite (fun _ => ?_) fun _ => ?_
      · simpa only [ensures_run] using closed [] _ h
      · simp only [ensures_run]
        refine (sound .assignment _ _ h.valid).mono fun e d read => ?_
        have h := h.toReads.tree read
        exact (eat_reads h.valid _).mono fun _ f comma => closed _ _ (h.skip comma.1)
    · simpa only [ensures_run] using closed [] _ h
  · simp only [ensures_run]

theorem typeQuery_tree (v : c.Valid text) :
    Ensures (typeQuery self c.here.offset) s c (Tree text c) := by
  simp only [typeQuery, ensures_run, ensures_look]
  intro word
  have h := v.reads.eaten word
  refine ensures_ite (fun _ => ?_) fun _ => ?_
  · simp only [ensures_run]
    refine (importType_completes sound h.valid _).mono fun t d rest => ?_
    exact (h.toReads.complete rest).takes.node
  · simp only [ensures_run]
    refine (entityName_tree h.valid).mono fun name d read => ?_
    have h := h.toReads.tree read
    refine (sameLineTypeArguments?_reads sound h.valid).mono fun args e typed => ?_
    exact (h.append typed).node

omit sound in
-- A template is read to its end, substitutions and all.
theorem templateParts_takes {hole : Parse Node} (v : c.Valid text) (solid : c.token.isSolid = true)
    (each : ∀ s d, d.Valid text → Ensures hole s d (Tree text d)) (soundOnly : Bool) :
    Ensures (templateParts hole soundOnly) s c (Takes text c) := by
  simp -zeta only [templateParts, ensures_run, ensures_look]
  extract_lets piece
  have left (t : Tail) (s : Setting) (d : Cursor) :
      Ensures (piece t) s d fun p e => e = d ∧ Tail.LeftOf t.chars t.offset p.rest := by
    intro p e given
    obtain ⟨q, taken, same⟩ := Option.map_eq_some_iff.1 given
    obtain ⟨rfl, rfl⟩ := Prod.mk.inj same
    exact ⟨rfl, Tail.takePiece_eq_some taken⟩
  simp only [ensures_run]
  refine (left c.next s c).mono ?_
  rintro p c ⟨rfl, ahead⟩
  -- Before each round the cursor is at a solid token, and the piece is what follows it.
  refine (ensures_loop (I := fun (r : List Node × Tail.TemplatePiece) e =>
    Reads text c r.1.reverse e ∧ e.token.isSolid = true ∧
      Tail.LeftOf e.next.chars e.next.offset r.2.rest)
    (Q := fun r e => Takes text c r.1.reverse e) (a := ([], p)) ⟨v.reads, solid, ahead⟩ ?_).mono
      fun r e taken => taken
  rintro ⟨parts, p⟩ e ⟨read, solid, ahead⟩
  simp only [ensures_run, ensures_look]
  intro _
  have stands := read.valid.stands
  have h := read.moveTo (stands.left.trans ahead) (Nat.lt_of_lt_of_le (stands.lt solid) ahead.le)
    (by rintro invalid; simp [invalid, Token.isSolid] at solid)
  refine ensures_ite (fun _ => ensures_pure.2 ⟨by simp, fun _ => h⟩) fun _ => ?_
  simp only [ensures_run, ensures_look]
  refine (each _ _ h.valid).mono fun n f tree closes => ?_
  refine (left f.next s f).mono ?_
  rintro q f ⟨rfl, next⟩
  have brace : f.token = .punct "\x7d" := eq_of_beq (by simpa using closes)
  exact ⟨fun _ => ⟨h.toReads.cons tree, by rw [brace], next⟩, by simp⟩

theorem tupleElement_tree (v : c.Valid text) :
    Ensures (tupleElement self) s c fun r d => Tree text c r.1 d := by
  simp -zeta only [tupleElement, ensures_run, ensures_look]
  extract_lets label rest
  have labels : Ensures label s c fun _ d => Reads text c [] d := by
    simp only [label, ensures_run]
    refine (eat_reads v _).mono fun _ d dots => ?_
    refine (anyName_takes dots.1.valid).mono fun _ e name => ?_
    refine (eat_reads name.valid _).mono fun _ f mark colon => ?_
    exact (((dots.1.pass name).skip mark.1).toReads.eaten colon).toReads
  have after (d : Cursor) (h : Reads text c [] d) :
      Ensures (rest ()) s d fun (r : Node × Option Bool) d => Tree text c r.1 d := by
    simp only [rest, ensures_run]
    refine (eat_reads h.valid _).mono fun spread e dots => ?_
    have h := h.skip dots.1
    refine (innerType_tree sound h.valid).mono fun t f read => ?_
    have h := h.tree read
    refine ensures_either (fun _ g => Takes text c [t] g) (fun _ => ensures_pure.2 h)
      (fun _ => (eat_reads h.valid _).mono fun _ g mark => h.skip mark.1) fun optional g h => ?_
    simp only [ensures_run]
    exact h.node
  simp only [ensures_run]
  refine ensures_ite (fun _ => ?_) fun _ => after c v.reads
  simp only [ensures_run]
  exact labels.mono fun _ d h => after d h

theorem tupleTail_tree (h : Takes text c [] d) :
    Ensures (tupleTail self c.here.offset) s d (Tree text c) := by
  simp only [tupleTail, ensures_run]
  refine (ensures_rounds (I := fun (r : List Node × Bool) e => Reads text c r.1.reverse e)
    (a := ([], false)) h.toReads ?_).mono fun r e read closed => (read.eaten closed).node
  rintro ⟨parts, omitted⟩ e read
  simp only [ensures_run, ensures_look]
  refine ensures_ite (fun _ => ensures_pure.2 read) fun _ => ?_
  simp only [ensures_run, ensures_look]
  refine (tupleElement_tree sound read.valid).mono fun r f tree _ => ?_
  have read := read.cons tree
  refine ensures_ite (fun _ => ensures_pure.2 read) fun _ => ?_
  simp only [ensures_run]
  exact fun comma => (read.eaten comma).toReads

/-! ### Members of types -/

omit sound in
theorem memberEnd_reads (v : c.Valid text) : Ensures memberEnd s c fun _ => Reads text c [] := by
  simp only [memberEnd, ensures_run, ensures_look]
  refine ensures_ite (fun mark => ?_) fun _ => ?_
  · simp only [ensures_run]
    exact fun _ => (v.reads.anyOf mark).toReads
  · exact ensures_ite (fun _ => ensures_pure.2 v.reads) fun _ => ensures_fail.2 trivial

theorem typeOfParameters_tree (v : c.Valid text) :
    Ensures (typeOfParameters self) s c (Tree text c) := by
  simp only [typeOfParameters, ensures_run]
  exact (parameters_tree sound v _).mono fun ps d tree _ => tree

theorem signature_completes (v : c.Valid text) (start : Nat) (before : List Node) :
    Ensures (signature self start before) s c (Completes text .typePart start before c) := by
  simp only [signature, ensures_run, ensures_look]
  refine (typeParameters?_reads sound v .ofFunction).mono fun ts d typed => ?_
  refine (typeOfParameters_tree sound typed.valid).mono fun ps e params => ?_
  have h := typed.tree params
  refine (returnAnnotation?_reads sound h.valid).mono fun result f returned => ?_
  have h := h.append returned
  refine (memberEnd_reads h.valid).mono fun _ g ended => ?_
  have tree := (h.skip ended).node (k := .functionType)
  exact ⟨_, by simpa using tree.takes, rfl⟩

omit sound in
theorem indexSignatureAhead_stays : Ensures indexSignatureAhead s c fun _ d => d = c := by
  simp only [indexSignatureAhead, ensures_run]

theorem indexSignature_completes (v : c.Valid text) (start : Nat) :
    Ensures (indexSignature self start) s c (Completes text .indexSignature start [] c) := by
  simp only [indexSignature, ensures_run, ensures_look]
  intro opened
  have h := v.reads.eaten opened
  refine (anyName_takes h.valid).mono fun name d read => ?_
  have h := h.toReads.tree (read.node (k := .bind name false))
  refine ( typeAnnotation_tree sound h.valid).mono fun key e read closed => ?_
  have h := (h.toReads.tree read).toReads.eaten closed
  refine ( typeAnnotation?_reads sound h.valid).mono fun result f typed => ?_
  have h := h.append typed
  refine (memberEnd_reads h.valid).mono fun _ g ended => ?_
  exact ⟨_, h.skip ended, rfl⟩

theorem accessorSignature_completes (v : c.Valid text) (start : Nat) (isGetter : Bool) :
    Ensures (accessorSignature self start isGetter) s c (Completes text .typePart start [] c) := by
  simp only [accessorSignature, ensures_run, ensures_look]
  refine (propertyName_tree sound v).mono fun key d read => ?_
  have h := v.reads.tree read
  refine (typeOfParameters_tree sound h.valid).mono fun ps e params _ => ?_
  refine ensures_either (Reads text e) (fun _ => typeAnnotation?_reads sound params.takes.valid)
    (fun _ => ensures_pure.2 params.takes.valid.reads) fun result f typed => ?_
  simp only [ensures_run]
  refine (memberEnd_reads typed.valid).mono fun _ g ended => ?_
  exact ⟨_, h.toReads.tree ((params.takes.append typed).skip ended).node, rfl⟩

theorem typeMember_tree (v : c.Valid text) : Ensures (typeMember self) s c (Tree text c) := by
  simp -zeta only [typeMember, angleAhead, ensures_run, ensures_look]
  refine ensures_ite (fun _ => ?_) fun _ => ?_
  · exact (signature_completes sound v _ _).mono fun n d rest => v.reads.complete rest
  simp -zeta only [ensures_run, ensures_look]
  refine ensures_ite (fun _ => ?_) fun _ => ?_
  · simp only [ensures_run]
    intro valid
    have h := v.reads.next valid
    exact (signature_completes sound h.valid _ _).mono fun n d rest => h.complete rest
  simp -zeta only [ensures_run, ensures_look]
  extract_lets isReadonly rest
  have after (d : Cursor) (h : Reads text c [] d) : Ensures (rest ()) s d (Tree text c) := by
    simp only [rest, ensures_run]
    refine indexSignatureAhead_stays.mono ?_
    rintro b d rfl
    refine ensures_ite (fun _ => ?_) fun _ => ?_
    · exact (indexSignature_completes sound h.valid _).mono fun n e rest => h.complete rest
    simp only [ensures_run, ensures_look]
    refine ensures_ite (fun _ => ?_) fun _ => ?_
    · simp only [ensures_run]
      intro _ valid
      have h := h.next valid
      exact (accessorSignature_completes sound h.valid _ _).mono fun n e rest => h.complete rest
    simp only [ensures_run, ensures_look]
    refine (propertyName_tree sound h.valid).mono fun key e read => ?_
    have h := h.tree read
    refine (eat_reads h.valid _).mono fun _ f mark => ?_
    have h := h.skip mark.1
    refine ensures_ite (fun _ => ?_) fun _ => ?_
    · simp only [ensures_run]
      exact fun _ => (signature_completes sound h.valid _ _).mono fun n g rest =>
        h.toReads.complete rest
    · simp only [ensures_run]
      refine ( typeAnnotation?_reads sound h.valid).mono fun ann g typed => ?_
      have h := h.append typed
      exact (memberEnd_reads h.valid).mono fun _ k ended => (h.skip ended).node
  refine ensures_ite (fun _ => ?_) fun _ => after c v.reads
  simp only [ensures_run]
  exact fun valid => after _ (v.reads.next valid)

/-! ### Types -/

theorem mappedType_tree (v : c.Valid text) :
    Ensures (mappedType self c.here.offset) s c (Tree text c) := by
  simp -zeta only [mappedType, ensures_run, ensures_look]
  intro opened
  have h := (v.reads.eaten opened).toReads
  extract_lets binder
  refine ensures_mark h.valid fun d sign => ?_
  have h := h.skip sign
  simp -zeta only [binder, ensures_run, ensures_look]
  refine (eatWord_reads h.valid _).mono fun _ d readonly bracket => ?_
  have h := (h.skip readonly.1).eaten bracket
  refine (anyName_takes h.valid).mono fun name e read word => ?_
  have h := (h.toReads.tree (read.node (k := .typeBind name))).toReads.eaten word
  refine (innerType_tree sound h.valid).mono fun source f read => ?_
  have h := h.toReads.tree read
  refine (eatWord_reads h.valid _).mono fun _ g as => ?_
  have h := h.skip as.1
  extract_lets afterName
  refine ensures_maybe h.valid (fun _ => innerType_tree sound h.valid) fun renamed i read => ?_
  have h := h.append read
  simp -zeta only [afterName, ensures_run, ensures_look]
  intro bracket
  have h := (h.eaten bracket).toReads
  extract_lets ending afterKey
  have rest (e : Cursor) (mark : Reads text (.at i.next) [] e) :
      Ensures (afterKey ()) s e (Tree text c) := by
    have h := h.skip mark
    simp -zeta only [afterKey, ensures_run, ensures_look]
    refine ensures_maybe h.valid (fun _ => typeAnnotation_tree sound h.valid) fun ann i read => ?_
    have h := h.append read
    simp -zeta only [ending, ensures_run, ensures_look]
    extract_lets closing
    refine ensures_mark h.valid fun i mark => ?_
    simp only [closing, ensures_run]
    intro closed
    simpa using ((h.skip mark).eaten closed).node (k := .mappedType)
  refine ensures_ite (fun sign => ?_) fun _ => ?_
  · simp only [ensures_run]
    exact fun _ mark => rest _ ((h.valid.reads.anyOf sign).toReads.eaten mark).toReads
  · simp only [ensures_run]
    exact (eat_reads h.valid _).mono fun _ i mark => rest i mark.1

omit sound in
theorem mappedAhead_stays : Ensures mappedAhead s c fun _ d => d = c := by
  simp only [mappedAhead, ensures_run]

theorem typeLiteral_tree (v : c.Valid text) :
    Ensures (typeLiteral self c.here.offset) s c (Tree text c) := by
  simp only [typeLiteral, ensures_run]
  intro opened
  have h := v.reads.eaten opened
  refine (ensures_gather (c := c) [] h.toReads ?_).mono fun ms d read closed =>
    (read.eaten closed).node
  intro ms d read
  simp only [ensures_run, ensures_look]
  refine ensures_ite (fun _ => ensures_pure.2 read) fun _ => ?_
  simp only [ensures_run]
  exact (typeMember_tree sound read.valid).mono fun m e tree => read.cons tree

theorem inferredBound_reads (v : c.Valid text) :
    Ensures (inferredBound self) s c (Reads text c) := by
  simp only [inferredBound, ensures_run]
  refine ensures_trial ?_ (by simpa using v.reads)
  simp only [ensures_run, ensures_look]
  intro word
  have h := v.reads.eaten word
  refine (sound .type _ _ h.valid).mono fun t d read _ => ?_
  exact (h.toReads.tree read).toReads

theorem simpleType_tree (v : c.Valid text) : Ensures (simpleType self) s c (Tree text c) := by
  have leaf (solid : c.token.isSolid = true) :
      Ensures (do advance; node .typePart c.here.offset []) s c (Tree text c) := by
    simp only [ensures_run]
    exact fun _ => (v.reads.token solid).node
  simp -zeta only [simpleType, ensures_run, ensures_look]
  split
  · rename_i here
    exact leaf (by simp [here, Token.isSolid])
  · rename_i here
    exact leaf (by simp [here, Token.isSolid])
  · rename_i here
    simp only [ensures_run, ensures_look]
    intro _ _ valid
    have h := v.reads.matched here
    exact (h.append (h.valid.reads.next valid)).node
  · rename_i here
    simp only [ensures_run]
    refine (templateParts_takes v (by simp [here, Token.isSolid]) ?_ _).mono fun _ d h => h.node
    exact fun s d v => innerType_tree sound v
  · simp only [ensures_run]
    refine mappedAhead_stays.mono ?_
    rintro b _ rfl
    exact ensures_ite (fun _ => mappedType_tree sound v) fun _ => typeLiteral_tree sound v
  · rename_i here
    simp only [ensures_run]
    exact fun _ => tupleTail_tree sound (v.reads.matched here)
  · rename_i here
    simp only [ensures_run]
    intro _
    have h := v.reads.matched here
    refine (innerType_tree sound h.valid).mono fun t d read closed => ?_
    exact ((h.toReads.tree read).toReads.eaten closed).node
  · rename_i here
    have h := v.reads.matched here
    refine ensures_ite (fun _ => typeReference_tree sound v) fun _ => ?_
    refine ensures_ite (fun _ => typeQuery_tree sound v) fun _ => ?_
    refine ensures_ite (fun _ => ?_) fun _ => ?_
    · exact (importType_completes sound v _).mono fun n d rest => v.reads.complete rest
    refine ensures_ite (fun _ => leaf (by simp [here, Token.isSolid])) fun _ => ?_
    refine ensures_ite (fun _ => ?_) fun _ => ?_
    · simp only [ensures_run, ensures_look]
      refine fun _ => ensures_ite (fun is => ?_) fun _ => ensures_node.2 h.node
      simp only [ensures_run]
      intro _
      have h := h.toReads.eaten (Bool.and_eq_true_iff.1 is).1
      exact (sound .type _ _ h.valid).mono fun t d read => (h.toReads.tree read).node
    · simp only [ensures_run, ensures_look]
      refine ensures_ite (fun _ => ?_) fun _ => typeReference_tree sound v
      exact leaf (by simp [here, Token.isSolid])
  · exact ensures_fail.2 trivial

theorem arrayType_tree (v : c.Valid text) : Ensures (arrayType self) s c (Tree text c) := by
  simp only [arrayType, ensures_run, ensures_look]
  refine (simpleType_tree sound v).mono fun t d read => ?_
  refine ensures_rounds read fun t d read => ?_
  simp only [ensures_run, ensures_look]
  refine ensures_ite (fun bracket => ?_) fun _ => ensures_pure.2 read
  have h := read.takes.toReads.eaten (Bool.and_eq_true_iff.1 bracket).1
  simp only [ensures_run]
  refine fun _ => ensures_ifEat (fun closed => ?_) ?_
  · simp only [ensures_run]
    exact (h.toReads.eaten closed).node
  · simp only [ensures_run]
    refine (innerType_tree sound h.valid).mono fun i e inner closed => ?_
    exact ((h.toReads.tree inner).toReads.eaten closed).node

theorem operatorType_tree (v : c.Valid text) : Ensures (operatorType self) s c (Tree text c) := by
  simp -zeta only [operatorType, ensures_run, ensures_look]
  refine (ensures_rounds (I := fun (_ : Nat × Bool) => Reads text c []) v.reads ?_).mono ?_
  · intro r d h
    -- A word before a type is passed, and nothing else.
    have passed (r : (Nat × Bool) × Bool) :
        Ensures (do advance; pure r) s d fun _ => Reads text c [] := by
      simp only [ensures_run]
      exact fun valid => h.next valid
    have stays (r : (Nat × Bool) × Bool) : Ensures (pure r) s d fun _ => Reads text c [] :=
      ensures_pure.2 h
    simp only [ensures_run, ensures_look]
    split
    · refine ensures_ite (fun _ => ?_) fun _ => ensures_ite (fun _ => ?_) fun _ => stays _
      · simp only [ensures_run, ensures_look]
        split
        iterate 3 exact passed _
        · exact ensures_ite (fun _ => passed _) fun _ => stays _
        · exact stays _
      · simp only [ensures_run, ensures_look]
        split <;> exact stays _
    · exact stays _
  · rintro ⟨count, inferred⟩ d h
    extract_lets wrap
    have wrapped (t : Node) (e : Cursor) (read : Tree text d t e) :
        Ensures (wrap t) s e (Tree text c) := by
      refine ensures_ite (fun _ => ensures_pure.2 ⟨h.take read.takes, read.plain⟩) fun _ => ?_
      simp only [ensures_run]
      exact (h.tree read).node
    refine ensures_ite (fun _ => ?_) fun _ => ?_
    · simp only [ensures_run, ensures_look]
      intro valid
      have k := h.valid.reads.next valid
      refine (plainName_takes k.valid).mono fun name e named => ?_
      have k := k.tree (named.node (k := .typeBind name))
      exact (inferredBound_reads sound k.valid).mono fun bound f read => wrapped _ _ (k.append read).node
    · simp only [ensures_run]
      exact (arrayType_tree sound h.valid).mono wrapped

omit sound in
theorem joinedTypes_tree {sign : String} {operand : Parse Node}
    (each : ∀ c, c.Valid text → Ensures operand s c (Tree text c)) (v : c.Valid text) :
    Ensures (joinedTypes sign operand) s c (Tree text c) := by
  simp only [joinedTypes, ensures_run, ensures_look]
  refine (eat_reads v _).mono fun led d eaten => ?_
  refine (each d eaten.1.valid).mono fun first e read => ?_
  -- What is joined to the first operand comes in front of it.
  refine (ensures_rounds (I := fun ts f => ∃ more, ts = more ++ [first] ∧
    Reads text e more.reverse f) ⟨[], rfl, read.takes.valid.reads⟩ ?_).mono ?_
  · rintro _ f ⟨more, rfl, h⟩
    simp only [ensures_run]
    refine ensures_ifEat (fun sign => ?_) (ensures_pure.2 ⟨more, rfl, h⟩)
    have h := h.eaten sign
    simp only [ensures_run]
    exact (each _ h.valid).mono fun t g tree => ⟨t :: more, rfl, h.toReads.cons tree⟩
  · rintro _ f ⟨more, rfl, h⟩
    refine ensures_ite (fun _ => ?_) fun single => ?_
    · simp only [ensures_run]
      simpa using ((eaten.1.tree read).append h).node (k := .typePart)
    · obtain rfl : more = [] := by
        cases more with
        | nil => rfl
        | cons t more => simp at single
      exact ensures_pure.2 ⟨(eaten.1.take read.takes).skip h, read.plain⟩

theorem functionType_completes (v : c.Valid text) (start : Nat) :
    Ensures (functionType self start) s c (Completes text .functionType start [] c) := by
  simp only [functionType, ensures_run]
  refine (typeParameters?_reads sound v .ofFunction).mono fun ts d typed => ?_
  refine (typeOfParameters_tree sound typed.valid).mono fun ps e params arrow => ?_
  have h := (typed.tree params).toReads.eaten arrow
  refine (sound .returnType _ _ h.valid).mono fun t f read => ?_
  exact ⟨_, h.toReads.tree read, by simp⟩

theorem unconditionalType_tree (v : c.Valid text) :
    Ensures (unconditionalType self) s c (Tree text c) := by
  have function (s : Setting) (d : Cursor) (h : Reads text c [] d) :
      Ensures (functionType self c.here.offset) s d (Tree text c) :=
    (functionType_completes sound h.valid _).mono fun n e rest => h.complete rest
  have union : Ensures (joinedTypes "|" (joinedTypes "&" (operatorType self))) s c (Tree text c) :=
    joinedTypes_tree (fun c v => joinedTypes_tree (fun c v => operatorType_tree sound v) v) v
  simp only [unconditionalType, angleAhead, ensures_run, ensures_look]
  refine ensures_ite (fun _ => function s c v.reads) fun _ => ?_
  simp only [ensures_run, ensures_look]
  refine ensures_ite (fun _ => ?_) fun _ => ?_
  · simp only [ensures_run]
    exact fun valid => function s _ (v.reads.next valid)
  simp only [ensures_run, ensures_look]
  refine ensures_ite (fun _ => ?_) fun _ => ?_
  · simp only [ensures_run]
    exact fun first second => function s _ ((v.reads.next first).next second)
  simp only [ensures_run, ensures_look]
  refine ensures_ite (fun _ => ?_) fun _ => union
  simp only [ensures_run]
  exact ensures_trial ((function _ c v.reads).mono fun t d read => ensures_pure.2 read) union

theorem typeExpression_tree (v : c.Valid text) :
    Ensures (typeExpression self) s c (Tree text c) := by
  simp only [typeExpression, ensures_run, ensures_look]
  refine (unconditionalType_tree sound v).mono fun t d read => ?_
  refine ensures_ite (fun _ => ?_) fun _ => ensures_pure.2 read
  simp only [ensures_run]
  intro valid
  have h := read.takes.toReads.next valid
  refine (sound .type _ _ h.valid).mono fun bound e read mark => ?_
  have h := (h.tree read).toReads.eaten mark
  refine (innerType_tree sound h.valid).mono fun yes f read colon => ?_
  have h := (h.toReads.tree read).toReads.eaten colon
  exact (innerType_tree sound h.valid).mono fun no g read => (h.toReads.tree read).node

omit sound in
theorem typeSubject_tree (v : c.Valid text) : Ensures (do
    let s ← here
    let name ← anyName
    if name == "this" then node .typePart s [] else node (.typeUse name false) s []) s c
      (Tree text c) := by
  simp only [ensures_run, ensures_look]
  refine (anyName_takes v).mono fun name d read => ?_
  exact ensures_ite (fun _ => ensures_node.2 read.node) fun _ => ensures_node.2 read.node

theorem returnType_tree (v : c.Valid text) : Ensures (returnType self) s c (Tree text c) := by
  simp -zeta only [returnType, ensures_run, ensures_look]
  extract_lets sameLineName subject
  have type (s : Setting) (d : Cursor) (x : Node) (h : Reads text c [x] d) :
      Ensures (do let t ← self .type; node .typePart c.here.offset [x, t]) s d (Tree text c) := by
    simp only [ensures_run]
    exact (sound .type _ _ h.valid).mono fun t e read => (h.tree read).node
  simp only [ensures_run, ensures_look]
  refine ensures_ite (fun _ => ?_) fun _ => ?_
  · simp only [ensures_run]
    intro valid
    have h := v.reads.next valid
    refine (typeSubject_tree h.valid).mono fun x d read => ?_
    have h := h.tree read
    refine ensures_ifEatWord (fun is => ?_) (ensures_node.2 h.node)
    exact type s _ x (h.toReads.eaten is).toReads
  simp only [ensures_run, ensures_look]
  split
  · refine ensures_ite (fun _ => ?_) fun _ => sound .type _ _ v
    simp only [ensures_bind]
    refine (typeSubject_tree v).mono fun x d read => ensures_advance.2 fun valid => ?_
    exact ensures_bind.1 (type s _ x (read.takes.toReads.next valid))
  · exact sound .type _ _ v

end ServerLink.Script.Parse
