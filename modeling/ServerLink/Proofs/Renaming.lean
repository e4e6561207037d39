import ServerLink.Proofs.Registration
import ServerLink.Proofs.Words

/-!
Chunks that are renamed one by one. Renaming looks at no more than a word, so that it can be done
part by part wherever no word is cut. What chunks have to agree on, quoted identifiers and
references to the global names, stands between characters that belong to no word, and becomes the
same text in all of them.
-/

set_option autoImplicit false

namespace ServerLink

open Text

namespace GlobalNames

variable {g : GlobalNames} {salt : String}

theorem renamed_split (words : g.AreWords) {c : Char} (other : isWordChar c = false)
    (a b : List Char) :
    g.renamed salt (a ++ c :: b) = g.renamed salt a ++ c :: g.renamed salt b := by
  have right : Parted a.getLast? (c :: b) := parted_of_right (by simpa using other) _
  rw [renamed_append right, renamed_cons words other]

-- A global name by itself gets the salt.
theorem renamed_name (words : g.AreWords) {name : List Char} (member : name ∈ g.all) :
    g.renamed salt name = name ++ '_' :: salt.toList := by
  rw [renamed_word (words name member), renamedRun, if_pos member]

-- A global name between characters of no word gets the salt.
theorem renamed_between (salt : String) (words : g.AreWords) {name : List Char}
    (member : name ∈ g.all) {c d : Char} (left : isWordChar c = false)
    (right : isWordChar d = false) (a b : List Char) :
    g.renamed salt (a ++ c :: (name ++ d :: b)) =
      g.renamed salt a ++ c :: (name ++ '_' :: salt.toList ++ d :: g.renamed salt b) := by
  rw [renamed_split words left, renamed_split words right, renamed_name words member]

-- Quoted text is renamed by itself wherever it stands.
theorem renamed_quoted (salt : String) (words : g.AreWords) (s : String) (a b : List Char) :
    g.renamed salt (a ++ (quoted s).toList ++ b) =
      g.renamed salt a ++ g.renamed salt (quoted s).toList ++ g.renamed salt b := by
  have quote : isWordChar '"' = false := by decide
  have shape (xs ys : List Char) : g.renamed salt (xs ++ (quoted s).toList ++ ys) =
      g.renamed salt xs ++
        '"' :: (g.renamed salt (s.toList.flatMap escape) ++ '"' :: g.renamed salt ys) := by
    rw [← renamed_split words quote, ← renamed_split words quote]
    simp [toList_quoted, quotedChars]
  have none : g.renamed salt [] = [] := rfl
  have alone := shape [] []
  rw [none] at alone
  simp only [List.nil_append, List.append_nil] at alone
  rw [shape, alone]
  simp

def names (g : GlobalNames) : List String := [g.dispatch, g.registry, g.contextFlag]

theorem toList_mem_all {g : GlobalNames} {name : String} (member : name ∈ g.names) :
    name.toList ∈ g.all := by
  simp only [names, List.mem_cons, List.not_mem_nil, or_false] at member
  rcases member with rfl | rfl | rfl <;> simp [all]

-- A quoted identifier behind a reference to a global name.
theorem renamed_reference (salt : String) (words : g.AreWords) {name : String}
    (member : name ∈ g.names) (opens : Char) (other : isWordChar opens = false) (id : String)
    (a b : List Char) :
    g.renamed salt
        (a ++ ("globalThis.".toList ++ name.toList ++ opens :: ((quoted id).toList ++ b))) =
      g.renamed salt (a ++ "globalThis".toList) ++ '.' :: (salted name salt).toList ++
        opens :: g.renamed salt (quoted id).toList ++ g.renamed salt b := by
  have dot : isWordChar '.' = false := by decide
  have parts := renamed_between salt words (toList_mem_all member) dot other
    (a ++ "globalThis".toList) ((quoted id).toList ++ b)
  have literal := renamed_quoted salt words id [] b
  have none : g.renamed salt [] = [] := rfl
  simp only [none, List.nil_append] at literal
  rw [literal] at parts
  simpa [salted] using parts

/-- Chunks of finished code can be renamed part by part at every character that belongs to no word.
A quoted identifier becomes the same text wherever it stands: in a call that is sent to the server,
in a stub, and where the function is registered. So does a reference to a global name. -/
theorem renamed_chunks_agree (words : g.AreWords) (salt : String) :
    let chunk := g.renamed salt
    let fresh (name : String) : List Char := (salted name salt).toList
    (∀ code name maps, ∃ a, g.rename salt code name maps = .ok a ∧ a.code code = chunk code) ∧
    (∀ a b c, isWordChar c = false → chunk (a ++ c :: b) = chunk a ++ c :: chunk b) ∧
    (∀ id a b,
      chunk (a ++ (quoted id).toList ++ b) = chunk a ++ chunk (quoted id).toList ++ chunk b ∧
      chunk (a ++ (g.dispatchOpening id).toList ++ b) =
        chunk (a ++ "globalThis".toList) ++ '.' :: fresh g.dispatch ++ '(' ::
          chunk (quoted id).toList ++ ", [".toList ++ chunk b ∧
      chunk (a ++ (g.stub id).toList ++ b) =
        chunk a ++ chunk "(...args) => globalThis".toList ++ '.' :: fresh g.dispatch ++ '(' ::
          chunk (quoted id).toList ++ chunk ", args)".toList ++ chunk b ∧
      chunk (a ++ (g.slot id).toList ++ b) =
        chunk (a ++ "globalThis".toList) ++ '.' :: fresh g.registry ++ '[' ::
          chunk (quoted id).toList ++ ']' :: chunk b) ∧
    ∀ name ∈ g.names, ∀ a b, b.head?.any isWordChar = false →
      chunk (a ++ '.' :: name.toList ++ b) = chunk a ++ '.' :: fresh name ++ chunk b ∧
      (a.getLast?.any isWordChar = false → chunk (a ++ ("globalThis." ++ name).toList ++ b) =
        chunk a ++ chunk "globalThis".toList ++ '.' :: fresh name ++ chunk b) := by
  intro chunk fresh
  have split {c : Char} (other : isWordChar c = false) (a b : List Char) :
      chunk (a ++ c :: b) = chunk a ++ c :: chunk b := renamed_split words other a b
  have front {c : Char} (other : isWordChar c = false) (b : List Char) :
      chunk (c :: b) = c :: chunk b := split other [] b
  have dispatch : g.dispatch ∈ g.names := by simp [names]
  have registry : g.registry ∈ g.names := by simp [names]
  refine ⟨fun code name maps => rename_eq words salt code name maps,
    fun a b c other => split other a b,
    fun id a b => ⟨renamed_quoted salt words id a b, ?_, ?_, ?_⟩, fun name member a b ends => ?_⟩
  · have parts := renamed_reference salt words dispatch '(' (by decide) id a
      (", [".toList ++ b)
    have comma : chunk (", [".toList ++ b) = ", [".toList ++ chunk b := by
      show chunk (',' :: ' ' :: '[' :: b) = _
      rw [front (by decide), front (by decide), front (by decide)]
      rfl
    simp only [chunk] at comma ⊢
    rw [comma] at parts
    simpa [dispatchOpening, dispatchRef] using parts
  · have parts := renamed_reference salt words dispatch '(' (by decide) id
      (a ++ "(...args) => ".toList) (", args)".toList ++ b)
    have opening : chunk (a ++ "(...args) => globalThis".toList) =
        chunk a ++ chunk "(...args) => globalThis".toList :=
      renamed_append (parted_of_right (by decide) _)
    have closing : chunk (", args)".toList ++ b) = chunk ", args)".toList ++ chunk b :=
      renamed_append (parted_of_left (by decide) _)
    have joined : a ++ "(...args) => ".toList ++ "globalThis".toList =
        a ++ "(...args) => globalThis".toList := by simp
    simp only [chunk] at opening closing ⊢
    rw [closing, joined, opening] at parts
    simpa [stub, dispatchCall, dispatchRef] using parts
  · have parts := renamed_reference salt words registry '[' (by decide) id a
      (']' :: b)
    have closing : chunk (']' :: b) = ']' :: chunk b := front (by decide) b
    simp only [chunk] at closing ⊢
    rw [closing] at parts
    simpa [slot, registryRef] using parts
  · have dot : isWordChar '.' = false := by decide
    have named (a : List Char) :
        chunk (a ++ '.' :: name.toList ++ b) = chunk a ++ '.' :: fresh name ++ chunk b := by
      simp only [chunk, fresh, salted]
      rw [renamed_append (parted_of_right ends _), renamed_split words dot,
        renamed_name words (toList_mem_all member)]
      simp
    refine ⟨named a, fun begins => ?_⟩
    have object : chunk (a ++ "globalThis".toList) = chunk a ++ chunk "globalThis".toList :=
      renamed_append (parted_of_left begins _)
    rw [← object, ← named]
    simp

/-- An identifier that holds the name of a global is renamed alike in a call and in a
registration. -/
theorem renamed_chunks_agree_standard :
    let g := GlobalNames.standard
    let id := "__SERVERFN_CALL__@a.ts:1"
    g.AreWords ∧ g.renamed "s1" (quoted id).toList = "\"__SERVERFN_CALL___s1@a.ts:1\"".toList ∧
      (∃ a, g.rename "s1" (g.dispatchOpening id).toList "c.js" false = .ok a ∧
        a.code (g.dispatchOpening id).toList =
          "globalThis.__SERVERFN_CALL___s1(\"__SERVERFN_CALL___s1@a.ts:1\", [".toList) ∧
      ∃ a, g.rename "s1" (g.slot id).toList "s.js" false = .ok a ∧
        a.code (g.slot id).toList =
          "globalThis.__SERVERFN_REGISTRY___s1[\"__SERVERFN_CALL___s1@a.ts:1\"]".toList := by
  intro g id
  have words : g.AreWords := by decide +kernel
  obtain ⟨renames, -, literal, -⟩ := renamed_chunks_agree words "s1"
  refine ⟨words, by decide +kernel, ?_, ?_⟩
  · obtain ⟨a, carried, code⟩ := renames (g.dispatchOpening id).toList "c.js" false
    refine ⟨a, carried, code.trans ?_⟩
    have parts := (literal id [] []).2.1
    simp only [List.nil_append, List.append_nil] at parts
    rw [parts]
    decide +kernel
  · obtain ⟨a, carried, code⟩ := renames (g.slot id).toList "s.js" false
    refine ⟨a, carried, code.trans ?_⟩
    have parts := (literal id [] []).2.2.2
    simp only [List.nil_append, List.append_nil] at parts
    rw [parts]
    decide +kernel

end GlobalNames

end ServerLink
