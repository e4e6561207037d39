import Mathlib.Algebra.Order.BigOperators.Group.List
import Mathlib.Algebra.Order.Group.Nat
import ServerLink.Proofs.Words

/-!
Renaming is over after one run. The salt puts new words into the code; as long as none of them is a
name again, no name is left as a whole word and a second run has nothing to do.
-/

set_option autoImplicit false

namespace ServerLink

open Text

namespace Text

/-- The text holds the word, with no word character beside it. -/
def HasWord (text w : List Char) : Prop :=
  ∃ left right, text = left ++ w ++ right ∧ left.getLast?.any isWordChar = false ∧
    right.head?.any isWordChar = false

theorem runs_word_append {w rest : List Char} (word : IsOneWord w)
    (ends : rest.head?.any isWordChar = false) : runs (w ++ rest) = w :: runs rest := by
  rw [runs_append (parted_of_right ends _), runs_word word]
  rfl

theorem runs_of_mem_runs {text run : List Char} (member : run ∈ runs text) : runs run = [run] :=
  List.splitBy_of_isChain (List.ne_nil_of_mem_splitBy member) (List.isChain_of_mem_splitBy member)

/-- The pieces of a text are its words and its other characters one by one. Where words are next to
each other they are one word. -/
theorem runs_spec (text : List Char) :
    (runs text).flatten = text ∧
    (∀ run ∈ runs text, IsOneWord run ∨ ∃ c, run = [c] ∧ isWordChar c = false) ∧
    (runs text).IsChain fun a b => ¬ (IsOneWord a ∧ IsOneWord b) := by
  refine ⟨List.flatten_splitBy joins text, fun run member => ?_, ?_⟩
  · induction text using wordInduction with
    | nil => simp [runs] at member
    | other c rest other ih =>
      rw [runs_cons other] at member
      rcases List.mem_cons.1 member with rfl | later
      · exact .inr ⟨c, rfl, other⟩
      · exact ih later
    | word w rest word ends ih =>
      rw [runs_word_append word ends] at member
      rcases List.mem_cons.1 member with rfl | later
      · exact .inl word
      · exact ih later
  · refine (List.isChain_getLast_head_splitBy joins text).imp ?_
    rintro a b ⟨filled, filled', apart⟩ ⟨first, second⟩
    have left : isWordChar (a.getLast filled) = true := first.2 _ (List.getLast_mem filled)
    have right : isWordChar (b.head filled') = true := second.2 _ (List.head_mem filled')
    simp [joins, left, right] at apart

theorem mem_runs_iff {text w : List Char} (word : IsOneWord w) :
    w ∈ runs text ↔ HasWord text w := by
  constructor
  · intro member
    induction text using wordInduction with
    | nil => simp [runs] at member
    | other c rest other ih =>
      have apart : w ≠ [c] := by
        rintro rfl
        simpa [other] using word.2 c
      rw [runs_cons other, List.mem_cons, or_iff_right apart] at member
      obtain ⟨left, right, rfl, begins, ends⟩ := ih member
      refine ⟨c :: left, right, rfl, ?_, ends⟩
      cases left with
      | nil => simpa using other
      | cons d left => rwa [List.getLast?_cons_cons]
    | word v rest _ parted ih =>
      rw [runs_word_append ‹_› parted] at member
      rcases List.mem_cons.1 member with rfl | later
      · exact ⟨[], rest, rfl, rfl, parted⟩
      · obtain ⟨left, right, rfl, begins, ends⟩ := ih later
        refine ⟨v ++ left, right, by simp, ?_, ends⟩
        cases left with
        | nil =>
          -- then two words would follow one another
          obtain ⟨c, cs, rfl⟩ := List.exists_cons_of_ne_nil word.1
          have first : isWordChar c = true := word.2 c (by simp)
          simp [first] at parted
        | cons d left =>
          rwa [List.getLast?_append_of_ne_nil _ (by simp)]
  · rintro ⟨left, right, rfl, begins, ends⟩
    have behind : Parted left.getLast? (w ++ right) := parted_of_left begins _
    rw [List.append_assoc, runs_append behind, runs_word_append word ends]
    simp

end Text

namespace GlobalNames

/-- No word of a salted name is a name again. -/
def Fresh (g : GlobalNames) (salt : String) : Prop :=
  ∀ name ∈ g.all, ∀ run ∈ runs (name ++ '_' :: salt.toList), run ∉ g.all

instance (g : GlobalNames) (salt : String) : Decidable (g.Fresh salt) :=
  decidable_of_iff (g.all.all fun name => (runs (name ++ '_' :: salt.toList)).all fun run =>
    !g.all.contains run) (by simp [Fresh])

variable {g : GlobalNames} {salt : String}

theorem head?_renamed (words : g.AreWords) {rest : List Char}
    (ends : rest.head?.any isWordChar = false) :
    (g.renamed salt rest).head?.any isWordChar = false := by
  cases rest with
  | nil => rfl
  | cons c rest =>
    have other : isWordChar c = false := ends
    rw [renamed_cons words other]
    exact other

-- what a word becomes has its own words, and none of them grows together with what is beside it
theorem runs_renamed (words : g.AreWords) (text : List Char) :
    runs (g.renamed salt text) = (runs text).flatMap fun run => runs (g.renamedRun salt run) := by
  induction text using wordInduction with
  | nil => rfl
  | other c rest other ih =>
    have single : runs [c] = [[c]] := rfl
    rw [renamed_cons words other, runs_cons other, ih, runs_cons other, List.flatMap_cons,
      renamedRun_other words other, single]
    rfl
  | word w rest word ends ih =>
    have split : g.renamed salt (w ++ rest) = g.renamedRun salt w ++ g.renamed salt rest := by
      rw [renamed_append (parted_of_right ends _), renamed_word word]
    rw [split, runs_append (parted_of_right (head?_renamed words ends) _), ih,
      runs_word_append word ends, List.flatMap_cons]

theorem not_mem_of_mem_runs_renamed (words : g.AreWords) (fresh : g.Fresh salt)
    {text run : List Char} (member : run ∈ runs (g.renamed salt text)) : run ∉ g.all := by
  rw [runs_renamed words] at member
  obtain ⟨old, known, inside⟩ := List.mem_flatMap.1 member
  -- the word is one of a salted name, or an old one that is no name
  by_cases name : old ∈ g.all
  · rw [renamedRun, if_pos name] at inside
    exact fresh old name run inside
  · rw [renamedRun, if_neg name, runs_of_mem_runs known, List.mem_singleton] at inside
    exact inside ▸ name

theorem renamed_eq_self {text : List Char} (nothing : ∀ run ∈ runs text, run ∉ g.all) :
    g.renamed salt text = text := by
  calc g.renamed salt text
      = (runs text).flatMap id :=
        List.flatMap_congr fun run member => if_neg (nothing run member)
    _ = text := by rw [List.flatMap_id, runs, List.flatten_splitBy]

theorem width_lt_gain {code : List Char} {e : Edit} (member : e ∈ g.renameEdits salt code) :
    e.width < e.gain := by
  obtain ⟨found, -, rfl⟩ := List.mem_map.1 member
  have new : byteLength (salted (String.ofList found.2) salt).toList =
      byteLength found.2 + byteLength ('_' :: salt.toList) := by
    simp [salted]
  have wider : 0 < byteLength ('_' :: salt.toList) := by
    rw [byteLength_cons]
    have := Char.utf8Size_pos '_'
    omega
  simp only [Edit.width, Edit.gain, new]
  omega

-- Code that renaming leaves as it is has nothing to rename.
theorem renameEdits_eq_nil (words : g.AreWords) {code : List Char}
    (same : g.renamed salt code = code) : g.renameEdits salt code = [] := by
  have scanned : Scanned g.all salt none code (g.renamed salt code) :=
    scanned_renamed words (by simp [Parted])
  rw [same] at scanned
  have put : Replaced 0 code (g.renameEdits salt code) code :=
    scanned.replaced words.solid (Nat.lt_succ_self _)
  -- every edit would make the code longer, but it is as long as before
  have account := put.byteLength_made
  by_contra some
  have longer := List.sum_lt_sum_of_ne_nil some Edit.width Edit.gain
    fun e member => width_lt_gain member
  omega

/-- Names made of word characters are renamed exactly where they are words of the code, whatever
the code is. If no word of a salted name is a name again, no name is left in what comes out, so that
renaming it once more changes nothing. Names that differ still differ. -/
theorem renamed_whole_words (words : g.AreWords) (fresh : g.Fresh salt) (code : List Char)
    (chunk : String) (maps : Bool) :
    (∃ a, g.rename salt code chunk maps = .ok a ∧
      a.code code = (runs code).flatMap (g.renamedRun salt) ∧
      (∀ name ∈ g.all, ¬ HasWord (a.code code) name) ∧
      ∀ again maps', g.rename salt (a.code code) again maps' = .ok .unchanged) ∧
    ((runs code).flatten = code ∧
      (∀ run ∈ runs code, IsOneWord run ∨ ∃ c, run = [c] ∧ isWordChar c = false) ∧
      ((runs code).IsChain fun a b => ¬ (IsOneWord a ∧ IsOneWord b)) ∧
      ∀ w, IsOneWord w → (w ∈ runs code ↔ HasWord code w)) ∧
    ∀ name other, salted name salt = salted other salt → name = other := by
  obtain ⟨a, carried, made⟩ := rename_eq words salt code chunk maps
  obtain ⟨joined, pieces, apart⟩ := runs_spec code
  have none : ∀ run ∈ runs (a.code code), run ∉ g.all := fun run member =>
    not_mem_of_mem_runs_renamed words fresh (made ▸ member)
  refine ⟨⟨a, carried, made, fun name member whole => ?_, fun again maps' => ?_⟩,
    ⟨joined, pieces, apart, fun w word => mem_runs_iff word⟩, fun name other same => ?_⟩
  · exact none name ((mem_runs_iff (words name member)).2 whole) member
  · simp [rename, renameEdits_eq_nil words (renamed_eq_self none), applyEdits]
  · simpa [salted, String.ext_iff] using same

/-- A name that goes on as another one is found behind it, and `$` belongs to no word. -/
theorem renamed_whole_words_nested :
    let g : GlobalNames := ⟨"call", "call_x", "flag"⟩
    let code := "call(call_x.call, $call, calls) call_a flag".toList
    g.AreWords ∧ g.Fresh "a$b" ∧ ∃ a, g.rename "a$b" code "c.js" false = .ok a ∧
      a.code code = "call_a$b(call_x_a$b.call_a$b, $call_a$b, calls) call_a flag_a$b".toList ∧
      g.rename "a$b" (a.code code) "c.js" true = .ok .unchanged := by
  intro g code
  have words : g.AreWords := by decide +kernel
  have fresh : g.Fresh "a$b" := by decide +kernel
  obtain ⟨⟨a, carried, made, -, again⟩, -⟩ := renamed_whole_words words fresh code "c.js" false
  exact ⟨words, fresh, a, carried, made.trans (by decide +kernel), again "c.js" true⟩

end GlobalNames

end ServerLink
