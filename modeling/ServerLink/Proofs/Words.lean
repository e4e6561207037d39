import Mathlib.Data.List.SplitBy
import ServerLink.Proofs.Finds

/-!
Finished code word by word. Names that are made of word characters are found exactly where they are
words of the text, so that renaming gives each word its new name by itself.
-/

set_option autoImplicit false

namespace ServerLink

open Text

namespace Text

/-- Both characters belong to one word. -/
def joins (a b : Char) : Bool := isWordChar a && isWordChar b

/-- A text cut into its words, each as long as it can be, and the characters between them. -/
def runs (text : List Char) : List (List Char) := text.splitBy joins

/-- A nonempty text of word characters. -/
def IsOneWord (w : List Char) : Prop := w ≠ [] ∧ ∀ c ∈ w, isWordChar c = true

instance (w : List Char) : Decidable (IsOneWord w) :=
  decidable_of_iff (!w.isEmpty && w.all isWordChar) (by simp [IsOneWord])

/-- No word reaches over the place between a character and a text behind it. -/
def Parted (before : Option Char) (rest : List Char) : Prop :=
  ∀ a ∈ before, ∀ b ∈ rest.head?, joins a b = false

theorem runs_append {a b : List Char} (parted : Parted a.getLast? b) :
    runs (a ++ b) = runs a ++ runs b :=
  List.splitBy_append parted

theorem runs_word {w : List Char} (word : IsOneWord w) : runs w = [w] := by
  refine List.splitBy_of_isChain word.1 (List.Pairwise.isChain ?_)
  refine (List.pairwise_of_forall fun _ _ => trivial : w.Pairwise fun _ _ => True).imp_of_mem ?_
  intro a b first second _
  simp [joins, word.2 a first, word.2 b second]

theorem parted_of_left {before : Option Char} (other : before.any isWordChar = false)
    (rest : List Char) : Parted before rest := by
  intro a last b _
  have : isWordChar a = false := by simpa [Option.mem_def.1 last] using other
  simp [joins, this]

theorem runs_cons {c : Char} (other : isWordChar c = false) (rest : List Char) :
    runs (c :: rest) = [c] :: runs rest :=
  runs_append (parted_of_left (by simpa using other) rest : Parted [c].getLast? rest)

theorem parted_of_right {rest : List Char} (other : rest.head?.any isWordChar = false)
    (before : Option Char) : Parted before rest := by
  intro a _ b first
  have : isWordChar b = false := by simpa [Option.mem_def.1 first] using other
  simp [joins, this]

-- Where a word ends, no word character follows.
theorem head?_dropWhile_word (text : List Char) :
    (text.dropWhile isWordChar).head?.any isWordChar = false := by
  cases rest : text.dropWhile isWordChar with
  | nil => rfl
  | cons c cs =>
    have some : text.dropWhile isWordChar ≠ [] := by simp [rest]
    simpa [rest] using List.head_dropWhile_not isWordChar some

theorem takeWhile_word {w rest : List Char} (word : IsOneWord w)
    (ends : rest.head?.any isWordChar = false) : (w ++ rest).takeWhile isWordChar = w := by
  rw [List.takeWhile_append_of_pos word.2]
  cases rest with
  | nil => simp
  | cons c cs =>
    have other : isWordChar c = false := ends
    simp [List.takeWhile, other]

theorem isOneWord_takeWhile {c : Char} {cs : List Char} (word : isWordChar c = true) :
    IsOneWord ((c :: cs).takeWhile isWordChar) :=
  ⟨by simp [word], List.all_eq_true.1 List.all_takeWhile⟩

-- Texts are made of words and of characters that belong to none.
theorem wordInduction {motive : List Char → Prop} (nil : motive [])
    (other : ∀ c rest, isWordChar c = false → motive rest → motive (c :: rest))
    (word : ∀ w rest, IsOneWord w → rest.head?.any isWordChar = false → motive rest →
      motive (w ++ rest)) (text : List Char) : motive text := by
  induction size : text.length using Nat.strong_induction_on generalizing text with
  | _ n ih =>
  subst size
  cases text with
  | nil => exact nil
  | cons c cs =>
    by_cases begins : isWordChar c = true
    case neg => exact other c cs (by simpa using begins) (ih cs.length (by simp) cs rfl)
    have first : IsOneWord ((c :: cs).takeWhile isWordChar) := isOneWord_takeWhile begins
    have shorter : ((c :: cs).dropWhile isWordChar).length < (c :: cs).length := by
      have split := congrArg List.length
        (List.takeWhile_append_dropWhile (p := isWordChar) (l := c :: cs))
      have positive := List.length_pos_iff.2 first.1
      rw [List.length_append] at split
      omega
    have whole := word _ _ first (head?_dropWhile_word (c :: cs)) (ih _ shorter _ rfl)
    rwa [List.takeWhile_append_dropWhile] at whole

end Text

/-! ### Names as words -/

section Names

variable {names : List (List Char)} {before : Option Char} {rest : List Char}

theorem lastOf_word {name : List Char} (word : IsOneWord name) (before : Option Char) :
    (lastOf before name).any isWordChar = true := by
  rw [lastOf, List.getLast?_eq_some_getLast word.1]
  exact word.2 _ (List.getLast_mem word.1)

-- Where a word may begin, a name stands exactly if it is the word that begins there.
theorem standsAt_iff {name : List Char} (word : IsOneWord name) (parted : Parted before rest) :
    standsAt before rest name = true ↔ name = rest.takeWhile isWordChar := by
  simp only [standsAt, isWordEdge, lastOf_word word, Bool.and_eq_true, bne_iff_ne, ne_eq,
    List.isPrefixOf_iff_prefix, Bool.true_eq, Bool.not_eq_true]
  constructor
  · rintro ⟨⟨-, after, rfl⟩, ends⟩
    rw [List.drop_left] at ends
    exact (takeWhile_word word ends).symm
  · rintro rfl
    have split : rest.takeWhile isWordChar ++ rest.dropWhile isWordChar = rest :=
      List.takeWhile_append_dropWhile
    have dropped : rest.drop (rest.takeWhile isWordChar).length = rest.dropWhile isWordChar := by
      conv => lhs; arg 2; rw [← split]
      exact List.drop_left
    refine ⟨⟨?_, List.takeWhile_prefix _⟩, dropped ▸ head?_dropWhile_word rest⟩
    cases rest with
    | nil => simp [IsOneWord] at word
    | cons c cs =>
      have begins : isWordChar c = true := by
        by_contra other
        simp [IsOneWord, other] at word
      cases before with
      | none => simp [begins]
      | some a => simpa [joins, Parted, begins] using parted

theorem nameAt?_eq (words : ∀ n ∈ names, IsOneWord n) (parted : Parted before rest) :
    nameAt? names before rest =
      if rest.takeWhile isWordChar ∈ names then some (rest.takeWhile isWordChar) else none := by
  split
  · rename_i member
    exact nameAt?_eq_some member ((standsAt_iff (words _ member) parted).2 rfl)
      fun n here stands => (standsAt_iff (words n here) parted).1 stands
  · rename_i other
    refine List.find?_eq_none.2 fun n member stands => ?_
    exact other ((standsAt_iff (words n member) parted).1 stands ▸ member)

end Names

namespace GlobalNames

/-- The names are made of word characters only. -/
def AreWords (g : GlobalNames) : Prop := ∀ name ∈ g.all, IsOneWord name

instance (g : GlobalNames) : Decidable g.AreWords :=
  decidable_of_iff (g.all.all fun name => decide (IsOneWord name)) (by simp [AreWords])

variable {g : GlobalNames} {salt : String}

/-- What becomes of one word. -/
def renamedRun (g : GlobalNames) (salt : String) (run : List Char) : List Char :=
  if run ∈ g.all then run ++ '_' :: salt.toList else run

/-- The text with each of its words renamed by itself. -/
def renamed (g : GlobalNames) (salt : String) (text : List Char) : List Char :=
  (runs text).flatMap (g.renamedRun salt)

theorem renamed_append {a b : List Char} (parted : Parted a.getLast? b) :
    g.renamed salt (a ++ b) = g.renamed salt a ++ g.renamed salt b := by
  simp only [renamed, runs_append parted, List.flatMap_append]

theorem renamed_word {w : List Char} (word : IsOneWord w) :
    g.renamed salt w = g.renamedRun salt w := by
  simp [renamed, runs_word word]

theorem renamedRun_other (words : g.AreWords) {c : Char} (other : isWordChar c = false) :
    g.renamedRun salt [c] = [c] :=
  if_neg fun member => by simpa [other] using (words _ member).2 c

theorem renamed_cons (words : g.AreWords) {c : Char} (other : isWordChar c = false)
    (rest : List Char) : g.renamed salt (c :: rest) = c :: g.renamed salt rest := by
  rw [renamed, runs_cons other, List.flatMap_cons, renamedRun_other words other]
  rfl

/-- A run becomes what it should if it is found where it is a name, and nothing is found in it where
it is none. -/
theorem scanned_run {before : Option Char} {run : List Char} (filled : run ≠ [])
    (found : run ∈ g.all → nameAt? g.all before run = some run)
    (nothing : run ∉ g.all → ∀ x y, x ++ y = run → y ≠ [] →
      nameAt? g.all (lastOf before x) y = none) :
    Scanned g.all salt before run (g.renamedRun salt run) := by
  by_cases member : run ∈ g.all
  · have whole : Scanned g.all salt before (run ++ []) (run ++ '_' :: salt.toList ++ []) :=
      .name filled (by rw [List.append_nil, found member]) (.done _)
    simpa [renamedRun, member] using whole
  · rw [renamedRun, if_neg member]
    exact scanned_still (nothing member)

theorem AreWords.solid (words : g.AreWords) : [] ∉ g.all := fun member => (words _ member).1 rfl

theorem AreWords.outside (words : g.AreWords) {c : Char} (other : isWordChar c = false) :
    Outside g.all c := by
  refine ⟨other, fun name member inside => ?_⟩
  simp [(words name member).2 c inside] at other

theorem scanned_word (words : g.AreWords) {before : Option Char} {w : List Char}
    (parted : Parted before w) (word : IsOneWord w) :
    Scanned g.all salt before w (g.renamedRun salt w) := by
  have first := nameAt?_eq words parted
  have taken : w.takeWhile isWordChar = w := by
    have whole : (w ++ []).takeWhile isWordChar = w := takeWhile_word word rfl
    rwa [List.append_nil] at whole
  rw [taken] at first
  apply scanned_run word.1
  · intro member
    rwa [if_pos member] at first
  · intro member x y split filled
    rw [if_neg member] at first
    by_cases begins : x = []
    · obtain rfl : y = w := by simpa [begins] using split
      simpa [begins] using first
    · -- inside the word no name stands
      obtain ⟨c, cs, rfl⟩ := List.exists_cons_of_ne_nil filled
      have left : isWordChar (x.getLast begins) = true :=
        word.2 _ (split ▸ List.mem_append_left _ (List.getLast_mem begins))
      have right : isWordChar c = true := word.2 c (by simp [← split])
      rw [lastOf_of_ne_nil begins]
      exact List.find?_eq_none.2 fun n _ => by simp [standsAt_inside left right]

theorem scanned_other (words : g.AreWords) {before : Option Char} {c : Char}
    (other : isWordChar c = false) : Scanned g.all salt before [c] [c] := by
  exact .pass (nameAt?_outside words.solid (words.outside other) before []) (.done _)

-- Where a word may begin, the code is renamed word by word.
theorem scanned_renamed (words : g.AreWords) {before : Option Char} {rest : List Char}
    (parted : Parted before rest) : Scanned g.all salt before rest (g.renamed salt rest) := by
  induction rest using wordInduction generalizing before with
  | nil => exact .done before
  | other c rest other ih =>
    have outside : ∀ d ∈ [c].getLast?, Outside g.all d := by simpa using words.outside other
    have left : Parted (some c) rest := parted_of_left (by simpa using other) rest
    have alone : Scanned g.all salt before [c] [c] := scanned_other words other
    rw [renamed_cons words other]
    exact alone.append (seam_of_left outside rest) (ih left)
  | word w rest word ends ih =>
    have first : Scanned g.all salt before w (g.renamedRun salt w) := by
      refine scanned_word words ?_ word
      obtain ⟨c, cs, rfl⟩ := List.exists_cons_of_ne_nil word.1
      simpa [Parted] using parted
    have outside : ∀ c ∈ rest.head?, Outside g.all c := by
      intro c begins
      refine words.outside ?_
      simpa [Option.mem_def.1 begins] using ends
    have whole := first.append (seam_of_right outside w) (ih (parted_of_right ends _))
    rwa [renamed_append (parted_of_right ends _), renamed_word word]

-- Renaming never fails, and gives each word its new name by itself.
theorem rename_eq (words : g.AreWords) (salt : String) (code : List Char) (chunk : String)
    (maps : Bool) :
    ∃ a, g.rename salt code chunk maps = .ok a ∧ a.code code = g.renamed salt code :=
  rename_of_scanned words.solid (scanned_renamed words (by simp [Parted])) chunk maps

end GlobalNames

end ServerLink
