import ServerLink.Proofs.Replaced
import ServerLink.Rename

/-!
Names looked for in finished code from left to right. What becomes of the code can be told part by
part wherever no name reaches from one part into the next.
-/

set_option autoImplicit false

namespace ServerLink

open Text

section LastOf

variable {before : Option Char}

@[simp] theorem lastOf_nil (before : Option Char) : lastOf before [] = before := rfl

theorem lastOf_of_ne_nil {name : List Char} (filled : name ≠ []) (before : Option Char) :
    lastOf before name = some (name.getLast filled) := by
  rw [lastOf, List.getLast?_eq_some_getLast filled]

@[simp] theorem lastOf_append (a b : List Char) :
    lastOf before (a ++ b) = lastOf (lastOf before a) b := by
  by_cases none : b = []
  · simp [none]
  · rw [lastOf_of_ne_nil none, lastOf_of_ne_nil (by simp [none]),
      List.getLast_append_of_ne_nil _ none]

theorem lastOf_cons (c : Char) (cs : List Char) : lastOf before (c :: cs) = lastOf (some c) cs :=
  lastOf_append [c] cs

theorem lastOf_none (a : List Char) : lastOf none a = a.getLast? := by
  cases last : a.getLast? <;> simp [lastOf, last]

end LastOf

/-- The code in which each name that is found has got the salt. Whether a name stands at a place is
seen from the character before it and the code from there on. -/
inductive Scanned (names : List (List Char)) (salt : String) :
    Option Char → List Char → List Char → Prop where
  | done (before : Option Char) : Scanned names salt before [] []
  | pass {before : Option Char} {c : Char} {rest made : List Char}
      (nothing : nameAt? names before (c :: rest) = none)
      (more : Scanned names salt (some c) rest made) :
      Scanned names salt before (c :: rest) (c :: made)
  | name {before : Option Char} {name rest made : List Char} (solid : name ≠ [])
      (stands : nameAt? names before (name ++ rest) = some name)
      (more : Scanned names salt (lastOf before name) rest made) :
      Scanned names salt before (name ++ rest) (name ++ '_' :: salt.toList ++ made)

section Names

variable {names : List (List Char)} {salt : String} {before : Option Char} {rest : List Char}

theorem mem_of_nameAt? {name : List Char} (stands : nameAt? names before rest = some name) :
    name ∈ names ∧ ∃ after, name ++ after = rest := by
  have here := List.find?_some stands
  simp only [standsAt, Bool.and_eq_true, List.isPrefixOf_iff_prefix] at here
  exact ⟨List.mem_of_find?_eq_some stands, here.1.2⟩

theorem nameAt?_congr {a : Option Char} {other : List Char}
    (same : ∀ name ∈ names, standsAt a other name = standsAt before rest name) :
    nameAt? names a other = nameAt? names before rest := by
  unfold nameAt?
  induction names with
  | nil => rfl
  | cons name names ih =>
    simp only [List.find?_cons, same name (by simp),
      ih fun n member => same n (List.mem_cons_of_mem _ member)]

theorem nameAt?_eq_some {w : List Char} (member : w ∈ names)
    (stands : standsAt before rest w = true)
    (only : ∀ name ∈ names, standsAt before rest name = true → name = w) :
    nameAt? names before rest = some w := by
  cases found : nameAt? names before rest with
  | none => exact absurd stands (List.find?_eq_none.1 found w member)
  | some name =>
    rw [only name (List.mem_of_find?_eq_some found) (List.find?_some found)]

theorem nameAt?_nil (solid : [] ∉ names) : nameAt? names before [] = none := by
  cases stands : nameAt? names before [] with
  | none => rfl
  | some name =>
    obtain ⟨member, after, same⟩ := mem_of_nameAt? stands
    obtain ⟨rfl, -⟩ := List.append_eq_nil_iff.1 same
    exact absurd member solid

theorem exists_scanned (solid : [] ∉ names) (salt : String) (before : Option Char)
    (rest : List Char) : ∃ made, Scanned names salt before rest made := by
  induction size : rest.length using Nat.strong_induction_on generalizing before rest with
  | _ n ih =>
  subst size
  cases rest with
  | nil => exact ⟨[], .done before⟩
  | cons c cs =>
    cases stands : nameAt? names before (c :: cs) with
    | none =>
      obtain ⟨made, more⟩ := ih cs.length (by simp) (some c) cs rfl
      exact ⟨c :: made, .pass stands more⟩
    | some name =>
      obtain ⟨member, after, same⟩ := mem_of_nameAt? stands
      have filled : name ≠ [] := fun none => solid (none ▸ member)
      have shorter : after.length < (c :: cs).length := by
        have positive := List.length_pos_iff.2 filled
        rw [← same, List.length_append]
        omega
      obtain ⟨made, more⟩ := ih after.length shorter (lastOf before name) after rfl
      rw [← same] at stands ⊢
      exact ⟨_, .name filled stands more⟩

/-- The edit that gives a found name its salt. -/
def renameEdit (salt : String) (found : Nat × List Char) : Edit :=
  ⟨found.1, found.1 + byteLength found.2, salted (String.ofList found.2) salt⟩

theorem Scanned.replaced {made : List Char} (h : Scanned names salt before rest made)
    (solid : [] ∉ names) {fuel offset : Nat} {ended : Bool} (enough : rest.length < fuel) :
    Replaced offset rest ((findNames names fuel ended offset before rest).map (renameEdit salt))
      made := by
  obtain ⟨fuel, rfl⟩ : ∃ more, fuel = more + 1 := ⟨fuel - 1, by omega⟩
  induction h generalizing fuel offset ended with
  | done before => simpa [findNames, nameAt?_nil solid] using Replaced.rest offset []
  | @pass before c rest made nothing more ih =>
    obtain ⟨fuel, rfl⟩ : ∃ more, fuel = more + 1 :=
      ⟨fuel - 1, by simp only [List.length_cons] at enough; omega⟩
    have later : Replaced (offset + byteLength [c]) rest
        ((findNames names (fuel + 1) false (offset + c.utf8Size) (some c) rest).map
          (renameEdit salt)) made := ih fuel (by simpa using enough)
    have kept := later.keep [c]
    rw [findNames]
    simpa [nothing] using kept
  | @name before name rest made filled stands more ih =>
    obtain ⟨d, w, rfl⟩ := List.exists_cons_of_ne_nil filled
    obtain ⟨fuel, rfl⟩ : ∃ more, fuel = more + 1 :=
      ⟨fuel - 1, by simp only [List.cons_append, List.length_cons] at enough; omega⟩
    have later := @ih (offset + byteLength (d :: w)) true fuel (by
      simp only [List.cons_append, List.length_cons, List.length_append] at enough
      omega)
    have put : d :: w ++ '_' :: salt.toList =
        (renameEdit salt (offset, d :: w)).content.toList := by
      simp [renameEdit, salted]
    have dropped : (d :: w ++ rest).drop (d :: w).length = rest := List.drop_left
    rw [put, findNames]
    simp only [stands, List.map_cons, dropped]
    exact @Replaced.edit offset [] (d :: w) rest _ (renameEdit salt (offset, d :: w)) _ rfl rfl
      later

theorem mem_findNames {fuel offset : Nat} {ended : Bool} {found : Nat × List Char}
    (member : found ∈ findNames names fuel ended offset before rest) : found.2 ∈ names := by
  induction fuel generalizing ended offset before rest with
  | zero => simp [findNames] at member
  | succ fuel ih =>
    cases first : nameAt? names before rest with
    | none =>
      cases rest with
      | nil => simp [findNames, first] at member
      | cons c cs =>
        simp only [findNames, first, List.nil_append] at member
        exact ih member
    | some name =>
      have known : name ∈ names := List.mem_of_find?_eq_some first
      have here (member : found ∈ if ended then [] else [(offset, name)]) : found.2 ∈ names := by
        split at member
        · simp at member
        · simpa [List.mem_singleton.1 member] using known
      cases name with
      | nil =>
        simp only [findNames, first] at member
        cases rest with
        | nil => exact here member
        | cons c cs => exact (List.mem_append.1 member).elim here ih
      | cons c cs =>
        simp only [findNames, first] at member
        rcases List.mem_cons.1 member with rfl | later
        · exact known
        · exact ih later

/-! ### Code part by part -/

/-- What is found in the part in front does not depend on the part behind. -/
def Seam (names : List (List Char)) (a b : List Char) : Prop :=
  ∀ pre, pre <:+ a → pre ≠ [] → ∀ before, nameAt? names before (pre ++ b) = nameAt? names before pre

theorem Seam.suffix {a a' b : List Char} (seam : Seam names a b) (shorter : a' <:+ a) :
    Seam names a' b := fun pre inside => seam pre (inside.trans shorter)

theorem Scanned.append {a b made made' : List Char} (h : Scanned names salt before a made)
    (seam : Seam names a b) (more : Scanned names salt (lastOf before a) b made') :
    Scanned names salt before (a ++ b) (made ++ made') := by
  induction h with
  | done before => exact more
  | @pass before c rest made nothing _ ih =>
    have same := seam (c :: rest) (List.suffix_refl _) (by simp) before
    rw [lastOf_cons] at more
    exact .pass (same.trans nothing) (ih (seam.suffix (List.suffix_cons c rest)) more)
  | @name before name rest made filled stands _ ih =>
    have same := seam (name ++ rest) (List.suffix_refl _) (by simp [filled]) before
    rw [lastOf_append] at more
    have next := ih (seam.suffix (List.suffix_append name rest)) more
    have whole := Scanned.name filled (by rw [← List.append_assoc, same, stands]) next
    simpa only [List.append_assoc] using whole

/-- A character that belongs to no word and to no name. -/
def Outside (names : List (List Char)) (c : Char) : Prop :=
  isWordChar c = false ∧ ∀ name ∈ names, c ∉ name

theorem nameAt?_outside (solid : [] ∉ names) {c : Char} (outside : Outside names c)
    (before : Option Char) (rest : List Char) : nameAt? names before (c :: rest) = none := by
  cases stands : nameAt? names before (c :: rest) with
  | none => rfl
  | some name =>
    obtain ⟨member, after, same⟩ := mem_of_nameAt? stands
    cases name with
    | nil => exact absurd member solid
    | cons d w =>
      obtain ⟨rfl, -⟩ := List.cons.inj same
      exact absurd (by simp) (outside.2 _ member)

theorem standsAt_inside {a c : Char} {cs name : List Char} (left : isWordChar a = true)
    (right : isWordChar c = true) : standsAt (some a) (c :: cs) name = false := by
  simp [standsAt, isWordEdge, left, right]

theorem standsAt_append {pre b name : List Char} (filled : pre ≠ [])
    (short : name <+: pre ++ b → name <+: pre)
    (ends : name = pre → b.head?.any isWordChar = false) (before : Option Char) :
    standsAt before (pre ++ b) name = standsAt before pre name := by
  have head : (pre ++ b).head? = pre.head? := by
    obtain ⟨c, cs, rfl⟩ := List.exists_cons_of_ne_nil filled
    rfl
  have inside : name.isPrefixOf (pre ++ b) = name.isPrefixOf pre := by
    rw [Bool.eq_iff_iff, List.isPrefixOf_iff_prefix, List.isPrefixOf_iff_prefix]
    exact ⟨short, fun h => h.trans (List.prefix_append pre b)⟩
  simp only [standsAt, head, inside]
  by_cases stands : name <+: pre
  · obtain ⟨rest, rfl⟩ := stands
    by_cases none : rest = []
    · have other := ends (by simp [none])
      simp [none, isWordEdge, other]
    · obtain ⟨c, cs, rfl⟩ := List.exists_cons_of_ne_nil none
      simp
  · have missing : name.isPrefixOf pre = false := by
      rwa [← Bool.not_eq_true, List.isPrefixOf_iff_prefix]
    simp [missing]

theorem seam_of_right {b : List Char} (outside : ∀ c ∈ b.head?, Outside names c) (a : List Char) :
    Seam names a b := by
  intro pre _ filled before
  refine nameAt?_congr fun name member => standsAt_append filled ?_ ?_ before
  · rintro ⟨tail, same⟩
    rcases List.append_eq_append_iff.1 same with ⟨more, rfl, -⟩ | ⟨more, rfl, rest⟩
    · exact List.prefix_append name more
    · cases more with
      | nil => simp
      | cons c more =>
        have first := outside c (by simp [rest])
        exact absurd (by simp) (first.2 _ member)
  · intro _
    cases first : b.head? with
    | none => rfl
    | some c => exact (outside c first).1

theorem seam_of_left {a : List Char} (outside : ∀ c ∈ a.getLast?, Outside names c) (b : List Char) :
    Seam names a b := by
  intro pre inside filled before
  have last : a.getLast? = some (pre.getLast filled) := by
    obtain ⟨front, rfl⟩ := inside
    rw [List.getLast?_append, List.getLast?_eq_some_getLast filled]
    rfl
  refine nameAt?_congr fun name member => ?_
  have apart : pre.getLast filled ∉ name := (outside _ last).2 name member
  refine standsAt_append filled ?_ ?_ before
  · rintro ⟨tail, same⟩
    rcases List.append_eq_append_iff.1 same with ⟨more, rfl, -⟩ | ⟨more, rfl, -⟩
    · exact List.prefix_append name more
    · exact absurd (List.mem_append_left more (List.getLast_mem filled)) apart
  · rintro rfl
    exact absurd (List.getLast_mem filled) apart

theorem scanned_still {text : List Char} (nothing : ∀ x y, x ++ y = text → y ≠ [] →
    nameAt? names (lastOf before x) y = none) : Scanned names salt before text text := by
  induction text generalizing before with
  | nil => exact .done before
  | cons c cs ih =>
    refine .pass (nothing [] (c :: cs) rfl (by simp)) (ih fun x y split filled => ?_)
    have here := nothing (c :: x) y (by simp [split]) filled
    rwa [lastOf_cons] at here

-- of the character before it the code sees only whether it belongs to a word
theorem Scanned.congr {a : Option Char} {made : List Char}
    (h : Scanned names salt before rest made) (solid : [] ∉ names)
    (same : a.any isWordChar = before.any isWordChar) : Scanned names salt a rest made := by
  have stands (text : List Char) : nameAt? names a text = nameAt? names before text := by
    refine nameAt?_congr fun name member => ?_
    have filled : name ≠ [] := fun none => solid (none ▸ member)
    simp only [standsAt, isWordEdge, same, lastOf_of_ne_nil filled]
  cases h with
  | done => exact .done a
  | pass nothing more => exact .pass ((stands _).trans nothing) more
  | @name _ name rest made filled found more =>
    refine .name filled ((stands _).trans found) ?_
    rwa [lastOf_of_ne_nil filled] at more ⊢

theorem Scanned.of_outside {a : Option Char} {made : List Char}
    (h : Scanned names salt before rest made) (solid : [] ∉ names)
    (outside : ∀ c ∈ rest.head?, Outside names c) : Scanned names salt a rest made := by
  cases h with
  | done => exact .done a
  | @pass before c rest made _ more =>
    exact .pass (nameAt?_outside solid (outside c rfl) a rest) more
  | @name before name rest made filled stands more =>
    obtain ⟨c, cs, rfl⟩ := List.exists_cons_of_ne_nil filled
    have nothing := nameAt?_outside solid (outside c rfl) before (cs ++ rest)
    rw [List.cons_append, nothing] at stands
    contradiction

end Names

namespace GlobalNames

variable {g : GlobalNames} {salt : String} {code made : List Char}

-- Renaming never fails, and makes of code what is found in it.
theorem rename_of_scanned (solid : [] ∉ g.all) (h : Scanned g.all salt none code made)
    (chunk : String) (maps : Bool) :
    ∃ a, g.rename salt code chunk maps = .ok a ∧ a.code code = made := by
  have put : Replaced 0 code (g.renameEdits salt code) made :=
    h.replaced solid (Nat.lt_succ_self _)
  refine applyEdits_of_replaced put (fun e member => ?_) _
  obtain ⟨found, here, rfl⟩ := List.mem_map.1 member
  have filled : byteLength found.2 ≠ 0 := by
    rw [ne_eq, byteLength_eq_zero]
    exact fun none => solid (none ▸ mem_findNames here)
  show found.1 < found.1 + byteLength found.2
  omega

end GlobalNames

end ServerLink
