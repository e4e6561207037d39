import ServerLink.Proofs.LineEnds.Scanning

/-!
Numbers, punctuation and whole tokens of a text whose lines end in a carriage return and a line
feed. A token reads the same in both texts.
-/

set_option autoImplicit false

namespace ServerLink.Script

open Text

namespace Tail

/-! ### Numbers -/

section Numbers

variable {isDigit : Char → Bool} (ends : isDigit '\n' = false ∧ isDigit '\r' = false)
  (size : Nat) (cs : List Char)

/-- The same number, and what follows it with carriage returns. -/
def NumberRead.widen (read : NumberRead) : NumberRead := read.map fun r => (r.1, crlf r.2)

include ends in
theorem digitRun_crlf :
    digitRun isDigit (crlf cs) = ((digitRun isDigit cs).1, crlf (digitRun isDigit cs).2) :=
  span_crlf (by simp [ends]) cs

include ends in
theorem digits_crlf : digits isDigit size (crlf cs) = (digits isDigit size cs).widen := by
  simp only [digits, digitRun_crlf ends]
  split <;> rfl

theorem decimal_lineEnd : Char.isDigit '\n' = false ∧ Char.isDigit '\r' = false := by decide

theorem takeExponent_crlf : takeExponent size (crlf cs) = (takeExponent size cs).widen := by
  fun_cases takeExponent size cs with
  | case1 | case2 | case3 | case4 => simp [crlf, takeExponent, digits_crlf decimal_lineEnd]
  | case5 cs plus minus =>
    rw [crlf_cons (by decide), takeExponent.eq_5 _ _ (crlf_begins ['+'] (by decide) plus)
      (crlf_begins ['-'] (by decide) minus), digits_crlf decimal_lineEnd]
  | case6 cs plus minus =>
    rw [crlf_cons (by decide), takeExponent.eq_6 _ _ (crlf_begins ['+'] (by decide) plus)
      (crlf_begins ['-'] (by decide) minus), digits_crlf decimal_lineEnd]
  | case7 cs plus minus plus' minus' mark mark' =>
    rw [takeExponent.eq_7 _ _ (crlf_begins ['e', '+'] (by decide) plus)
      (crlf_begins ['e', '-'] (by decide) minus) (crlf_begins ['E', '+'] (by decide) plus')
      (crlf_begins ['E', '-'] (by decide) minus') (crlf_begins ['e'] (by decide) mark)
      (crlf_begins ['E'] (by decide) mark')]
    rfl

include ends in
theorem takeBased_crlf : takeBased isDigit (crlf cs) = (takeBased isDigit cs).widen := by
  rw [takeBased, digits_crlf ends]
  fun_cases takeBased isDigit cs with
  | case1 size rest read => simp [read, NumberRead.widen, crlf]
  | case2 plain =>
    split
    · rename_i size rest read
      simp only [NumberRead.widen, Option.map_eq_some_iff, Prod.mk.injEq] at read
      obtain ⟨⟨size, after⟩, read, rfl, same⟩ := read
      obtain ⟨es, rfl, -⟩ := crlf_eq_cons (by decide) same
      exact absurd read (plain size es)
    · rfl

theorem takeDecimal_crlf : takeDecimal (crlf cs) = (takeDecimal cs).widen := by
  rw [takeDecimal, digitRun_crlf decimal_lineEnd]
  fun_cases takeDecimal cs with
  | case1 run rest read size unsound =>
    simp only [read]
    rw [if_pos unsound]
    rfl
  | case2 run size sound rest read =>
    simp only [read]
    rw [if_neg sound]
    rfl
  | case3 run size sound rest fraction after read whole point =>
    simp only [point]
    rw [if_neg sound, crlf_cons (by decide)]
    simp [digitRun_crlf decimal_lineEnd, read, whole, takeExponent_crlf, size]
  | case4 run size sound rest fraction after read whole point =>
    simp only [point]
    rw [if_neg sound, crlf_cons (by decide)]
    simp [digitRun_crlf decimal_lineEnd, read, whole, NumberRead.widen]
  | case5 run rest read size sound big point =>
    simp only [read]
    rw [if_neg sound, ← takeExponent_crlf]
    split
    next same => exact (crlf_begins ['n'] (by decide) big _ same).elim
    next same => exact (crlf_begins ['.'] (by decide) point _ same).elim
    next => rfl

theorem takeFraction_crlf : takeFraction (crlf cs) = (takeFraction cs).widen := by
  rw [takeFraction, digits_crlf decimal_lineEnd, takeFraction]
  cases digits Char.isDigit 1 cs with
  | none => rfl
  | some read => exact takeExponent_crlf ..

theorem endsNumber_crlf : endsNumber (crlf cs) = endsNumber cs := by
  cases cs with
  | nil => rfl
  | cons c cs =>
    by_cases feed : c = '\n'
    · subst feed
      have name : isNameStart '\n' = false ∧ isNameStart '\r' = false := by decide
      simp [endsNumber, name, decimal_lineEnd]
    · rw [crlf_cons feed]
      rfl

theorem takeNumber_crlf : takeNumber (crlf cs) = (takeNumber cs).widen := by
  have filter (read : NumberRead) : read.widen.filter (fun r => endsNumber r.2) =
      NumberRead.widen (read.filter fun r => endsNumber r.2) := by
    cases read with
    | none => rfl
    | some r =>
      simp only [NumberRead.widen, Option.map_some, Option.filter_some, endsNumber_crlf]
      split <;> rfl
  have hex : isHex '\n' = false ∧ isHex '\r' = false := by decide
  have octal : (fun c => decide ('0' ≤ c) && decide (c ≤ '7')) '\n' = false ∧
      (fun c => decide ('0' ≤ c) && decide (c ≤ '7')) '\r' = false := by decide
  have binary : (fun c : Char => c == '0' || c == '1') '\n' = false ∧
      (fun c : Char => c == '0' || c == '1') '\r' = false := by decide
  have marked (p : List Char) (line : '\n' ∉ p ∧ '\r' ∉ p) {ds : List Char} :=
    @crlf_eq_append p cs ds line
  unfold takeNumber
  refine Eq.trans (congrArg (Option.filter _) ?_) (filter _)
  split
  next same =>
    obtain ⟨es, rfl, rfl⟩ := marked ['0', 'x'] (by decide) same
    exact takeBased_crlf hex es
  next same =>
    obtain ⟨es, rfl, rfl⟩ := marked ['0', 'X'] (by decide) same
    exact takeBased_crlf hex es
  next same =>
    obtain ⟨es, rfl, rfl⟩ := marked ['0', 'o'] (by decide) same
    exact takeBased_crlf octal es
  next same =>
    obtain ⟨es, rfl, rfl⟩ := marked ['0', 'O'] (by decide) same
    exact takeBased_crlf octal es
  next same =>
    obtain ⟨es, rfl, rfl⟩ := marked ['0', 'b'] (by decide) same
    exact takeBased_crlf binary es
  next same =>
    obtain ⟨es, rfl, rfl⟩ := marked ['0', 'B'] (by decide) same
    exact takeBased_crlf binary es
  next same =>
    obtain ⟨es, rfl, rfl⟩ := marked ['.'] (by decide) same
    exact takeFraction_crlf es
  next x1 x2 x3 x4 x5 x6 x7 =>
    rw [takeDecimal_crlf]
    split
    next => exact (x1 _ rfl).elim
    next => exact (x2 _ rfl).elim
    next => exact (x3 _ rfl).elim
    next => exact (x4 _ rfl).elim
    next => exact (x5 _ rfl).elim
    next => exact (x6 _ rfl).elim
    next => exact (x7 _ rfl).elim
    next => rfl

end Numbers

/-! ### Tokens -/

theorem isPrefixOf_crlf {p : List Char} (line : '\n' ∉ p ∧ '\r' ∉ p) (cs : List Char) :
    p.isPrefixOf (crlf cs) = p.isPrefixOf cs := by
  rw [Bool.eq_iff_iff, List.isPrefixOf_iff_prefix, List.isPrefixOf_iff_prefix]
  constructor
  · rintro ⟨ds, same⟩
    obtain ⟨es, rfl, -⟩ := crlf_eq_append line same.symm
    exact ⟨es, rfl⟩
  · rintro ⟨es, rfl⟩
    exact ⟨crlf es, by rw [crlf_append, crlf_eq_self line.1]⟩

theorem punctuation_line : ∀ entry ∈ punctuation, '\n' ∉ entry.1 ∧ '\r' ∉ entry.1 := by decide

theorem head_isDigit_crlf (cs : List Char) :
    (crlf cs).head?.any Char.isDigit = cs.head?.any Char.isDigit := by
  cases cs with
  | nil => rfl
  | cons c cs =>
    by_cases feed : c = '\n'
    · subst feed
      simp [decimal_lineEnd]
    · rw [crlf_cons feed]
      rfl

-- What is behind characters of one byte that end no line.
theorem behind_crlf {text : List Char} {t : Tail} (h : Of text t) {p rest : List Char}
    (split : t.chars = p ++ rest) (line : '\n' ∉ p) (small : ∀ c ∈ p, c.utf8Size = 1) :
    (⟨(crlf t.chars).drop p.length, crlfOffset text t.offset + p.length⟩ : Tail) =
      Tail.widen text ⟨t.chars.drop p.length, t.offset + p.length⟩ := by
  obtain ⟨chars, o⟩ := t
  simp only at split
  subst split
  have offset := h.offset
  rw [crlf_eq_self line, byteLength_of_sizes small] at offset
  rw [crlf_append, crlf_eq_self line, List.drop_left, widen, List.drop_left, offset]

theorem find?_lineFeed (cs : List Char) :
    (punctuation.find? fun (p, _) => p.isPrefixOf ('\n' :: cs)) = none := by
  refine List.find?_eq_none.2 fun entry member begins => ?_
  have line := (punctuation_line entry member).1
  obtain ⟨rest, split⟩ := List.isPrefixOf_iff_prefix.1 begins
  obtain ⟨c, p, same⟩ := List.exists_cons_of_ne_nil (punctuation_sound entry member).2.1
  rw [same, List.cons_append, List.cons.injEq] at split
  exact line (by simp [same, split.1])

theorem takePunct_lineFeed (cs : List Char) (o : Nat) : takePunct ⟨'\n' :: cs, o⟩ = none := by
  simp [takePunct, find?_lineFeed]

theorem find?_crlf (cs : List Char) :
    (punctuation.find? fun (p, _) => p.isPrefixOf (crlf cs)) =
      punctuation.find? fun (p, _) => p.isPrefixOf cs := by
  rw [← List.head?_filter, ← List.head?_filter]
  refine congrArg List.head? (List.filter_congr fun entry member => ?_)
  exact isPrefixOf_crlf (punctuation_line entry member) cs

theorem takePunct_crlf {text : List Char} {t : Tail} (h : Of text t) :
    takePunct (t.widen text) = (takePunct t).map fun r => (r.1, r.2.widen text) := by
  have comment : '\n' ∉ "<!--".toList ∧ '\r' ∉ "<!--".toList := by decide
  simp only [takePunct, widen, find?_crlf]
  simp only [Option.bind_eq_bind, Option.map_bind]
  refine Option.bind_congr fun entry found => ?_
  obtain ⟨cs, s⟩ := entry
  have line := punctuation_line _ (List.mem_of_find?_eq_some found)
  obtain ⟨spelled, -, small⟩ := punctuation_sound _ (List.mem_of_find?_eq_some found)
  have first : cs <+: t.chars := by simpa using List.find?_some found
  obtain ⟨rest, split⟩ := first
  have behind := behind_crlf h split.symm line.1 fun c member => size_of_ascii (small c member)
  simp only [Function.comp_apply, isPrefixOf_crlf comment]
  split
  · rfl
  · by_cases mark : s = "?."
    · subst mark
      obtain rfl : cs = ['?', '.'] := spelled.trans (show "?.".toList = ['?', '.'] by decide)
      have two : (crlf t.chars).drop 2 = crlf (t.chars.drop 2) :=
        congrArg Tail.chars behind
      have one := @behind_crlf _ _ h ['?'] ('.' :: rest) split.symm (by decide)
        (by simp [Char.utf8Size])
      simp only [two, head_isDigit_crlf]
      split
      · exact congrArg (fun rest => some ("?", rest)) one
      · exact congrArg (fun rest => some ("?.", rest)) behind
    · simp only [beq_eq_false_iff_ne.2 mark, Bool.false_and, Bool.false_eq_true, if_false]
      exact congrArg (fun rest => some (s, rest)) behind

-- A number is as long in both texts.
theorem offset_of_takeNumber {text cs : List Char} {o : Nat} (h : Of text ⟨cs, o⟩) {n : Nat}
    {rest : List Char} (read : takeNumber cs = some (n, rest)) :
    crlfOffset text (o + n) = crlfOffset text o + n := by
  obtain ⟨-, taken, rfl, length, sizes⟩ := takeNumber_took read
  have read' : takeNumber (crlf (taken ++ rest)) = some (n, crlf rest) := by
    rw [takeNumber_crlf, read]
    rfl
  obtain ⟨-, taken', split, length', sizes'⟩ := takeNumber_took read'
  obtain rfl : crlf taken = taken' := by
    rw [crlf_append] at split
    exact List.append_cancel_right split
  have offset := h.offset
  rwa [byteLength_of_sizes sizes, byteLength_of_sizes sizes', length, length'] at offset

theorem takeToken_crlf {text : List Char} (plain : '\r' ∉ text) {t : Tail} (h : Of text t) :
    takeToken (t.widen text) = ((takeToken t).1, (takeToken t).2.widen text) := by
  obtain ⟨chars, o⟩ := t
  have plain : '\r' ∉ chars := by
    obtain ⟨before, rfl, -⟩ := h
    exact fun member => plain (List.mem_append_right _ member)
  cases chars with
  | nil => rfl
  | cons c cs =>
    have punct : takePunct ⟨crlf (c :: cs), crlfOffset text o⟩ =
        (takePunct ⟨c :: cs, o⟩).map fun r => (r.1, r.2.widen text) := takePunct_crlf h
    by_cases feed : c = '\n'
    · subst feed
      have start : isNameStart '\n' = false ∧ isNameStart '\r' = false := by decide
      have none := takePunct_lineFeed cs o
      rw [none, crlf_lineFeed] at punct
      simp [takeToken, widen, start, decimal_lineEnd, punct, none]
    · have whole := crlf_cons feed cs
      simp only [List.mem_cons, not_or] at plain
      simp only [takeToken, widen, crlf_cons feed, head_isDigit_crlf]
      split
      · rw [← whole, takeName_crlf h]
        cases takeName .none (c :: cs) o [] false with
        | none => rfl
        | some n => rfl
      split
      · rw [← whole, takeNumber_crlf]
        cases read : takeNumber (c :: cs) with
        | none => rfl
        | some r =>
          obtain ⟨size, rest⟩ := r
          have offset := offset_of_takeNumber h read
          simp [NumberRead.widen, offset]
      split
      next quote =>
        have sign : c ≠ '\n' ∧ c ≠ '\r' := ⟨feed, Ne.symm plain.1⟩
        have small : c.utf8Size = 1 := by
          simp only [Bool.or_eq_true, decide_eq_true_eq] at quote
          rcases quote with rfl | rfl <;> rfl
        have next := h.next feed
        rw [small] at next
        have read := takeQuoted_crlf sign small plain.2 (small ▸ h.cons) []
        simp only [List.reverse_nil, crlf_nil] at read
        rw [← next, read]
        cases taken : takeQuoted c cs (o + 1) [] with
        | none => simp [whole]
        | some r =>
          obtain ⟨raw, rest⟩ := r
          obtain ⟨mid, same, settled, among⟩ := takeQuoted_settled plain.2 taken
          rw [List.reverse_nil, List.nil_append] at same
          simp only [Option.map_some, List.reverse_reverse, decodeText, same]
          rw [decodeFrom_crlf settled among (by simp)]
          cases decodeFrom .none mid with
          | none => simp [whole]
          | some points => rfl
      split
      next hash =>
        have small : c.utf8Size = 1 := hash ▸ rfl
        have next := h.next feed
        rw [small] at next
        rw [← next, takeName_crlf (small ▸ h.cons)]
        cases takeName .none cs (o + 1) [] false with
        | none => simp [whole]
        | some n =>
          simp only [Option.map_some, NameRead.widen]
          split
          · simp [whole]
          · rfl
      next =>
        rw [← whole, punct]
        cases takePunct ⟨c :: cs, o⟩ with
        | none => rfl
        | some r => rfl

end Tail

end ServerLink.Script
