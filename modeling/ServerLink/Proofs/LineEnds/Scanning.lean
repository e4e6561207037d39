import ServerLink.Proofs.LineEnds.Texts
import ServerLink.Proofs.Parsing.Tails

/-!
Comments, names, quoted text and patterns of a text whose lines end in a carriage return and a line
feed. Only comments, templates and quoted text hold line ends, and nothing depends there on how the
line ends.
-/

set_option autoImplicit false

namespace ServerLink.Script

open Text

-- A run of characters that end no line.
theorem span_crlf {p : Char → Bool} (ends : p '\n' = false ∧ p '\r' = false) (cs : List Char) :
    (crlf cs).span p = ((cs.span p).1, crlf (cs.span p).2) := by
  simp only [List.span_eq_takeWhile_dropWhile]
  induction cs with
  | nil => rfl
  | cons c cs ih =>
    by_cases feed : c = '\n'
    · subst feed
      simp [ends]
    · rw [crlf_cons feed]
      by_cases inside : p c = true
      · simpa [inside] using ih
      · simp [inside, crlf_cons feed]

namespace Tail

/-- The same tail of the text with carriage returns. -/
def widen (text : List Char) (t : Tail) : Tail := ⟨crlf t.chars, crlfOffset text t.offset⟩

section

variable {text cs : List Char} {o : Nat}

theorem Of.cons {c : Char} (h : Of text ⟨c :: cs, o⟩) : Of text ⟨cs, o + c.utf8Size⟩ :=
  h.trans (.cons (.refl _ _))

theorem Of.offset {taken : List Char} (h : Of text ⟨taken ++ cs, o⟩) :
    crlfOffset text (o + byteLength taken) = crlfOffset text o + byteLength (crlf taken) := by
  obtain ⟨before, rfl, offset⟩ := h
  simp only [Nat.zero_add] at offset
  rw [offset, ← byteLength_append, ← List.append_assoc, crlfOffset_byteLength, crlf_append,
    byteLength_append, List.append_assoc, crlfOffset_byteLength]

theorem Of.next {c : Char} (h : Of text ⟨c :: cs, o⟩) (other : c ≠ '\n') :
    crlfOffset text (o + c.utf8Size) = crlfOffset text o + c.utf8Size := by
  have whole := @Of.offset text cs o [c] h
  rwa [crlf_cons other, byteLength_cons, crlf_nil, byteLength_nil, Nat.add_zero] at whole

theorem Of.nextLine (h : Of text ⟨'\n' :: cs, o⟩) :
    crlfOffset text (o + 1) = crlfOffset text o + 2 :=
  @Of.offset text cs o ['\n'] h

-- Two signs of one byte.
theorem Of.pair {c d : Char} (h : Of text ⟨c :: d :: cs, o⟩) (other : c ≠ '\n' ∧ d ≠ '\n')
    (small : c.utf8Size = 1 ∧ d.utf8Size = 1) :
    crlfOffset text (o + 2) = crlfOffset text o + 2 ∧ Of text ⟨cs, o + 2⟩ := by
  have one := h.next other.1
  have two := h.cons.next other.2
  have rest := h.cons.cons
  rw [small.1] at one two rest
  rw [small.2, one] at two
  rw [small.2] at rest
  exact ⟨two, rest⟩

end

/-! ### Blanks and comments -/

theorem skipGap_lineFeed (cs : List Char) (o : Nat) (nl : Bool) :
    skipGap .code ('\n' :: cs) o nl = skipGap .code cs (o + 1) true := by
  rw [skipGap.eq_3 _ _ _ _ (by simp) (by simp)]
  rfl

theorem skipGap_return (cs : List Char) (o : Nat) (nl : Bool) :
    skipGap .code ('\r' :: cs) o nl = skipGap .code cs (o + 1) true := by
  rw [skipGap.eq_3 _ _ _ _ (by simp) (by simp)]
  rfl

theorem skipGap_crlf {text : List Char} {w : Within} {cs : List Char} {o : Nat} {nl : Bool}
    (h : Of text ⟨cs, o⟩) : skipGap w (crlf cs) (crlfOffset text o) nl =
      (skipGap w cs o nl).map fun r => (r.1.widen text, r.2) := by
  -- a mark of two characters is one in both texts
  have mark {c d : Char} (other : d ≠ '\r') {cs : List Char}
      (no : ∀ ds, c = '/' → cs = d :: ds → False) : ∀ ds, c = '/' → crlf cs = d :: ds → False := by
    intro ds here next
    obtain ⟨es, rfl, -⟩ := crlf_eq_cons other next
    exact no es here rfl
  fun_induction skipGap w cs o nl with
  | case1 cs o nl ih =>
    obtain ⟨next, rest⟩ := h.pair (by decide) (by decide)
    rw [crlf_cons (by decide), crlf_cons (by decide), skipGap, ← next, ih rest]
  | case2 cs o nl ih =>
    obtain ⟨next, rest⟩ := h.pair (by decide) (by decide)
    rw [crlf_cons (by decide), crlf_cons (by decide), skipGap, ← next, ih rest]
  | case3 c cs o nl line block ends ih =>
    by_cases feed : c = '\n'
    · subst feed
      rw [crlf_lineFeed, skipGap_return, skipGap_lineFeed, ← ih h.cons]
      exact congrArg (skipGap .code (crlf cs) · true) h.nextLine.symm
    · rw [crlf_cons feed, skipGap.eq_3 _ _ _ _ (mark (by decide) line) (mark (by decide) block),
        if_pos ends, ← h.next feed, ih h.cons]
  | case4 c cs o nl line block ends blank ih =>
    have feed : c ≠ '\n' := by
      rintro rfl
      exact ends rfl
    rw [crlf_cons feed, skipGap.eq_3 _ _ _ _ (mark (by decide) line) (mark (by decide) block),
      if_neg ends, if_pos blank, ← h.next feed, ih h.cons]
  | case5 c cs o nl line block ends blank =>
    have feed : c ≠ '\n' := by
      rintro rfl
      exact ends rfl
    rw [crlf_cons feed, skipGap.eq_3 _ _ _ _ (mark (by decide) line) (mark (by decide) block),
      if_neg ends, if_neg blank, ← crlf_cons feed]
    rfl
  | case6 o nl => rfl
  | case7 c cs o nl ends ih =>
    by_cases feed : c = '\n'
    · subst feed
      rw [crlf_lineFeed, skipGap, if_pos (by decide), skipGap_lineFeed, ← ih h.cons]
      exact congrArg (skipGap .code (crlf cs) · true) h.nextLine.symm
    · rw [crlf_cons feed, skipGap, if_pos ends, ← h.next feed, ih h.cons]
  | case8 c cs o nl ends ih =>
    have feed : c ≠ '\n' := by
      rintro rfl
      exact ends rfl
    rw [crlf_cons feed, skipGap, if_neg ends, ← h.next feed, ih h.cons]
  | case9 o nl => rfl
  | case10 cs o nl ih =>
    obtain ⟨next, rest⟩ := h.pair (by decide) (by decide)
    rw [crlf_cons (by decide), crlf_cons (by decide), skipGap, ← next, ih rest]
  | case11 c cs o nl no ih =>
    by_cases feed : c = '\n'
    · subst feed
      rw [crlf_lineFeed, skipGap.eq_8 _ _ _ _ (by simp), skipGap.eq_8 _ _ _ _ (by simp),
        ← ih h.cons]
      have next : crlfOffset text o + 1 + 1 = crlfOffset text (o + 1) := h.nextLine.symm
      exact congrArg₂ (skipGap .block (crlf cs) · ·) next (by cases nl <;> rfl)
    · have no' : ∀ ds, c = '*' → crlf cs = '/' :: ds → False := by
        intro ds here next
        obtain ⟨es, rfl, -⟩ := crlf_eq_cons (by decide) next
        exact no es here rfl
      rw [crlf_cons feed, skipGap.eq_8 _ _ _ _ no', ← h.next feed, ih h.cons]
  | case12 => rfl

/-! ### Names -/

/-- The same name in the text with carriage returns. -/
def NameRead.widen (text : List Char) (n : NameRead) : NameRead :=
  { n with rest := n.rest.widen text }

-- Where a line ends a name does too, and an escape is not finished.
theorem takeName_lineEnd {c : Char} (ends : c = '\n' ∨ c = '\r') (e : NameEscape) (cs : List Char)
    (o : Nat) (seen : List Char) (esc : Bool) : takeName e (c :: cs) o seen esc =
      match e with
      | .none => some ⟨String.ofList seen.reverse, esc, ⟨c :: cs, o⟩⟩
      | _ => none := by
  have start : isNameStart c = false := by rcases ends with rfl | rfl <;> decide
  have more : isNameContinue c = false := by rcases ends with rfl | rfl <;> decide
  have hex : isHex c = false := by rcases ends with rfl | rfl <;> decide
  have other : c ≠ '\\' ∧ c ≠ 'u' ∧ c ≠ '\x7b' ∧ c ≠ '\x7d' := by
    rcases ends with rfl | rfl <;> decide
  cases e <;> simp [takeName, fitsName, start, more, hex, other]

theorem takeName_crlf {text cs : List Char} {o : Nat} (h : Of text ⟨cs, o⟩) (e : NameEscape)
    (seen : List Char) (esc : Bool) : takeName e (crlf cs) (crlfOffset text o) seen esc =
      (takeName e cs o seen esc).map (·.widen text) := by
  induction cs generalizing e o seen esc with
  | nil => cases e <;> rfl
  | cons c cs ih =>
    by_cases feed : c = '\n'
    · subst feed
      rw [crlf_lineFeed, takeName_lineEnd (.inr rfl), takeName_lineEnd (.inl rfl)]
      cases e <;> rfl
    · have rest (small : c.utf8Size = 1) (e : NameEscape) (seen : List Char) (esc : Bool) :
          takeName e (crlf cs) (crlfOffset text o + 1) seen esc =
            (takeName e cs (o + 1) seen esc).map (·.widen text) := by
        have next := h.next feed
        rw [small] at next
        rw [← next]
        exact ih (small ▸ h.cons) e seen esc
      rw [crlf_cons feed]
      cases e with
      | none =>
        simp only [takeName]
        split
        · rw [← h.next feed, ih h.cons]
        · split
          next opened => exact rest (opened ▸ rfl) ..
          next => simp [NameRead.widen, widen, crlf_cons feed]
      | opened =>
        simp only [takeName]
        split
        next unicode => exact rest (unicode ▸ rfl) ..
        next => rfl
      | unicode =>
        simp only [takeName]
        split
        next brace => exact rest (brace ▸ rfl) ..
        next =>
          split
          next hex => exact rest (size_of_isHex hex) ..
          next => rfl
      | digits left v =>
        simp only [takeName]
        split
        next hex =>
          split
          · split
            · exact rest (size_of_isHex hex) ..
            · rfl
          · exact rest (size_of_isHex hex) ..
        next => rfl
      | braced v =>
        simp only [takeName]
        split
        next hex =>
          split
          · exact rest (size_of_isHex hex) ..
          · rfl
        next =>
          split
          next brace =>
            simp only [Bool.and_eq_true, decide_eq_true_eq] at brace
            exact rest (brace.1 ▸ rfl) ..
          next => rfl

/-! ### Quoted text -/

/-- Text in which lines end only behind a backslash that escapes the line end. -/
inductive Settled : List Char → Prop where
  | nil : Settled []
  | escaped (c : Char) {cs : List Char} : Settled cs → Settled ('\\' :: c :: cs)
  | other {c : Char} {cs : List Char} : c ≠ '\\' → c ≠ '\n' → Settled cs → Settled (c :: cs)

theorem takeQuoted_settled {quote : Char} {cs : List Char} (plain : '\r' ∉ cs) {o : Nat}
    {seen raw : List Char} {t : Tail} (read : takeQuoted quote cs o seen = some (raw, t)) :
    ∃ taken, raw.reverse = seen.reverse ++ taken ∧ Settled taken ∧ '\r' ∉ taken := by
  fun_induction takeQuoted quote cs o seen with
  | case1 => simp at read
  | case2 => simp at plain
  | case3 c cs o seen _ ih =>
    simp only [List.mem_cons, not_or] at plain
    obtain ⟨taken, whole, settled, among⟩ := ih plain.2.2 read
    exact ⟨'\\' :: c :: taken, by simpa using whole, .escaped c settled,
      by simp [plain.2.1, among]⟩
  | case4 =>
    obtain ⟨rfl, -⟩ := Prod.mk.inj (Option.some.inj read)
    exact ⟨[], by simp, .nil, by simp⟩
  | case5 => simp at read
  | case6 c cs o seen escape lone other ends ih =>
    simp only [List.mem_cons, not_or] at plain
    obtain ⟨taken, whole, settled, among⟩ := ih plain.2 read
    simp only [Bool.or_eq_true, decide_eq_true_eq, not_or] at ends
    refine ⟨c :: taken, by simpa using whole, .other ?_ ends.1 settled,
      by simp [plain.1, among]⟩
    rintro rfl
    cases cs with
    | nil => simp [takeQuoted] at read
    | cons d cs => exact lone d cs rfl rfl

theorem takeQuoted_lineEnd {quote c : Char} (ends : c = '\n' ∨ c = '\r')
    (sign : quote ≠ '\n' ∧ quote ≠ '\r') (cs : List Char) (o : Nat) (seen : List Char) :
    takeQuoted quote (c :: cs) o seen = none := by
  rcases ends with rfl | rfl <;> simp [takeQuoted, sign.1.symm, sign.2.symm]

theorem takeQuoted_crlf {text : List Char} {quote : Char} (sign : quote ≠ '\n' ∧ quote ≠ '\r')
    (small : quote.utf8Size = 1) {cs : List Char} (plain : '\r' ∉ cs) {o : Nat}
    (h : Of text ⟨cs, o⟩) (seen : List Char) :
    takeQuoted quote (crlf cs) (crlfOffset text o) (crlf seen.reverse).reverse =
      (takeQuoted quote cs o seen).map fun r => ((crlf r.1.reverse).reverse, r.2.widen text) := by
  fun_induction takeQuoted quote cs o seen with
  | case1 => rfl
  | case2 => simp at plain
  | case3 c cs o seen escape ih =>
    simp only [List.mem_cons, not_or] at plain
    have next : crlfOffset text (o + 1) = crlfOffset text o + 1 := Of.next h (by decide)
    have rest : Of text ⟨c :: cs, o + 1⟩ := h.cons
    rw [crlf_cons (by decide), ← ih plain.2.2 rest.cons]
    by_cases feed : c = '\n'
    · subst feed
      rw [show o + 1 + '\n'.utf8Size = o + 1 + 1 from rfl, rest.nextLine, next]
      simp [takeQuoted, crlf]
    · rw [crlf_cons feed, takeQuoted.eq_3 _ _ _ _ _ fun _ back => absurd back.symm plain.2.1,
        rest.next feed, next]
      simp [crlf, feed]
  | case4 cs o seen escape lone =>
    have next := h.next sign.1
    rw [small] at next
    have last {d : Char} {ds : List Char} (slash : quote = '\\') : crlf cs ≠ d :: ds := by
      cases cs with
      | nil => simp
      | cons d cs => exact (lone d cs slash rfl).elim
    rw [crlf_cons sign.1, takeQuoted.eq_4 _ _ _ _ _ (fun _ slash => last slash)
      (fun _ _ slash => last slash), if_pos rfl]
    simp [widen, next]
  | case5 c cs o seen escape lone other ends =>
    have line : c = '\n' ∨ c = '\r' := by simpa using ends
    simp only [List.mem_cons, not_or] at plain
    obtain rfl := line.resolve_right (Ne.symm plain.1)
    exact takeQuoted_lineEnd (.inr rfl) sign ..
  | case6 c cs o seen escape lone other ends ih =>
    simp only [List.mem_cons, not_or] at plain
    have line : c ≠ '\n' := fun feed => ends (by simp [feed])
    have last {d : Char} {ds : List Char} (slash : c = '\\') : crlf cs ≠ d :: ds := by
      cases cs with
      | nil => simp
      | cons d cs => exact (lone d cs slash rfl).elim
    rw [crlf_cons line, takeQuoted.eq_4 _ _ _ _ _ (fun _ slash => last slash)
      (fun _ _ slash => last slash), if_neg other, if_neg ends, ← ih plain.2 h.cons, h.next line]
    simp [crlf, line]

/-! ### What quoted text says -/

-- What a character does to the state, whatever follows it.
theorem decodeFrom_cons (e : Escape) (c : Char) : (∀ cs, decodeFrom e (c :: cs) = none) ∨
    ∃ out next, (c ≠ '\r' → next ≠ .lineEnd) ∧ (c ≠ '\\' → next ≠ .opened) ∧
      ∀ cs, decodeFrom e (c :: cs) = (out ++ ·) <$> decodeFrom next cs := by
  cases e with
  | none =>
    by_cases slash : c = '\\'
    · exact .inr ⟨[], .opened, by simp, by simp [slash], fun cs => by simp [decodeFrom, slash]⟩
    · exact .inr ⟨[c.toNat], .none, by simp, by simp, fun cs => by simp [decodeFrom, slash]⟩
  | opened =>
    by_cases x : c = 'x'
    · exact .inr ⟨[], .digits 2 0, by simp, by simp, fun cs => by simp [decodeFrom, x]⟩
    by_cases u : c = 'u'
    · exact .inr ⟨[], .unicode, by simp, by simp, fun cs => by simp [decodeFrom, u]⟩
    by_cases zero : c = '0'
    · exact .inr ⟨[], .zero, by simp, by simp, fun cs => by simp [decodeFrom, zero]⟩
    by_cases digit : c.isDigit = true
    · exact .inl fun cs => by simp [decodeFrom, x, u, zero, digit]
    by_cases back : c = '\r'
    · exact .inr ⟨[], .lineEnd, by simp [back], by simp, fun cs => by simp [decodeFrom, back]⟩
    by_cases ends : isLineEnd c = true
    · exact .inr ⟨[], .none, by simp, by simp,
        fun cs => by simp [decodeFrom, x, u, zero, digit, back, ends]⟩
    · exact .inr ⟨[simpleEscape c], .none, by simp, by simp,
        fun cs => by simp [decodeFrom, x, u, zero, digit, back, ends]⟩
  | lineEnd =>
    by_cases feed : c = '\n'
    · exact .inr ⟨[], .none, by simp, by simp, fun cs => by simp [decodeFrom, feed]⟩
    by_cases slash : c = '\\'
    · exact .inr ⟨[], .opened, by simp, by simp [slash], fun cs => by simp [decodeFrom, slash]⟩
    · exact .inr ⟨[c.toNat], .none, by simp, by simp, fun cs => by simp [decodeFrom, feed, slash]⟩
  | zero =>
    by_cases digit : c.isDigit = true
    · exact .inl fun cs => by simp [decodeFrom, digit]
    by_cases slash : c = '\\'
    · exact .inr ⟨[0], .opened, by simp, by simp [slash],
        fun cs => by simp [decodeFrom, slash]⟩
    · exact .inr ⟨[0, c.toNat], .none, by simp, by simp,
        fun cs => by simp [decodeFrom, digit, slash]⟩
  | unicode =>
    by_cases brace : c = '\x7b'
    · exact .inr ⟨[], .braced 0 false, by simp, by simp, fun cs => by simp [decodeFrom, brace]⟩
    by_cases hex : isHex c = true
    · exact .inr ⟨[], .digits 3 (hexValue c), by simp, by simp,
        fun cs => by simp [decodeFrom, brace, hex]⟩
    · exact .inl fun cs => by simp [decodeFrom, brace, hex]
  | digits left v =>
    by_cases hex : isHex c = true
    · by_cases last : left ≤ 1
      · exact .inr ⟨[v * 16 + hexValue c], .none, by simp, by simp,
          fun cs => by simp [decodeFrom, hex, last]⟩
      · exact .inr ⟨[], .digits (left - 1) (v * 16 + hexValue c), by simp, by simp,
          fun cs => by simp [decodeFrom, hex, last]⟩
    · exact .inl fun cs => by simp [decodeFrom, hex]
  | braced v any =>
    by_cases hex : isHex c = true
    · by_cases small : v * 16 + hexValue c ≤ 0x10ffff
      · exact .inr ⟨[], .braced (v * 16 + hexValue c) true, by simp, by simp,
          fun cs => by simp [decodeFrom, hex, small]⟩
      · exact .inl fun cs => by simp [decodeFrom, hex, small]
    by_cases close : (c = '\x7d' && any) = true
    · exact .inr ⟨[v], .none, by simp, by simp,
        fun cs => by rw [decodeFrom, if_neg hex, if_pos close]; rfl⟩
    · exact .inl fun cs => by simp [decodeFrom, hex, close]

theorem decodeFrom_crlf {cs : List Char} (settled : Settled cs) (plain : '\r' ∉ cs) {e : Escape}
    (closed : e ≠ .opened ∧ e ≠ .lineEnd) : decodeFrom e (crlf cs) = decodeFrom e cs := by
  induction settled generalizing e with
  | nil => rfl
  | @escaped c cs settled ih =>
    simp only [List.mem_cons, not_or] at plain
    have opened : decodeFrom .opened (crlf (c :: cs)) = decodeFrom .opened (c :: cs) := by
      by_cases feed : c = '\n'
      · subst feed
        have ends : isLineEnd '\n' = true := by decide
        simp [decodeFrom, ih plain.2.2, ends]
      · rw [crlf_cons feed]
        by_cases slash : c = '\\'
        · subst slash
          have same : ∀ ds, decodeFrom .opened ('\\' :: ds) = (92 :: ·) <$> decodeFrom .none ds :=
            fun _ => rfl
          rw [same, same, ih plain.2.2 (by simp)]
        · rcases decodeFrom_cons .opened c with stuck | ⟨out, next, ends, opens, step⟩
          · rw [stuck, stuck]
          · rw [step, step, ih plain.2.2 ⟨opens slash, ends (Ne.symm plain.2.1)⟩]
    have hex : isHex '\\' = false := by decide
    rw [crlf_cons (by decide)]
    cases e with
    | opened | lineEnd => simp at closed
    | none => simpa [decodeFrom] using opened
    | zero =>
      have digit : Char.isDigit '\\' = false := by decide
      simp [decodeFrom, digit, opened]
    | unicode | digits | braced => simp [decodeFrom, hex]
  | @other c cs slash feed settled ih =>
    simp only [List.mem_cons, not_or] at plain
    rw [crlf_cons feed]
    rcases decodeFrom_cons e c with stuck | ⟨out, next, ends, opens, step⟩
    · rw [stuck, stuck]
    · rw [step, step, ih plain.2 ⟨opens slash, ends (Ne.symm plain.1)⟩]

theorem isSome_decodeFrom_crlf {cs : List Char} (plain : '\r' ∉ cs) {e : Escape}
    (closed : e ≠ .lineEnd) : (decodeFrom e (crlf cs)).isSome = (decodeFrom e cs).isSome := by
  induction cs generalizing e with
  | nil => rfl
  | cons c cs ih =>
    simp only [List.mem_cons, not_or] at plain
    by_cases feed : c = '\n'
    · subst feed
      have hex : isHex '\n' = false ∧ isHex '\r' = false := by decide
      have digit : Char.isDigit '\n' = false ∧ Char.isDigit '\r' = false := by decide
      have ends : isLineEnd '\n' = true := by decide
      cases e <;> simp_all [decodeFrom]
    · rw [crlf_cons feed]
      rcases decodeFrom_cons e c with stuck | ⟨out, next, ends, -, step⟩
      · rw [stuck, stuck]
      · simp [step, ih plain.2 (ends (Ne.symm plain.1))]

/-! ### Other text between signs -/

theorem takeVerbatim_crlf {text : List Char} {quote : Char} (sign : quote ≠ '\n' ∧ quote ≠ '\r')
    (small : quote.utf8Size = 1) {cs : List Char} {o : Nat} (h : Of text ⟨cs, o⟩) :
    takeVerbatim quote (crlf cs) (crlfOffset text o) =
      (takeVerbatim quote cs o).map (·.widen text) := by
  fun_induction takeVerbatim quote cs o with
  | case1 => rfl
  | case2 cs o =>
    have next := h.next sign.1
    rw [small] at next
    simp [crlf_cons sign.1, takeVerbatim, widen, next]
  | case3 c cs o other ih =>
    rw [← ih h.cons]
    by_cases feed : c = '\n'
    · subst feed
      have next : crlfOffset text (o + '\n'.utf8Size) = crlfOffset text o + 1 + 1 := h.nextLine
      rw [crlf_lineFeed, takeVerbatim, if_neg sign.2.symm, takeVerbatim, if_neg other, next]
      rfl
    · rw [crlf_cons feed, takeVerbatim, if_neg other, h.next feed]

/-- The same piece in the text with carriage returns. -/
def TemplatePiece.widen (text : List Char) (p : TemplatePiece) : TemplatePiece :=
  { p with rest := p.rest.widen text }

theorem takePiece_crlf {text cs : List Char} {o : Nat} (h : Of text ⟨cs, o⟩) {seen : List Char}
    (plain : '\r' ∉ cs) (before : '\r' ∉ seen) :
    takePiece (crlf cs) (crlfOffset text o) (crlf seen.reverse).reverse =
      (takePiece cs o seen).map (·.widen text) := by
  have sound {seen : List Char} (before : '\r' ∉ seen) :
      (decodeFrom .none (crlf seen.reverse).reverse.reverse).isSome =
        (decodeFrom .none seen.reverse).isSome := by
    rw [List.reverse_reverse, isSome_decodeFrom_crlf (by simpa using before) (by simp)]
  fun_induction takePiece cs o seen with
  | case1 => rfl
  | case2 cs o seen =>
    have next : crlfOffset text (o + 1) = crlfOffset text o + 1 := Of.next h (by decide)
    rw [crlf_cons (by decide), takePiece, sound before]
    simp [TemplatePiece.widen, widen, next]
  | case3 cs o seen =>
    obtain ⟨next, -⟩ := h.pair (by decide) (by decide)
    rw [crlf_cons (by decide), crlf_cons (by decide), takePiece, sound before]
    simp [TemplatePiece.widen, widen, next]
  | case4 c cs o seen ih =>
    simp only [List.mem_cons, not_or] at plain
    have next : crlfOffset text (o + 1) = crlfOffset text o + 1 := Of.next h (by decide)
    have rest : Of text ⟨c :: cs, o + 1⟩ := h.cons
    rw [← ih rest.cons plain.2.2 (by simp [plain.2.1, before]), crlf_cons (by decide)]
    by_cases feed : c = '\n'
    · subst feed
      have line : crlfOffset text (o + 1 + '\n'.utf8Size) = crlfOffset text o + 1 + 1 + 1 := by
        rw [← next]
        exact rest.nextLine
      rw [crlf_lineFeed, takePiece, takePiece.eq_5 _ _ _ _ (by simp) (by simp) (by simp), line]
      simp [crlf]
      rfl
    · rw [crlf_cons feed, takePiece, rest.next feed, next]
      simp [crlf, feed]
  | case5 c cs o seen tick hole slash ih =>
    simp only [List.mem_cons, not_or] at plain
    rw [← ih h.cons plain.2 (by simp [plain.1, before])]
    by_cases feed : c = '\n'
    · subst feed
      have next : crlfOffset text (o + '\n'.utf8Size) = crlfOffset text o + 1 + 1 := h.nextLine
      rw [crlf_lineFeed, takePiece.eq_5 _ _ _ _ (by simp) (by simp) (by simp),
        takePiece.eq_5 _ _ _ _ (by simp) (by simp) (by simp), next]
      simp [crlf]
      rfl
    · have hole' : ∀ ds, c = '$' → crlf cs = '\x7b' :: ds → False := by
        intro ds here next
        obtain ⟨es, rfl, -⟩ := crlf_eq_cons (by decide) next
        exact hole es here rfl
      have slash' : ∀ d ds, c = '\\' → crlf cs = d :: ds → False := by
        intro d ds here next
        cases cs with
        | nil => simp at next
        | cons b cs => exact slash b cs here rfl
      rw [crlf_cons feed, takePiece.eq_5 _ _ _ _ tick hole' slash', h.next feed]
      simp [crlf, feed]

theorem takePattern_crlf {text : List Char} {inClass : Bool} {cs : List Char} {o : Nat}
    (h : Of text ⟨cs, o⟩) : takePattern inClass (crlf cs) (crlfOffset text o) =
      (takePattern inClass cs o).map (·.widen text) := by
  have feed {c : Char} (ends : ¬isLineEnd c = true) : c ≠ '\n' := by
    rintro rfl
    exact ends rfl
  have stop (inClass : Bool) (cs : List Char) (o : Nat) :
      takePattern inClass ('\r' :: cs) o = none := by
    rw [takePattern.eq_3 _ _ _ _ (by simp), if_pos (by decide)]
  fun_induction takePattern inClass cs o with
  | case1 => rfl
  | case2 inClass c cs o ends =>
    rw [crlf_cons (by decide)]
    by_cases feed : c = '\n'
    · subst feed
      rw [crlf_lineFeed, takePattern, if_pos (by decide)]
      rfl
    · rw [crlf_cons feed, takePattern, if_pos ends]
      rfl
  | case3 inClass c cs o ends ih =>
    have next : crlfOffset text (o + 1) = crlfOffset text o + 1 := Of.next h (by decide)
    have rest : Of text ⟨c :: cs, o + 1⟩ := h.cons
    rw [crlf_cons (by decide), crlf_cons (feed ends), takePattern, if_neg ends, ← ih rest.cons,
      rest.next (feed ends), next]
  | case4 inClass c cs o slash ends =>
    by_cases feed : c = '\n'
    · subst feed
      exact stop ..
    · have slash' : ∀ d ds, c = '\\' → crlf cs = d :: ds → False := by
        intro d ds here next
        cases cs with
        | nil => simp at next
        | cons b cs => exact slash b cs here rfl
      rw [crlf_cons feed, takePattern.eq_3 _ _ _ _ slash', if_pos ends]
      rfl
  | case5 inClass c cs o slash ends close =>
    have slash' : ∀ d ds, c = '\\' → crlf cs = d :: ds → False := by
      rintro d ds rfl next
      simp at close
    have here : c = '/' := by simpa using (Bool.and_eq_true_iff.1 close).1
    have next := h.next (feed ends)
    rw [here] at next
    rw [crlf_cons (feed ends), takePattern.eq_3 _ _ _ _ slash', if_neg ends, if_pos close]
    exact congrArg (fun offset => some (Tail.mk (crlf cs) offset)) next.symm
  | case6 inClass c cs o slash ends close ih =>
    have slash' : ∀ d ds, c = '\\' → crlf cs = d :: ds → False := by
      intro d ds here next
      cases cs with
      | nil => simp at next
      | cons b cs => exact slash b cs here rfl
    rw [crlf_cons (feed ends), takePattern.eq_3 _ _ _ _ slash', if_neg ends, if_neg close,
      ← ih h.cons, h.next (feed ends)]

theorem takeRegex_crlf {text : List Char} {t : Tail} (h : Of text t) :
    takeRegex (t.widen text) = (takeRegex t).map (·.widen text) := by
  simp only [takeRegex, widen, takePattern_crlf h]
  cases body : takePattern false t.chars t.offset with
  | none => rfl
  | some rest =>
    have left : Of text rest := h.trans (takePattern_eq_some body)
    simp only [Option.map_some, Option.bind_eq_bind, Option.bind_some, takeName_crlf left]
    cases takeName .none rest.chars rest.offset ['_'] false with
    | none => rfl
    | some flags =>
      simp only [Option.map_some, Option.bind_some, NameRead.widen]
      split <;> rfl

end Tail

end ServerLink.Script
