import ServerLink.Script.Token
import ServerLink.Text.Offset

/-!
Reading one token. Every function takes what is left of the text together with its byte offset
and returns the rest with the offset after what it read.
-/

set_option autoImplicit false

namespace ServerLink.Script

open Text

/-- Text left to read, and where it begins. -/
structure Tail where
  chars : List Char
  offset : Nat
  deriving Repr

namespace Tail

def isHex (c : Char) : Bool :=
  c.isDigit || ('a' ≤ c && c ≤ 'f') || ('A' ≤ c && c ≤ 'F')

def hexValue (c : Char) : Nat :=
  if c.isDigit then c.toNat - 48 else if 'a' ≤ c then c.toNat - 87 else c.toNat - 55

/-! ### Blanks and comments -/

inductive Within where
  | code
  | line
  | block

/-- The first place at or after the tail where a token may begin, and whether a line ended on the
way; `none` in a comment that is never closed. -/
def skipGap : Within → List Char → Nat → Bool → Option (Tail × Bool)
  | .code, '/' :: '/' :: cs, o, nl => skipGap .line cs (o + 2) nl
  | .code, '/' :: '*' :: cs, o, nl => skipGap .block cs (o + 2) nl
  | .code, c :: cs, o, nl =>
      if isLineEnd c then skipGap .code cs (o + c.utf8Size) true
      else if isBlank c then skipGap .code cs (o + c.utf8Size) nl
      else some (⟨c :: cs, o⟩, nl)
  | .code, [], o, nl => some (⟨[], o⟩, nl)
  | .line, c :: cs, o, nl =>
      if isLineEnd c then skipGap .code cs (o + c.utf8Size) true
      else skipGap .line cs (o + c.utf8Size) nl
  | .line, [], o, nl => some (⟨[], o⟩, nl)
  | .block, '*' :: '/' :: cs, o, nl => skipGap .code cs (o + 2) nl
  | .block, c :: cs, o, nl => skipGap .block cs (o + c.utf8Size) (nl || isLineEnd c)
  | .block, [], _, _ => none

/-! ### Names -/

/-- What has been read of an escape inside a name. -/
inductive NameEscape where
  | none
  | opened
  | unicode
  | digits (left value : Nat)
  | braced (value : Nat)

structure NameRead where
  text : String
  escaped : Bool
  rest : Tail

def fitsName (seen : List Char) (c : Char) : Bool :=
  if seen.isEmpty then isNameStart c else isNameContinue c

/-- Reads a name; `seen` holds its characters so far, last one first. An escape must stand for a
character that could stand there itself. -/
def takeName : NameEscape → List Char → Nat → List Char → Bool → Option NameRead
  | .none, [], o, seen, esc => some ⟨String.ofList seen.reverse, esc, ⟨[], o⟩⟩
  | .none, c :: cs, o, seen, esc =>
      if fitsName seen c then takeName .none cs (o + c.utf8Size) (c :: seen) esc
      else if c = '\\' then takeName .opened cs (o + 1) seen true
      else some ⟨String.ofList seen.reverse, esc, ⟨c :: cs, o⟩⟩
  | .opened, c :: cs, o, seen, esc =>
      if c = 'u' then takeName .unicode cs (o + 1) seen esc else none
  | .unicode, c :: cs, o, seen, esc =>
      if c = '\x7b' then takeName (.braced 0) cs (o + 1) seen esc
      else if isHex c then takeName (.digits 3 (hexValue c)) cs (o + 1) seen esc
      else none
  | .digits left v, c :: cs, o, seen, esc =>
      if isHex c then
        let v := v * 16 + hexValue c
        if left ≤ 1 then
          if fitsName seen (Char.ofNat v) then
            takeName .none cs (o + 1) (Char.ofNat v :: seen) esc
          else none
        else takeName (.digits (left - 1) v) cs (o + 1) seen esc
      else none
  | .braced v, c :: cs, o, seen, esc =>
      if isHex c then
        if v * 16 + hexValue c ≤ 0x10ffff then
          takeName (.braced (v * 16 + hexValue c)) cs (o + 1) seen esc
        else none
      else if c = '\x7d' && fitsName seen (Char.ofNat v) then
        takeName .none cs (o + 1) (Char.ofNat v :: seen) esc
      else none
  | _, [], _, _, _ => none

/-! ### Quoted text -/

/-- What has been read of an escape inside quoted text. -/
inductive Escape where
  | none
  | opened
  | lineEnd
  | zero
  | unicode
  | digits (left value : Nat)
  | braced (value : Nat) (any : Bool)

def simpleEscape (c : Char) : Nat :=
  if c = 'n' then 10 else if c = 't' then 9 else if c = 'r' then 13 else if c = 'b' then 8
  else if c = 'f' then 12 else if c = 'v' then 11 else c.toNat

/-- The code points that quoted text stands for; `none` when an escape is malformed or octal. -/
def decodeFrom : Escape → List Char → Option (List Nat)
  | .none, [] => some []
  | .none, c :: cs =>
      if c = '\\' then decodeFrom .opened cs else (c.toNat :: ·) <$> decodeFrom .none cs
  | .opened, c :: cs =>
      if c = 'x' then decodeFrom (.digits 2 0) cs
      else if c = 'u' then decodeFrom .unicode cs
      else if c = '0' then decodeFrom .zero cs
      else if c.isDigit then none
      else if c = '\r' then decodeFrom .lineEnd cs
      else if isLineEnd c then decodeFrom .none cs
      else (simpleEscape c :: ·) <$> decodeFrom .none cs
  | .lineEnd, c :: cs =>
      if c = '\n' then decodeFrom .none cs
      else if c = '\\' then decodeFrom .opened cs
      else (c.toNat :: ·) <$> decodeFrom .none cs
  | .zero, c :: cs =>
      if c.isDigit then none
      else if c = '\\' then (0 :: ·) <$> decodeFrom .opened cs
      else (0 :: c.toNat :: ·) <$> decodeFrom .none cs
  | .unicode, c :: cs =>
      if c = '\x7b' then decodeFrom (.braced 0 false) cs
      else if isHex c then decodeFrom (.digits 3 (hexValue c)) cs
      else none
  | .digits left v, c :: cs =>
      if isHex c then
        let v := v * 16 + hexValue c
        if left ≤ 1 then (v :: ·) <$> decodeFrom .none cs else decodeFrom (.digits (left - 1) v) cs
      else none
  | .braced v any, c :: cs =>
      if isHex c then
        if v * 16 + hexValue c ≤ 0x10ffff then decodeFrom (.braced (v * 16 + hexValue c) true) cs
        else none
      else if c = '\x7d' && any then (v :: ·) <$> decodeFrom .none cs
      else none
  | .lineEnd, [] => some []
  | .zero, [] => some [0]
  | _, [] => none

/-- Joins the halves of surrogate pairs. -/
def joinUnits : List Nat → List Char
  | hi :: lo :: rest =>
      if 0xd800 ≤ hi && hi < 0xdc00 && 0xdc00 ≤ lo && lo < 0xe000 then
        Char.ofNat (0x10000 + (hi - 0xd800) * 0x400 + (lo - 0xdc00)) :: joinUnits rest
      else if 0xd800 ≤ hi && hi < 0xe000 then '\ufffd' :: joinUnits (lo :: rest)
      else Char.ofNat hi :: joinUnits (lo :: rest)
  | [n] => if 0xd800 ≤ n && n < 0xe000 then ['\ufffd'] else [Char.ofNat n]
  | [] => []

def decodeText (raw : List Char) : Option String :=
  (decodeFrom .none raw).map fun points => String.ofList (joinUnits points)

/-- Reads up to the closing quote. The raw text comes back last character first. -/
def takeQuoted (quote : Char) : List Char → Nat → List Char → Option (List Char × Tail)
  | [], _, _ => none
  | '\\' :: '\r' :: '\n' :: cs, o, seen => takeQuoted quote cs (o + 3) ('\n' :: '\r' :: '\\' :: seen)
  | '\\' :: c :: cs, o, seen => takeQuoted quote cs (o + 1 + c.utf8Size) (c :: '\\' :: seen)
  | c :: cs, o, seen =>
      if c = quote then some (seen, ⟨cs, o + 1⟩)
      else if c = '\n' || c = '\r' then none
      else takeQuoted quote cs (o + c.utf8Size) (c :: seen)

/-- Reads quoted text that knows no escapes and may span lines. -/
def takeVerbatim (quote : Char) : List Char → Nat → Option Tail
  | [], _ => none
  | c :: cs, o => if c = quote then some ⟨cs, o + 1⟩ else takeVerbatim quote cs (o + c.utf8Size)

/-- A piece of template text: whether its escapes are sound, and whether the template ends with
it or a substitution follows. -/
structure TemplatePiece where
  sound : Bool
  last : Bool
  rest : Tail

def takePiece : List Char → Nat → List Char → Option TemplatePiece
  | [], _, _ => none
  | '\x60' :: cs, o, seen => some ⟨(decodeFrom .none seen.reverse).isSome, true, ⟨cs, o + 1⟩⟩
  | '$' :: '\x7b' :: cs, o, seen =>
      some ⟨(decodeFrom .none seen.reverse).isSome, false, ⟨cs, o + 2⟩⟩
  | '\\' :: c :: cs, o, seen => takePiece cs (o + 1 + c.utf8Size) (c :: '\\' :: seen)
  | c :: cs, o, seen => takePiece cs (o + c.utf8Size) (c :: seen)

/-! ### Numbers -/

/-- Digits with single underscores between them; `gap` when no digit came right before. -/
def soundDigits : Bool → List Char → Bool
  | gap, [] => !gap
  | gap, c :: cs => if c = '_' then !gap && soundDigits true cs else soundDigits false cs

/-- The characters a number takes, and what follows it. -/
abbrev NumberRead := Option (Nat × List Char)

def digitRun (isDigit : Char → Bool) (cs : List Char) : List Char × List Char :=
  cs.span fun c => isDigit c || c == '_'

def digits (isDigit : Char → Bool) (size : Nat) (cs : List Char) : NumberRead :=
  let (run, rest) := digitRun isDigit cs
  if soundDigits true run then some (size + run.length, rest) else none

/-- An exponent, if one follows; its digits must not be missing. -/
def takeExponent (size : Nat) (cs : List Char) : NumberRead :=
  match cs with
  | 'e' :: '+' :: cs | 'e' :: '-' :: cs | 'E' :: '+' :: cs | 'E' :: '-' :: cs =>
      digits Char.isDigit (size + 2) cs
  | 'e' :: cs | 'E' :: cs => digits Char.isDigit (size + 1) cs
  | _ => some (size, cs)

/-- A number with a base mark; the mark has been read. -/
def takeBased (isDigit : Char → Bool) (cs : List Char) : NumberRead :=
  match digits isDigit 2 cs with
  | some (size, 'n' :: rest) => some (size + 1, rest)
  | read => read

/-- A decimal number; a leading zero stands alone before the point. -/
def takeDecimal (cs : List Char) : NumberRead :=
  let (whole, rest) := digitRun Char.isDigit cs
  let size := whole.length
  if !(soundDigits true whole && (whole.head? != some '0' || size == 1)) then none
  else match rest with
    | 'n' :: rest => some (size + 1, rest)
    | '.' :: rest =>
        let (fraction, rest) := digitRun Char.isDigit rest
        if fraction.isEmpty || soundDigits true fraction then
          takeExponent (size + 1 + fraction.length) rest
        else none
    | _ => takeExponent size rest

def takeFraction (cs : List Char) : NumberRead :=
  (digits Char.isDigit 1 cs).bind fun (size, rest) => takeExponent size rest

def endsNumber (cs : List Char) : Bool :=
  match cs with
  | [] => true
  | c :: _ => !(isNameStart c || c.isDigit || c == '\\')

def takeNumber (cs : List Char) : NumberRead :=
  let read := match cs with
    | '0' :: 'x' :: cs | '0' :: 'X' :: cs => takeBased isHex cs
    | '0' :: 'o' :: cs | '0' :: 'O' :: cs => takeBased (fun c => '0' ≤ c && c ≤ '7') cs
    | '0' :: 'b' :: cs | '0' :: 'B' :: cs => takeBased (fun c => c == '0' || c == '1') cs
    | '.' :: cs => takeFraction cs
    | _ => takeDecimal cs
  read.filter fun (_, rest) => endsNumber rest

/-! ### Patterns between slashes -/

/-- Reads up to the slash that closes a pattern. -/
def takePattern : Bool → List Char → Nat → Option Tail
  | _, [], _ => none
  | inClass, '\\' :: c :: cs, o =>
      if isLineEnd c then none else takePattern inClass cs (o + 1 + c.utf8Size)
  | inClass, c :: cs, o =>
      if isLineEnd c then none
      else if c = '/' && !inClass then some ⟨cs, o + 1⟩
      else takePattern (if c = '[' then true else if c = ']' then false else inClass) cs
        (o + c.utf8Size)

def soundFlags (flags : List Char) : Bool :=
  flags.all (fun c => "dgimsuvy".toList.contains c) && flags.eraseDups.length == flags.length

/-- Reads a pattern and its flags; the tail begins after the opening slash. -/
def takeRegex (t : Tail) : Option Tail := do
  let t ← takePattern false t.chars t.offset
  let n ← takeName .none t.chars t.offset ['_'] false
  if soundFlags (n.text.toList.drop 1) && !n.escaped then some n.rest else none

/-! ### Tokens -/

def takePunct (t : Tail) : Option (String × Tail) := do
  let (cs, s) ← punctuation.find? fun (p, _) => p.isPrefixOf t.chars
  if s == "<" && "<!--".toList.isPrefixOf t.chars then none
  else if s == "?." && ((t.chars.drop 2).head?.any Char.isDigit) then
    some ("?", ⟨t.chars.drop 1, t.offset + 1⟩)
  else some (s, ⟨t.chars.drop cs.length, t.offset + cs.length⟩)

/-- What a name reads as. A keyword with an escape after its first character is no token; one that
begins with an escape is an ordinary name. -/
def NameRead.token (n : NameRead) (first : Char) : Token :=
  if n.text.isEmpty || (n.escaped && first != '\\' && isKeyword n.text) then .invalid
  else .name n.text n.escaped

/-- The token that begins right here. -/
def takeToken (t : Tail) : Token × Tail :=
  match t.chars with
  | [] => (.done, t)
  | c :: cs =>
      if isNameStart c || c = '\\' then
        match takeName .none t.chars t.offset [] false with
        | some n => (n.token c, n.rest)
        | none => (.invalid, t)
      else if c.isDigit || (c = '.' && cs.head?.any Char.isDigit) then
        match takeNumber t.chars with
        | some (size, rest) => (.number, ⟨rest, t.offset + size⟩)
        | none => (.invalid, t)
      else if c = '"' || c = '\'' then
        match takeQuoted c cs (t.offset + 1) [] with
        | some (raw, rest) =>
            match decodeText raw.reverse with
            | some s => (.text s, rest)
            | none => (.invalid, t)
        | none => (.invalid, t)
      else if c = '#' then
        match takeName .none cs (t.offset + 1) [] false with
        | some n => if n.text.isEmpty then (.invalid, t) else (.privateName n.text, n.rest)
        | none => (.invalid, t)
      else
        match takePunct t with
        | some (p, rest) => (.punct p, rest)
        | none => (.invalid, t)

end Tail

end ServerLink.Script
