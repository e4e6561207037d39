import ServerLink.Script.Scanner
import ServerLink.Script.Tree

/-!
The reader of scripts: a step takes a setting, which says what the surrounding text allows, and a
cursor at a token, and gives a result with the cursor after it, or nothing. A `trial` may fail
without harm, and inside one only the shape of the text counts: a `fault` is passed over.
-/

set_option autoImplicit false

namespace ServerLink.Script

/-- What the text around the cursor allows. -/
structure Setting where
  /-- The language has types. -/
  typed : Bool
  /-- The language has markup. -/
  markup : Bool
  inFunction : Bool
  async : Bool
  generator : Bool
  /-- Where an arrow function may begin. -/
  arrowAt : Option Nat
  /-- Inside the parameters of a function. -/
  inParams : Bool
  /-- Inside the value of a field or a block of a class, where `arguments` means nothing. -/
  inField : Bool
  /-- `new.target` has a meaning. -/
  constructible : Bool
  allowIn : Bool
  /-- Inside a trial. -/
  lenient : Bool
  /-- Inside a `declare`d thing. -/
  ambient : Bool
  /-- The first branch of a conditional, which a colon must follow. -/
  colonAhead : Bool
  allowBreak : Bool
  allowContinue : Bool
  labels : List String
  /-- Conditional types are not taken up here. -/
  plainTypes : Bool
  /-- How often a loop may go round. -/
  budget : Nat

/-- The current token, and the text it was read from and that follows it. -/
structure Cursor where
  token : Token
  /-- The text from the token on. -/
  here : Tail
  /-- The text after the token. -/
  next : Tail
  /-- A line ended between the token before and this one. -/
  newline : Bool
  /-- Where the token before ended. -/
  lastStop : Nat

/-- The cursor at the first token of the tail. -/
def Cursor.at (t : Tail) : Cursor :=
  match Tail.skipGap .code t.chars t.offset false with
  | some (here, newline) =>
      let (token, next) := Tail.takeToken here
      ⟨token, here, next, newline, t.offset⟩
  | none => ⟨.invalid, t, t, false, t.offset⟩

def Parse (α : Type) : Type := Setting → Cursor → Option (α × Cursor)

namespace Parse

variable {α β σ : Type}

@[inline] protected def pure (a : α) : Parse α := fun _ c => some (a, c)

@[inline] protected def bind (p : Parse α) (f : α → Parse β) : Parse β := fun s c =>
  match p s c with
  | some (a, c) => f a s c
  | none => none

instance : Monad Parse where
  pure := Parse.pure
  bind := Parse.bind

def fail : Parse α := fun _ _ => none

def setting : Parse Setting := fun s c => some (s, c)

def cursor : Parse Cursor := fun _ c => some (c, c)

def moveTo (c : Cursor) : Parse Unit := fun _ _ => some ((), c)

/-- Runs a step in another setting. -/
@[inline] def within (change : Setting → Setting) (p : Parse α) : Parse α := fun s c =>
  p (change s) c

/-- What the step would give, without moving. -/
def lookahead (p : Parse α) : Parse (Option α) := fun s c =>
  some ((p s c).map Prod.fst, c)

/-- Runs a step whose failure moves nothing. -/
def trial (p : Parse α) : Parse (Option α) := fun s c =>
  match p { s with lenient := true } c with
  | some (a, c) => some (some a, c)
  | none => some (none, c)

/-- An error that leaves the shape of the text readable. -/
def fault : Parse Unit := fun s c => if s.lenient then some ((), c) else none

def faultIf (b : Bool) : Parse Unit := if b then fault else pure ()

def failIf (b : Bool) : Parse Unit := if b then fail else pure ()

/-- Goes round until a step says that it was the last. -/
def loopUpTo (step : σ → Parse (σ × Bool)) : Nat → σ → Parse σ
  | 0, _ => fail
  | n + 1, a => do
      let (a, more) ← step a
      if more then loopUpTo step n a else pure a

def loop (step : σ → Parse (σ × Bool)) (a : σ) : Parse σ := fun s c =>
  loopUpTo step s.budget a s c

/-! ### Tokens -/

def token : Parse Token := fun _ c => some (c.token, c)

/-- Where the current token begins. -/
def here : Parse Nat := fun _ c => some (c.here.offset, c)

/-- Where the token before ended. -/
def lastStop : Parse Nat := fun _ c => some (c.lastStop, c)

/-- A line ended before the current token. -/
def newline : Parse Bool := fun _ c => some (c.newline, c)

def typed : Parse Bool := fun s c => some (s.typed, c)

def advance : Parse Unit := fun _ c =>
  if c.token = .invalid then none else some ((), Cursor.at c.next)

def isPunct (p : String) : Parse Bool := fun _ c => some (c.token == .punct p, c)

def isAnyPunct (ps : List String) : Parse Bool := fun _ c =>
  some (match c.token with
    | .punct p => ps.contains p
    | _ => false, c)

/-- The current token is this word, written plainly. -/
def isWord (w : String) : Parse Bool := fun _ c => some (c.token == .name w false, c)

def isDone : Parse Bool := fun _ c => some (c.token == .done, c)

def eat (p : String) : Parse Bool := do
  if ← isPunct p then
    advance
    pure true
  else pure false

def eatWord (w : String) : Parse Bool := do
  if ← isWord w then
    advance
    pure true
  else pure false

def expect (p : String) : Parse Unit := do
  if ← isPunct p then advance else fail

def expectWord (w : String) : Parse Unit := do
  if ← isWord w then advance else fail

/-- The cursor at the token after the current one. -/
def following : Parse Cursor := fun _ c => some (Cursor.at c.next, c)

def followedBy (p : String) : Parse Bool := do
  return (← following).token == .punct p

/-- The end of a statement: a semicolon, or a place where one may be left out. -/
def semicolonAhead : Parse Bool := do
  if ← isAnyPunct [";", "\x7d"] then pure true
  else if ← isDone then pure true
  else newline

def semicolon : Parse Unit := do
  if ← eat ";" then pure ()
  else if ← semicolonAhead then pure ()
  else fail

/-- A tree from `start` to the end of the last token read. -/
def node (kind : Kind) (start : Nat) (parts : List Node) : Parse Node := do
  return .mk kind ⟨start, ← lastStop⟩ parts

/-- Items between commas up to a closing token, which is read too; a comma may end the list. -/
def listUntil (close : String) (item : Parse Node) : Parse (List Node) := do
  let items ← loop (fun items => do
    if ← isPunct close then pure (items, false)
    else
      let i ← item
      if ← isPunct close then pure (i :: items, false)
      else
        expect ","
        pure (i :: items, true)) []
  expect close
  pure items.reverse

/-! ### Names -/

/-- Any word at all, keyword or not. -/
def anyName : Parse String := do
  match ← token with
  | .name s _ => advance; pure s
  | _ => fail

/-- A name that may stand for a value. -/
def plainName : Parse String := do
  match ← token with
  | .name s escaped =>
      failIf (isReserved s && !escaped)
      faultIf (isStrictReserved s && !(escaped && isKeyword s))
      faultIf (s == "arguments" && (← setting).inField)
      advance
      pure s
  | _ => fail

def isPlainName (t : Token) : Bool :=
  match t with
  | .name s escaped => !isReserved s || escaped
  | _ => false

/-- A name that is being declared as a value. -/
def bindingName : Parse String := do
  let s ← plainName
  faultIf (s == "eval" || s == "arguments")
  pure s

def word : Parse Node := do
  let start ← here
  let s ← anyName
  node (.word s) start []

end Parse

end ServerLink.Script
