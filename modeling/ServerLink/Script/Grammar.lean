import ServerLink.Script.Grammar.ModuleItem

/-!
The grammar as a whole: the rules of all goals tied together, and the reading of a whole script.
Goals nest no deeper than a fixed number of times between two tokens, so a depth proportional to
the length of the text is enough. Carriage returns begin no token and so do not count.
-/

set_option autoImplicit false

namespace ServerLink.Script

open Text

/-- The rule of each goal. -/
def Goal.rule (self : Goal → Parse Node) : Goal → Parse Node
  | .expression => Parse.expression self
  | .assignment => Parse.assignment self
  | .operation rank => Parse.operation self rank
  | .unary => Parse.unary self
  | .leftHand => Parse.leftHand self
  | .constructed => Parse.constructed self
  | .pattern => Parse.bindingPattern self
  | .type => Parse.typeExpression self
  | .returnType => Parse.returnType self
  | .markup => Parse.element self
  | .statement => Parse.statement self
  | .item => Parse.item self
  | .moduleItem => Parse.moduleItem self
  | .block => Parse.bracedItems self .block
  | .body => Parse.bracedItems self .body

/-- Reads a goal in which goals nest less deep than `depth`. -/
def Goal.read : Nat → Goal → Parse Node
  | 0, _ => Parse.fail
  | depth + 1, g => g.rule (Goal.read depth)

/-- What a script may be written in besides its core. -/
structure Language where
  typed : Bool
  markup : Bool
  deriving DecidableEq, Repr

def Language.setting (l : Language) (size : Nat) : Setting where
  typed := l.typed
  markup := l.markup
  inFunction := false
  async := false
  generator := false
  arrowAt := none
  inParams := false
  inField := false
  constructible := false
  allowIn := true
  lenient := false
  ambient := false
  colonAhead := false
  allowBreak := false
  allowContinue := false
  labels := []
  plainTypes := false
  budget := size + 2

mutual

/-- A default stands where only a pattern may have one. -/
def Node.hasStrayDefault : Node → Bool
  | .mk k _ ps => k == .initialized || anyStrayDefault ps

def anyStrayDefault : List Node → Bool
  | [] => false
  | p :: ps => p.hasStrayDefault || anyStrayDefault ps

end

/-- A line at the very start that tells a shell what runs the script. -/
def skipShellLine (t : Tail) : Tail :=
  match t.chars with
  | '#' :: '!' :: cs =>
      let line := cs.takeWhile (!isLineEnd ·)
      ⟨cs.drop line.length, t.offset + 2 + byteLength line⟩
  | _ => t

def Parse.script (depth : Nat) : Parse (List Node) := do
  let items ← Parse.loop (fun items => do
    if ← Parse.isDone then pure (items, false)
    else
      let i ← Goal.read depth .moduleItem
      pure (i :: items, true)) []
  pure items.reverse

/-- The items of a script, with offsets into the text without its byte order mark. -/
def parseScript (l : Language) (text : List Char) : Option (List Node) :=
  let text := withoutMark text
  let size := text.countP (· != '\r')
  match Parse.script (64 * (size + 2)) (l.setting size) (.at (skipShellLine ⟨text, 0⟩)) with
  | some (items, _) => if anyStrayDefault items then none else some items
  | none => none

end ServerLink.Script
