import ServerLink.Text.CharClass

/-!
The tokens of a script. Names and keywords are one kind of token: the grammar decides by place
which names are keywords. `>` is always a token of its own, and what begins with a slash, a
backquote or a closing brace is read again where the grammar expects a pattern or a template.
-/

set_option autoImplicit false

namespace ServerLink.Script

inductive Token where
  | done
  /-- A name or keyword, with its escapes decoded; `escaped` when it was written with any. -/
  | name (text : String) (escaped : Bool)
  | privateName (text : String)
  | number
  | text (value : String)
  | punct (text : String)
  /-- No token begins here. -/
  | invalid
  deriving DecidableEq, Repr

/-- Punctuation, longer forms first. -/
def punctuation : List (List Char × String) :=
  ["...", "===", "!==", "**=", "<<=", "&&=", "||=", "??=",
   "=>", "==", "!=", "<=", "<<", "&&", "||", "??", "?.", "++", "--", "+=", "-=", "*=", "/=",
   "%=", "&=", "|=", "^=", "**",
   "\x7b", "\x7d", "(", ")", "[", "]", ";", ",", "<", ">", "+", "-", "*", "/", "%", "&", "|", "^",
   "!", "~", "?", ":", "=", ".", "@", "\x60"].map fun s => (s.toList, s)

/-- Words that never name anything. -/
def reservedWords : List String :=
  ["break", "case", "catch", "class", "const", "continue", "debugger", "default", "delete", "do",
   "else", "enum", "export", "extends", "false", "finally", "for", "function", "if", "import", "in",
   "instanceof", "new", "null", "return", "super", "switch", "this", "throw", "true", "try",
   "typeof", "var", "void", "while", "with"]

/-- Further words that name nothing in modules, which are always strict. -/
def strictWords : List String :=
  ["implements", "interface", "let", "package", "private", "protected", "public", "static", "yield",
   "await"]

def isReserved (s : String) : Bool := reservedWords.contains s

def isStrictReserved (s : String) : Bool := strictWords.contains s

/-- The word means something to the grammar wherever it stands. -/
def isKeyword (s : String) : Bool := isReserved s || ["await", "let", "yield"].contains s

end ServerLink.Script
