import ServerLink.Files.Path

/-!
Everything that can go wrong, and the text that tells it.
-/

set_option autoImplicit false

namespace ServerLink

/-- Why a file cannot be read. -/
inductive ReadFailure where
  | notFound
  | isDirectory
  | notDirectory
  | tooManyLinks
  | notText
  deriving DecidableEq, Repr

def ReadFailure.message : ReadFailure → String
  | .notFound => "No such file or directory (os error 2)"
  | .notDirectory => "Not a directory (os error 20)"
  | .isDirectory => "Is a directory (os error 21)"
  | .tooManyLinks => "Too many levels of symbolic links (os error 40)"
  | .notText => "stream did not contain valid UTF-8"

inductive Failure where
  | read (path : Path) (cause : ReadFailure)
  /-- The text of a module is not one. -/
  | malformed (path : Path)
  | overlap (first second : Nat × Nat)
  | outside (start stop size : Nat)
  | options (detail : String)
  | pattern
  | notBuilt
  deriving DecidableEq, Repr

namespace Failure

def rangeText (r : Nat × Nat) : String :=
  "(" ++ toString r.1 ++ ", " ++ toString r.2 ++ ")"

def message : Failure → String
  | .read path cause => "failed to read " ++ path.text ++ ": " ++ cause.message
  | .malformed path => "failed to parse " ++ path.text
  | .overlap first second =>
      "overlapping replacements " ++ rangeText first ++ " and " ++ rangeText second
  | .outside start stop size =>
      "replacement " ++ toString start ++ ".." ++ toString stop ++ " does not fit a source of "
        ++ toString size ++ " bytes"
  | .options detail => "invalid configuration: " ++ detail
  | .pattern => "invalid file pattern"
  | .notBuilt => "server function registry used before build start"

end Failure

end ServerLink
