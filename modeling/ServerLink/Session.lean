import ServerLink.Build
import ServerLink.Rename

/-!
A session with a bundler: what it has been told and has found out, and the hooks it answers. In
one build either `load` or `transform` changes files, never both; the bundler shows which of them
can, and its first word counts.
-/

set_option autoImplicit false

namespace ServerLink

/-- The hooks that change files. -/
inductive HookShape where
  /-- A file is noted when it is resolved, and changed when it is loaded. -/
  | resolveLoad
  | transform
  deriving DecidableEq, Repr

/-- What a bundler does with what is noted about a file when it is resolved. -/
inductive Signal where
  | propagates
  | dropped
  deriving DecidableEq, Repr

def Signal.shape : Signal → HookShape
  | .propagates => .resolveLoad
  | .dropped => .transform

structure Session where
  options : Options
  registry : Option Registry
  /-- The hooks in use, once the bundler has shown them. -/
  observed : Option HookShape
  /-- The files that were resolved in this build. -/
  flagged : List Path
  salt : String

namespace Session

/-- A new session; `fresh` is the salt to use where the options give none. -/
def start (o : Options) (fresh : String) : Session :=
  ⟨o, none, none, [], o.buildSalt.getD fresh⟩

/-- Where the project is, seen from the working directory. -/
def projectRoot (o : Options) (cwd : Path) : Path :=
  match o.root with
  | some root => cwd.join ⟨root⟩
  | none => cwd

/-- Searches the project. If that succeeds, all that was known of the build before is forgotten. -/
def build (s : Session) (t : FileTree) (cwd : Path) (fresh : String) : Except Failure Session := do
  let d ← Discovery.ofOptions s.options
  let r ← d.build t (projectRoot s.options cwd)
  return ⟨s.options, some r, none, [], s.options.buildSalt.getD fresh⟩

def observe (s : Session) (signal : Signal) : Session :=
  match s.observed with
  | some _ => s
  | none => { s with observed := some signal.shape }

def shape (s : Session) : HookShape := s.observed.getD .transform

def builtRegistry (s : Session) : Except Failure Registry :=
  match s.registry with
  | some r => .ok r
  | none => .error .notBuilt

/-- The file is one of source, in no excluded directory below the root. -/
def isCandidate (s : Session) (p : Path) : Bool :=
  let rel := ((s.registry.bind fun r => p.below? r.root)).getD p
  s.options.hasSourceExtension p && !s.options.isExcluded rel

/-! ### Hooks -/

/-- The file that a specifier means, which is then known to have been resolved. Without an
importer the specifier is a path. -/
def resolveId (s : Session) (t : FileTree) (specifier : String) (importer : Option Path) :
    Session × Option Path :=
  let path :=
    match s.shape, importer with
    | .transform, _ => none
    | .resolveLoad, some i => t.resolve? i specifier s.options.extensions
    | .resolveLoad, none => (t.canonical ⟨specifier⟩).toOption
  match path.filter s.isCandidate with
  | some p => ({ s with flagged := p :: s.flagged }, some p)
  | none => (s, none)

/-- Makes a text ready for the side that the options and the call ask for. -/
def run (s : Session) (t : FileTree) (p : Path) (text : List Char) (onServer : Bool) :
    Except Failure (Option Output) := do
  let r ← s.builtRegistry
  return (← transformFile s.options t r (s.options.target.side onServer) p text).output?

def load (s : Session) (t : FileTree) (p : Path) (onServer : Bool) :
    Except Failure (Option Output) := do
  if s.shape = .resolveLoad && s.flagged.any (·.same p) then s.run t p (← t.read p) onServer
  else return none

def transform (s : Session) (t : FileTree) (code : List Char) (p : Path) (onServer : Bool) :
    Except Failure (Option Output) :=
  if s.shape = .transform && s.isCandidate p then s.run t p code onServer else .ok none

/-- Renames the global names in a finished chunk of a production build. -/
def renderChunk (s : Session) (code : List Char) (chunk : String) :
    Except Failure (Option Output) :=
  if s.options.production then
    (s.options.globals.rename s.salt code chunk s.options.sourceMaps).map Applied.output?
  else .ok none

end Session

end ServerLink
