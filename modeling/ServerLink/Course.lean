import ServerLink.Session

/-!
A session as it runs: the calls that a bundler makes one after the other, what each is answered, and
what has happened since a build began. Files may change between two calls, so that each call comes
with the files as they are by then.
-/

set_option autoImplicit false

namespace ServerLink

/-- What a bundler asks of a session. -/
inductive Call where
  /-- A build is to begin; `fresh` is the salt to use where the options give none. -/
  | build (cwd : Path) (fresh : String)
  | observe (signal : Signal)
  | resolveId (specifier : String) (importer : Option Path)
  | load (path : Path) (onServer : Bool)
  | transform (code : List Char) (path : Path) (onServer : Bool)
  | renderChunk (code : List Char) (chunk : String)

inductive Reply where
  | done
  | failed (failure : Failure)
  | resolved (path : Option Path)
  | output (output : Option Output)

/-- A file was changed. -/
def Reply.changes : Reply → Bool
  | .output (some _) => true
  | _ => false

def Reply.ofOutput : Except Failure (Option Output) → Reply
  | .ok o => .output o
  | .error failure => .failed failure

/-- The answer to a call, and the session after it. A build that fails leaves it as it was. -/
def Session.answer (s : Session) (t : FileTree) : Call → Session × Reply
  | .build cwd fresh =>
      match s.build t cwd fresh with
      | .ok next => (next, .done)
      | .error failure => (s, .failed failure)
  | .observe signal => (s.observe signal, .done)
  | .resolveId specifier importer =>
      let (next, path) := s.resolveId t specifier importer
      (next, .resolved path)
  | .load path onServer => (s, .ofOutput (s.load t path onServer))
  | .transform code path onServer => (s, .ofOutput (s.transform t code path onServer))
  | .renderChunk code chunk => (s, .ofOutput (s.renderChunk code chunk))

/-! ### Events -/

structure Event where
  call : Call
  reply : Reply

namespace Event

/-- A build has begun. -/
def begins : Event → Bool
  | ⟨.build _ _, .done⟩ => true
  | _ => false

def signal? : Event → Option Signal
  | ⟨.observe signal, _⟩ => some signal
  | _ => none

def resolved? : Event → Option Path
  | ⟨.resolveId _ _, .resolved path⟩ => path
  | _ => none

/-- A file was changed when it was loaded. -/
def loads : Event → Bool
  | ⟨.load _ _, reply⟩ => reply.changes
  | _ => false

/-- A file was changed by `transform`. -/
def transforms : Event → Bool
  | ⟨.transform _ _ _, reply⟩ => reply.changes
  | _ => false

end Event

/-- The signal that came first, of events of which the latest stands first. -/
def firstSignal? (events : List Event) : Option Signal :=
  (events.filterMap Event.signal?).getLast?

/-! ### Courses -/

/-- A session with all that has happened in it, the latest first. -/
structure Course where
  session : Session
  past : List Event

namespace Course

def start (o : Options) (fresh : String) : Course := ⟨.start o fresh, []⟩

def next (c : Course) (t : FileTree) (call : Call) : Course :=
  let (session, reply) := c.session.answer t call
  ⟨session, ⟨call, reply⟩ :: c.past⟩

def after (c : Course) (calls : List (FileTree × Call)) : Course :=
  calls.foldl (fun c (t, call) => c.next t call) c

/-- What has happened since the last build began, or at all if none has. -/
def recent (c : Course) : List Event := c.past.takeWhile fun e => !e.begins

/-- The files that were resolved in this build. -/
def resolved (c : Course) : List Path := c.recent.filterMap Event.resolved?

/-- The first signal said that notes about files are kept, but came when `transform` had changed a
file already. -/
def SignalledLate (c : Course) : Prop :=
  firstSignal? c.recent = some .propagates ∧
    ∃ later e earlier, c.recent = later ++ e :: earlier ∧ e.transforms = true ∧
      firstSignal? earlier = none

end Course

end ServerLink
