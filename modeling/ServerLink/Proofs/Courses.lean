import ServerLink.Course
import ServerLink.Proofs.Agreement
import ServerLink.Proofs.Candidates

/-!
What holds in the course of a session. A session knows what has happened in it since the last build
began: which files were resolved, what signal came first, and by which hook files were changed.
-/

set_option autoImplicit false

namespace ServerLink

/-! ### Single calls -/

theorem Reply.changes_ofOutput {result : Except Failure (Option Output)}
    (changes : (Reply.ofOutput result).changes = true) : ∃ output, result = .ok (some output) := by
  rcases result with cause | output
  · simp [ofOutput, Reply.changes] at changes
  · cases output with
    | none => simp [ofOutput, Reply.changes] at changes
    | some output => exact ⟨output, rfl⟩

/-- What becomes of a session with an event by which no build begins. -/
structure Session.Keeps (s : Session) (e : Event) (s' : Session) : Prop where
  options : s'.options = s.options
  registry : s'.registry = s.registry
  salt : s'.salt = s.salt
  observed : s'.observed = s.observed.or (e.signal?.map Signal.shape)
  flagged : s'.flagged = e.resolved?.toList ++ s.flagged
  candidate : ∀ p, e.resolved? = some p → s.isCandidate p = true
  loads : e.loads = true → s.shape = .resolveLoad
  transforms : e.transforms = true → s.shape = .transform
  rendered : ∀ code chunk, e.call = .renderChunk code chunk →
    e.reply = .ofOutput (s.renderChunk code chunk)

/-- What becomes of a session with an event by which a build begins. -/
structure Session.Restarts (s s' : Session) : Prop where
  options : s'.options = s.options
  observed : s'.observed = none
  flagged : s'.flagged = []

namespace Session

section

variable {s : Session} {t : FileTree} {p : Path}

theorem build_eq {d : Discovery} {r : Registry} {cwd : Path} (fresh : String)
    (searched : Discovery.ofOptions s.options = .ok d)
    (found : d.build t (projectRoot s.options cwd) = .ok r) :
    s.build t cwd fresh = .ok ⟨s.options, some r, none, [], s.options.buildSalt.getD fresh⟩ := by
  simp only [build, searched, found, bind, Except.bind, pure, Except.pure]

theorem resolveId_eq (shape : s.shape = .resolveLoad) {specifier : String}
    (canonical : t.canonical ⟨specifier⟩ = .ok p) (candidate : s.isCandidate p = true) :
    s.resolveId t specifier none = ({ s with flagged := p :: s.flagged }, some p) := by
  have path : (t.canonical ⟨specifier⟩).toOption = some p := by rw [canonical]; rfl
  unfold resolveId
  rw [shape]
  simp only [path, Option.filter_some, candidate, if_true]

theorem load_eq (t : FileTree) (onServer : Bool) (shape : s.shape = .resolveLoad)
    (noted : s.flagged.any (·.same p) = true) :
    s.load t p onServer = (t.read p).bind fun text => s.run t p text onServer := by
  unfold load
  rw [if_pos (by simp [shape, noted])]
  rfl

theorem load_of_read {text : List Char} (onServer : Bool) (shape : s.shape = .resolveLoad)
    (noted : s.flagged.any (·.same p) = true) (read : t.read p = .ok text) :
    s.load t p onServer = s.run t p text onServer := by
  rw [load_eq t onServer shape noted, read]
  rfl

theorem transform_eq (t : FileTree) (text : List Char) (onServer : Bool)
    (shape : s.shape = .transform) (candidate : s.isCandidate p = true) :
    s.transform t text p onServer = s.run t p text onServer := by
  unfold transform
  rw [if_pos (by simp [shape, candidate])]

theorem run_eq {r : Registry} {q : Path} {text : List Char} {m : Module} (onServer : Bool)
    (built : s.registry = some r) (canonical : t.canonical p = .ok q)
    (parsed : Module.parse q text = .ok m) :
    s.run t p text onServer =
      (transformModule s.options t r (s.options.target.side onServer) m).map Applied.output? := by
  simp only [run, builtRegistry, built, transformFile, canonical, parsed, bind, Except.bind, pure,
    Except.pure, Except.map]

end

theorem restarts_of_build {s s' : Session} {t : FileTree} {cwd : Path} {fresh : String}
    (built : s.build t cwd fresh = .ok s') : s.Restarts s' := by
  unfold build at built
  cases searched : Discovery.ofOptions s.options with
  | error cause => simp [searched, bind, Except.bind] at built
  | ok d =>
    cases found : d.build t (projectRoot s.options cwd) with
    | error cause => simp [searched, found, bind, Except.bind] at built
    | ok r =>
      obtain rfl : _ = s' := by
        simpa [searched, found, bind, Except.bind, pure, Except.pure] using built
      exact ⟨rfl, rfl, rfl⟩

theorem keeps_itself {s : Session} {e : Event} (signal : e.signal? = none)
    (resolved : e.resolved? = none) (loads : e.loads = true → s.shape = .resolveLoad)
    (transforms : e.transforms = true → s.shape = .transform)
    (rendered : ∀ code chunk, e.call = .renderChunk code chunk →
      e.reply = .ofOutput (s.renderChunk code chunk)) : s.Keeps e s where
  options := rfl
  registry := rfl
  salt := rfl
  observed := by simp [signal]
  flagged := by simp [resolved]
  candidate := by simp [resolved]
  loads := loads
  transforms := transforms
  rendered := rendered

theorem keeps_observe (s : Session) (signal : Signal) :
    s.Keeps ⟨.observe signal, .done⟩ (s.observe signal) := by
  unfold observe
  cases known : s.observed <;> constructor <;>
    simp [known, Event.signal?, Event.resolved?, Event.loads, Event.transforms]

theorem keeps_resolveId (s : Session) (t : FileTree) (specifier : String) (importer : Option Path) :
    s.Keeps ⟨.resolveId specifier importer, .resolved (s.resolveId t specifier importer).2⟩
      (s.resolveId t specifier importer).1 := by
  unfold resolveId
  simp only
  split
  · next p found =>
    have candidate := (Option.filter_eq_some_iff.1 found).2
    constructor <;> simp [Event.signal?, Event.resolved?, Event.loads, Event.transforms, candidate]
  · constructor <;> simp [Event.signal?, Event.resolved?, Event.loads, Event.transforms]

theorem shape_of_load {s : Session} {t : FileTree} {p : Path} {onServer : Bool} {output : Output}
    (loaded : s.load t p onServer = .ok (some output)) : s.shape = .resolveLoad := by
  unfold load at loaded
  split at loaded
  · next noted =>
    simp only [Bool.and_eq_true, decide_eq_true_eq] at noted
    exact noted.1
  · simp [pure, Except.pure] at loaded

theorem shape_of_transform {s : Session} {t : FileTree} {code : List Char} {p : Path}
    {onServer : Bool} {output : Output}
    (changed : s.transform t code p onServer = .ok (some output)) : s.shape = .transform := by
  unfold transform at changed
  split at changed
  · next candidate =>
    simp only [Bool.and_eq_true, decide_eq_true_eq] at candidate
    exact candidate.1
  · simp at changed

-- All that a call can do.
theorem answer_cases (s : Session) (t : FileTree) (call : Call) :
    ((⟨call, (s.answer t call).2⟩ : Event).begins = true ∧ s.Restarts (s.answer t call).1) ∨
      ((⟨call, (s.answer t call).2⟩ : Event).begins = false ∧
        s.Keeps ⟨call, (s.answer t call).2⟩ (s.answer t call).1) := by
  cases call with
  | build cwd fresh =>
    cases built : s.build t cwd fresh with
    | ok next =>
      left
      simp only [answer, built]
      exact ⟨rfl, restarts_of_build built⟩
    | error failure =>
      -- a build that fails does not begin
      right
      simp only [answer, built]
      exact ⟨rfl, keeps_itself rfl rfl (by simp [Event.loads]) (by simp [Event.transforms]) (by simp)⟩
  | observe signal => exact Or.inr ⟨rfl, s.keeps_observe signal⟩
  | resolveId specifier importer => exact Or.inr ⟨rfl, s.keeps_resolveId t specifier importer⟩
  | load p onServer =>
    refine Or.inr ⟨rfl, keeps_itself rfl rfl (fun loads => ?_) (by simp [Event.transforms]) (by simp)⟩
    obtain ⟨output, loaded⟩ := Reply.changes_ofOutput loads
    exact shape_of_load loaded
  | transform code p onServer =>
    refine Or.inr ⟨rfl, keeps_itself rfl rfl (by simp [Event.loads]) (fun changed => ?_) (by simp)⟩
    obtain ⟨output, changed⟩ := Reply.changes_ofOutput changed
    exact shape_of_transform changed
  | renderChunk code chunk =>
    refine Or.inr ⟨rfl, keeps_itself rfl rfl (by simp [Event.loads]) (by simp [Event.transforms]) ?_⟩
    rintro code' chunk' same
    obtain ⟨rfl, rfl⟩ : code = code' ∧ chunk = chunk' := by simpa using same
    rfl

end Session

/-! ### The state of a session -/

/-- What a session knows of its course, and what has been done in it. -/
structure Course.Sound (o : Options) (c : Course) : Prop where
  options : c.session.options = o
  observed : c.session.observed = (firstSignal? c.recent).map Signal.shape
  flagged : c.session.flagged = c.resolved
  candidates : ∀ p ∈ c.resolved, c.session.isCandidate p = true
  loads : ∀ later e earlier, c.recent = later ++ e :: earlier → e.loads = true →
    firstSignal? earlier = some .propagates
  transforms : ∀ later e earlier, c.recent = later ++ e :: earlier → e.transforms = true →
    firstSignal? earlier ≠ some .propagates
  rendered : ∀ e ∈ c.recent, ∀ code chunk, e.call = .renderChunk code chunk →
    e.reply = .ofOutput (c.session.renderChunk code chunk)

namespace Course

variable {o : Options} {c : Course}

theorem firstSignal?_append (later earlier : List Event) :
    firstSignal? (later ++ earlier) = (firstSignal? earlier).or (firstSignal? later) := by
  simp only [firstSignal?, List.filterMap_append, List.getLast?_append]

theorem firstSignal?_cons (e : Event) (events : List Event) :
    firstSignal? (e :: events) = (firstSignal? events).or e.signal? := by
  have alone : firstSignal? [e] = e.signal? := by
    cases signal : e.signal? <;> simp [firstSignal?, signal]
  rw [← alone, ← firstSignal?_append, List.singleton_append]

theorem Sound.shape_eq (sound : c.Sound o) :
    (c.session.shape = .resolveLoad ↔ firstSignal? c.recent = some .propagates) ∧
      (c.session.shape = .transform ↔ firstSignal? c.recent ≠ some .propagates) := by
  unfold Session.shape
  rw [sound.observed]
  cases firstSignal? c.recent with
  | none => simp
  | some signal => cases signal <;> simp [Signal.shape]

theorem sound_start (o : Options) (fresh : String) : (Course.start o fresh).Sound o := by
  constructor <;> simp [start, recent, resolved, firstSignal?, Session.start]

theorem sound_restart (sound : c.Sound o) {s : Session} {e : Event} (begins : e.begins = true)
    (restarts : c.session.Restarts s) : (⟨s, e :: c.past⟩ : Course).Sound o := by
  have nothing : (⟨s, e :: c.past⟩ : Course).recent = [] := by simp [recent, begins]
  constructor
  · exact restarts.options.trans sound.options
  · simp [nothing, restarts.observed, firstSignal?]
  · simp [resolved, nothing, restarts.flagged]
  all_goals simp [resolved, nothing]

theorem sound_event (sound : c.Sound o) {s : Session} {e : Event} (goesOn : e.begins = false)
    (keeps : c.session.Keeps e s) : (⟨s, e :: c.past⟩ : Course).Sound o := by
  have events : (⟨s, e :: c.past⟩ : Course).recent = e :: c.recent := by simp [recent, goesOn]
  -- with the same registry files stay candidates
  have candidate (p : Path) : s.isCandidate p = c.session.isCandidate p := by
    simp only [Session.isCandidate, keeps.options, keeps.registry]
  -- an event in the list is the new one or one of those before it
  have split {P : Event → List Event → Prop} (new : P e c.recent)
      (old : ∀ later e' earlier, c.recent = later ++ e' :: earlier → P e' earlier) :
      ∀ later e' earlier, e :: c.recent = later ++ e' :: earlier → P e' earlier := by
    intro later e' earlier parts
    rcases List.cons_eq_append_iff.1 parts with ⟨-, same⟩ | ⟨more, -, same⟩
    · obtain ⟨rfl, rfl⟩ := List.cons.inj same
      exact new
    · exact old more e' earlier same
  constructor
  · exact keeps.options.trans sound.options
  · rw [events, firstSignal?_cons, keeps.observed, sound.observed]
    cases firstSignal? c.recent <;> simp
  · simp only [resolved, events, keeps.flagged, sound.flagged, List.filterMap_cons]
    cases e.resolved? <;> simp
  · intro p member
    rw [candidate]
    simp only [resolved, events, List.filterMap_cons] at member
    cases new : e.resolved? with
    | none =>
      simp only [new] at member
      exact sound.candidates p member
    | some q =>
      simp only [new, List.mem_cons] at member
      rcases member with rfl | earlier
      · exact keeps.candidate p new
      · exact sound.candidates p earlier
  · rw [events]
    refine split (P := fun e earlier => e.loads = true → firstSignal? earlier = some .propagates)
      (fun loads => ?_) sound.loads
    exact sound.shape_eq.1.1 (keeps.loads loads)
  · rw [events]
    refine split (P := fun e earlier => e.transforms = true → firstSignal? earlier ≠ some .propagates)
      (fun transforms => ?_) sound.transforms
    exact sound.shape_eq.2.1 (keeps.transforms transforms)
  · rw [events]
    intro e' member code chunk call
    -- chunks were rendered as they would be now
    have same : s.renderChunk code chunk = c.session.renderChunk code chunk := by
      simp only [Session.renderChunk, keeps.options, keeps.salt]
    change e'.reply = .ofOutput (s.renderChunk code chunk)
    rw [same]
    rcases List.mem_cons.1 member with rfl | earlier
    · exact keeps.rendered code chunk call
    · exact sound.rendered e' earlier code chunk call

theorem sound_next (sound : c.Sound o) (t : FileTree) (call : Call) : (c.next t call).Sound o := by
  rcases c.session.answer_cases t call with ⟨begins, restarts⟩ | ⟨goesOn, keeps⟩
  · exact sound_restart sound begins restarts
  · exact sound_event sound goesOn keeps

-- Whatever is asked of a session, it knows what has happened in it.
theorem sound_after (sound : c.Sound o) (calls : List (FileTree × Call)) :
    (c.after calls).Sound o := by
  induction calls generalizing c with
  | nil => exact sound
  | cons call calls ih => exact ih (sound_next sound call.1 call.2)

theorem Sound.isCandidate (sound : c.Sound o) {p q : Path} (member : q ∈ c.resolved)
    (same : q.same p = true) : c.session.isCandidate p = true :=
  (c.session.isCandidate_of_same same).symm.trans (sound.candidates q member)

-- Loading a file that was resolved is reading it and changing the text as `transform` would.
theorem Sound.load_eq (sound : c.Sound o) (t : FileTree) (p : Path) (onServer : Bool) :
    c.session.load t p onServer =
      if c.session.shape = .resolveLoad ∧ ∃ q ∈ c.resolved, q.same p = true then
        (t.read p).bind fun text =>
          { c.session with observed := some .transform }.transform t text p onServer
      else .ok none := by
  have noted : c.session.flagged.any (·.same p) = true ↔ ∃ q ∈ c.resolved, q.same p = true := by
    rw [sound.flagged, List.any_eq_true]
  split
  · next loads =>
    obtain ⟨shape, q, member, same⟩ := loads
    have candidate : { c.session with observed := some .transform }.isCandidate p = true :=
      sound.isCandidate member same
    rw [Session.load_eq t onServer shape (noted.2 ⟨q, member, same⟩)]
    exact congrArg _ (funext fun text => (Session.transform_eq t text onServer rfl candidate).symm)
  · next loads =>
    unfold Session.load
    rw [if_neg (by simpa only [Bool.and_eq_true, decide_eq_true_eq, noted] using loads)]
    rfl

theorem Sound.first_of_loads (sound : c.Sound o) {e : Event} (member : e ∈ c.recent)
    (loads : e.loads = true) : firstSignal? c.recent = some .propagates := by
  obtain ⟨later, earlier, parts⟩ := List.append_of_mem member
  rw [parts, firstSignal?_append, firstSignal?_cons, sound.loads later e earlier parts loads]
  rfl

-- A change made by `transform` under such a first signal came before it.
theorem Sound.signalledLate (sound : c.Sound o) {e : Event} (member : e ∈ c.recent)
    (transforms : e.transforms = true) (first : firstSignal? c.recent = some .propagates) :
    c.SignalledLate := by
  obtain ⟨later, earlier, parts⟩ := List.append_of_mem member
  refine ⟨first, later, e, earlier, parts, transforms, ?_⟩
  -- a signal before the change would be the first of all, but it would say something else
  have other := sound.transforms later e earlier parts transforms
  cases before : firstSignal? earlier with
  | none => rfl
  | some signal =>
    rw [parts, firstSignal?_append, firstSignal?_cons, before] at first
    exact absurd (before.trans first) other

end Course

/-! ### The course of every session -/

/-- After any calls, loading does something only to files that were resolved since the build began,
if that is the hook in use, and then what `transform` would do; all these files are candidates. A
build that fails changes nothing, and between two builds all chunks get the same salt. -/
theorem loaded_as_transformed (o : Options) (fresh : String) (calls : List (FileTree × Call)) :
    let c := (Course.start o fresh).after calls
    (∀ t p onServer, c.session.load t p onServer =
      if c.session.shape = .resolveLoad ∧ ∃ q ∈ c.resolved, q.same p = true then
        (t.read p).bind fun text =>
          { c.session with observed := some .transform }.transform t text p onServer
      else .ok none) ∧
    (∀ q ∈ c.resolved, ∀ p, q.same p = true → c.session.isCandidate p = true) ∧
    (∀ t cwd fresh' failure, (c.session.answer t (.build cwd fresh')).2 = .failed failure →
      (c.session.answer t (.build cwd fresh')).1 = c.session) ∧
    ∀ e ∈ c.recent, ∀ code chunk, e.call = .renderChunk code chunk → e.reply = .ofOutput
      (if o.production then
        (o.globals.rename c.session.salt code chunk o.sourceMaps).map Applied.output?
      else .ok none) := by
  intro c
  have sound : c.Sound o := Course.sound_after (Course.sound_start o fresh) calls
  refine ⟨sound.load_eq, fun q member p => sound.isCandidate member, ?_, ?_⟩
  · intro t cwd fresh' failure failed
    simp only [Session.answer] at failed ⊢
    split at failed
    · simp at failed
    · rfl
  · intro e member code chunk call
    rw [sound.rendered e member code chunk call, Session.renderChunk, sound.options]

namespace Sample

/-- A session in which a build of the project has begun. -/
def building : Session := ⟨.standard, some registry, none, [], "s"⟩

def resolving : Session := { building with observed := some .resolveLoad }

def loading : Session := { resolving with flagged := [path] }

/-- What becomes of the file on the server. -/
def served : Except Failure (Option Output) :=
  (transformModule .standard project registry .server nested.module).map Applied.output?

theorem served_changes : (Reply.ofOutput served).changes = true := by decide +kernel

theorem build_start :
    (Session.start .standard "s").build project ⟨"/p"⟩ "s" = .ok building :=
  Session.build_eq "s" rfl project_built

theorem candidates :
    building.isCandidate path = true ∧ resolving.isCandidate path = true ∧
      loading.flagged.any (·.same path) = true := by
  decide +kernel

theorem transform_building : building.transform project nested.text path true = served :=
  (Session.transform_eq project nested.text true rfl candidates.1).trans
    (Session.run_eq true rfl project_canonical nested.parsed)

theorem resolveId_resolving :
    resolving.resolveId project "/p/a.ts" none = (loading, some path) :=
  Session.resolveId_eq rfl project_canonical candidates.2.1

theorem load_loading : loading.load project path true = served :=
  (Session.load_of_read true rfl candidates.2.2 project_read).trans
    (Session.run_eq true rfl project_canonical nested.parsed)

/-- What happens in a build of the project. -/
def courseOf (calls : List Call) : Course :=
  (Course.start .standard "s").after ((.build ⟨"/p"⟩ "s" :: calls).map (project, ·))

/-- The file is resolved and loaded once the signal has come. -/
def signalled : List Call := [.observe .propagates, .resolveId "/p/a.ts" none, .load path true]

/-- The same, but the file was given to `transform` before. -/
def late : List Call := .transform nested.text path true :: signalled

theorem after_signalled (past : List Event) :
    (Course.mk building past).after (signalled.map (project, ·)) =
      ⟨loading, ⟨.load path true, .ofOutput served⟩ ::
        ⟨.resolveId "/p/a.ts" none, .resolved (some path)⟩ :: ⟨.observe .propagates, .done⟩ ::
        past⟩ := by
  have observed : building.observe .propagates = resolving := rfl
  simp only [signalled, List.map_cons, List.map_nil, Course.after, List.foldl_cons, List.foldl_nil,
    Course.next, Session.answer, observed, resolveId_resolving, load_loading]

theorem courseOf_signalled :
    courseOf signalled = ⟨loading, ⟨.load path true, .ofOutput served⟩ ::
        ⟨.resolveId "/p/a.ts" none, .resolved (some path)⟩ :: ⟨.observe .propagates, .done⟩ ::
        [⟨.build ⟨"/p"⟩ "s", .done⟩]⟩ := by
  rw [← after_signalled]
  simp only [courseOf, List.map_cons, Course.after, List.foldl_cons, Course.next, Course.start,
    Session.answer, build_start]

theorem recent_signalled :
    (courseOf signalled).recent = [⟨.load path true, .ofOutput served⟩,
      ⟨.resolveId "/p/a.ts" none, .resolved (some path)⟩, ⟨.observe .propagates, .done⟩] := by
  rw [courseOf_signalled]
  rfl

theorem recent_late :
    (courseOf late).recent = [⟨.load path true, .ofOutput served⟩,
      ⟨.resolveId "/p/a.ts" none, .resolved (some path)⟩, ⟨.observe .propagates, .done⟩,
      ⟨.transform nested.text path true, .ofOutput served⟩] := by
  have course : courseOf late =
      (Course.mk building [⟨.transform nested.text path true, .ofOutput served⟩,
        ⟨.build ⟨"/p"⟩ "s", .done⟩]).after (signalled.map (project, ·)) := by
    simp only [courseOf, late, List.map_cons, Course.after, List.foldl_cons, Course.next,
      Course.start, Session.answer, build_start, transform_building]
  rw [course, after_signalled]
  rfl

end Sample

/-- The file of the project is loaded and changed as `transform` would change it. -/
theorem loaded_as_transformed_project :
    let c := Sample.courseOf Sample.signalled
    (Reply.ofOutput (c.session.load Sample.project Sample.path true)).changes = true ∧
      c.session.load Sample.project Sample.path true =
        { c.session with observed := some .transform }.transform Sample.project Sample.nested.text
          Sample.path true := by
  intro c
  have resolved : Sample.path ∈ c.resolved := by
    rw [Course.resolved, Sample.recent_signalled]
    exact List.mem_cons_self
  have session : c.session = Sample.loading := by rw [show c = _ from Sample.courseOf_signalled]
  have shape : c.session.shape = .resolveLoad := by
    rw [session]
    rfl
  have loaded := (loaded_as_transformed .standard "s" ((.build ⟨"/p"⟩ "s" :: Sample.signalled).map
    (Sample.project, ·))).1 Sample.project Sample.path true
  rw [if_pos ⟨shape, Sample.path, resolved, by simp [Path.same]⟩, Sample.project_read] at loaded
  refine ⟨?_, loaded⟩
  rw [session, Sample.load_loading]
  exact Sample.served_changes

/-- Between two builds files are changed by one hook only, unless `transform` had changed one before
the signal came by which the other hook is in use. -/
theorem one_hook_changes_files (o : Options) (fresh : String) (calls : List (FileTree × Call))
    (timely : ¬ ((Course.start o fresh).after calls).SignalledLate) :
    let events := ((Course.start o fresh).after calls).recent
    ¬ ((∃ e ∈ events, e.loads = true) ∧ ∃ e ∈ events, e.transforms = true) := by
  rintro events ⟨⟨e, loaded, loads⟩, e', transformed, transforms⟩
  have sound := Course.sound_after (Course.sound_start o fresh) calls
  exact timely (sound.signalledLate transformed transforms (sound.first_of_loads loaded loads))

/-- With the signal in time the file is changed once; with the signal late it is changed twice. -/
theorem one_hook_changes_files_project :
    (∃ e ∈ (Sample.courseOf Sample.signalled).recent, e.loads = true) ∧
      ¬ (Sample.courseOf Sample.signalled).SignalledLate ∧
      (¬ ∃ e ∈ (Sample.courseOf Sample.signalled).recent, e.transforms = true) ∧
      (∃ e ∈ (Sample.courseOf Sample.late).recent, e.loads = true) ∧
      ∃ e ∈ (Sample.courseOf Sample.late).recent, e.transforms = true := by
  have loads : ∃ e ∈ (Sample.courseOf Sample.signalled).recent, e.loads = true := by
    rw [Sample.recent_signalled]
    exact ⟨_, List.mem_cons_self, Sample.served_changes⟩
  have timely : ¬ (Sample.courseOf Sample.signalled).SignalledLate := by
    rintro ⟨-, later, e, earlier, parts, transforms, -⟩
    have member : e ∈ later ++ e :: earlier := List.mem_append_right _ List.mem_cons_self
    rw [← parts, Sample.recent_signalled] at member
    simp only [List.mem_cons, List.not_mem_nil, or_false] at member
    rcases member with rfl | rfl | rfl <;> simp [Event.transforms] at transforms
  have once := one_hook_changes_files .standard "s" _ timely
  refine ⟨loads, timely, fun transforms => once ⟨loads, transforms⟩, ?_⟩
  rw [Sample.recent_late]
  refine ⟨⟨_, List.mem_cons_self, Sample.served_changes⟩,
    ⟨.transform Sample.nested.text Sample.path true, .ofOutput Sample.served⟩, ?_,
    Sample.served_changes⟩
  simp only [List.mem_cons, true_or, or_true]

end ServerLink
