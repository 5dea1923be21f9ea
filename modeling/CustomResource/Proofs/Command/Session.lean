import CustomResource.Command.Directory
import CustomResource.Proofs.Registry.Replay

/-!
# Commands as they go

A command as a process that goes step by step: it reads one file after the other, warns of a file as it adds
it, prints line by line, and may fail between any two steps, or be stuck in a search that circles.  What was
printed and saved before a failure stays, so nothing about a process says by itself that a failed one leaves
nothing behind.

Yet `Directory.run?`, which has one effect at the end or none, leaves the same behind (`run?_eq_response?`).
Sets are loaded in turn, with the warnings so far as the invariant (`loaded`); in a request all that can fail
comes before the first line that is printed (`on_perform`).
-/

namespace CustomResource.Command

open Descriptor Wire

/-! ## Processes -/

/-- What a process has left behind so far. -/
structure Session where
  directory : Directory
  stdout : String := ""
  stderr : String := ""
  deriving DecidableEq, Repr

/-- Work of a process, which may end it, or never come to an end. -/
abbrev Work (α : Type) : Type :=
  ExceptT Failure (OptionT (StateM Session)) α

namespace Work

/-- What the work comes to in a session: a result, none if it has no end, and what it leaves behind. -/
def on {α : Type} (work : Work α) (session : Session) : Option (Except Failure α) × Session :=
  StateT.run (OptionT.run (ExceptT.run work)) session

/-- Go on with a result, or end the process. -/
def ofResult {α : Type} : Except Failure α → Work α
  | .ok a => pure a
  | .error failure => throw failure

/-- Wait for a result, which may never come. -/
def ofResult? {α : Type} : Option (Except Failure α) → Work α
  | some result => ofResult result
  | none => ExceptT.mk OptionT.fail

/-- Print a text. -/
def print (text : String) : Work Unit :=
  modify fun session => { session with stdout := session.stdout ++ text }

/-- Print lines one by one. -/
def printLines (lines : List String) : Work Unit :=
  lines.forM fun line => print (line ++ "\n")

/-- Save a text to a file. -/
def save (path text : String) : Work Unit := do
  match (← get).directory.write path text.toUTF8.toList with
  | .ok directory => modify fun session => { session with directory }
  | .error cause => throw (.writing path cause)

/-- The warning for a file that names an unknown language level. -/
def fileWarning? (file : File) : Option String :=
  match file.dialect with
  | some text =>
      if (Dialect.named? (some text)).isSome then none
      else some ("unknown syntax " ++ Text.quote text ++ ", assuming proto2")
  | none => none

/-- Report warnings. -/
def warn (warnings : List String) : Work Unit :=
  modify fun session => { session with stderr := session.stderr ++ warningText warnings }

/-- Add a file, with a warning if it is new and names an unknown language level. -/
def addFile (registry : Registry) (file : File) : Work Registry := do
  if !registry.hasFile file.fileName then
    warn (fileWarning? file).toList
  return registry.addFile file

/-- Read a descriptor set and add its files one by one. -/
def loadSet (registry : Registry) (path : String) : Work Registry := do
  match loadFile (← get).directory.read path with
  | .ok files => files.foldlM addFile registry
  | .error cause => throw (.loading path cause)

/-- The lines of a table. -/
def tableLines (rows : List FieldRow) : List String :=
  let width := (rows.map (·.name.utf8ByteSize)).max?.getD 0
  rows.map fun row => padded width row.name ++ "  " ++ row.kind

/-- Do what is asked for. -/
def perform (registry : Registry) : Request → Work Unit
  | .generate typeName config output => do
      let source ← ofResult ((generate config registry.types typeName).mapError (.generating typeName))
      match output with
      | some path => save path source
      | none => print source
  | .list => printLines (registry.types.listedMessages.map (·.fullName))
  | .show typeName .fields => do
      let message ← ofResult (findMessage registry typeName)
      let rows ← ofResult ((messageRows registry.types message).mapError .field)
      printLines (tableLines rows)
  | .show typeName .json => do
      let document ← ofResult (showDefault registry typeName)
      print document.json
  | .show typeName .yaml => do
      let document ← ofResult (showDefault registry typeName)
      print document.yaml
  | .contains typeName => do
      let names ← ofResult? (containingMessages? registry typeName)
      printLines names
  | .url typeNames => do
      let urls ← ofResult (typeNames.mapM (typeUrl registry))
      printLines urls

/-- The process of a command. -/
def process (invocation : Invocation) : Work Unit := do
  let registry ← invocation.descriptorSets.foldlM loadSet {}
  if !invocation.sources.isEmpty then throw .uncompiled
  if invocation.descriptorSets.isEmpty then throw .noDescriptors
  perform registry invocation.request

/-! ## What the steps come to -/

section Steps

variable {α β : Type} (session : Session)

@[simp] theorem on_pure (a : α) : (pure a : Work α).on session = (some (.ok a), session) :=
  rfl

@[simp] theorem on_get : (get : Work Session).on session = (some (.ok session), session) :=
  rfl

@[simp] theorem on_ofResult (result : Except Failure α) :
    (ofResult result).on session = (some result, session) := by
  cases result <;> rfl

@[simp] theorem on_ofResult? (result? : Option (Except Failure α)) :
    (ofResult? result?).on session = (result?, session) := by
  cases result? with
  | none => rfl
  | some result => exact on_ofResult session result

/-- A step that fails or has no end leaves what it did, and no other step is taken. -/
theorem on_bind (work : Work α) (next : α → Work β) :
    (work >>= next).on session =
      match work.on session with
      | (some (.ok a), after) => (next a).on after
      | (some (.error failure), after) => (some (.error failure), after)
      | (none, after) => (none, after) := by
  rcases hwork : work.on session with ⟨_ | (_ | a), after⟩ <;>
    simp only [on, ExceptT.run_bind, OptionT.run_bind, Option.elimM, StateT.run_bind] at hwork ⊢ <;>
    rw [hwork] <;>
    rfl

@[simp] theorem on_print (text : String) :
    (print text).on session = (some (.ok ()), { session with stdout := session.stdout ++ text }) :=
  rfl

theorem on_printLines (lines : List String) :
    (printLines lines).on session =
      (some (.ok ()), { session with stdout := session.stdout ++ linesText lines }) := by
  induction lines generalizing session with
  | nil => simp [printLines, linesText]
  | cons line rest ih =>
      show (print (line ++ "\n") >>= fun _ => printLines rest).on session = _
      rw [on_bind, on_print]
      simp [ih, linesText, String.append_assoc]

theorem on_save (path text : String) :
    (save path text).on session =
      match session.directory.write path text.toUTF8.toList with
      | .ok directory => (some (.ok ()), { session with directory })
      | .error cause => (some (.error (.writing path cause)), session) := by
  rw [save, on_bind, on_get]
  dsimp only
  cases session.directory.write path text.toUTF8.toList <;> rfl

end Steps

/-! ## Loading -/

theorem warnings_eq (registry : Registry) : registry.warnings = registry.files.filterMap fileWarning? :=
  rfl

theorem warningText_append (first second : List String) :
    warningText (first ++ second) = warningText first ++ warningText second := by
  simp [warningText, linesText]

/-- The session of a process that has done nothing but load: the warnings of the registry were reported, and
nothing else was. -/
def loaded (directory : Directory) (registry : Registry) : Session :=
  { directory, stderr := warningText registry.warnings }

/-- Adding a file reports what the registry then warns of in addition. -/
theorem on_addFile (directory : Directory) (registry : Registry) (file : File) :
    (addFile registry file).on (loaded directory registry) =
      (some (.ok (registry.addFile file)), loaded directory (registry.addFile file)) := by
  cases hfile : registry.hasFile file.fileName with
  | true =>
      rw [addFile, hfile, Registry.addFile_of_hasFile hfile]
      rfl
  | false =>
      have hwarnings : (registry.addFile file).warnings = registry.warnings ++ (fileWarning? file).toList := by
        rw [warnings_eq, warnings_eq, Registry.addFile_of_not_hasFile hfile, List.filterMap_append]
        cases hwarning : fileWarning? file <;> simp [hwarning]
      rw [addFile, hfile, loaded, loaded, hwarnings, warningText_append]
      rfl

theorem on_addFiles (directory : Directory) (registry : Registry) (files : FileSet) :
    (files.foldlM addFile registry).on (loaded directory registry) =
      (some (.ok (registry.addFiles files)), loaded directory (registry.addFiles files)) := by
  induction files generalizing registry with
  | nil => rfl
  | cons file rest ih =>
      rw [List.foldlM_cons, on_bind, on_addFile]
      exact ih (registry.addFile file)

/-- A set that cannot be read ends the process before any of its files is added. -/
theorem on_loadSet (directory : Directory) (registry : Registry) (path : String) :
    (loadSet registry path).on (loaded directory registry) =
      match loadFile directory.read path with
      | .ok files => (some (.ok (registry.addFiles files)), loaded directory (registry.addFiles files))
      | .error cause => (some (.error (.loading path cause)), loaded directory registry) := by
  rw [loadSet, on_bind, on_get]
  show Work.on (match loadFile directory.read path with
    | .ok files => files.foldlM addFile registry
    | .error cause => throw (.loading path cause)) _ = _
  cases loadFile directory.read path with
  | error cause => rfl
  | ok files => exact on_addFiles directory registry files

theorem on_loadSets (directory : Directory) (registry : Registry) (paths : List String) :
    (paths.foldlM loadSet registry).on (loaded directory registry) =
      match loadFiles directory.read registry paths with
      | (after, none) => (some (.ok after), loaded directory after)
      | (after, some failure) => (some (.error failure), loaded directory after) := by
  induction paths generalizing registry with
  | nil => rfl
  | cons path rest ih =>
      rw [List.foldlM_cons, on_bind, on_loadSet, loadFiles]
      cases loadFile directory.read path with
      | error cause => rfl
      | ok files => exact ih (registry.addFiles files)

/-! ## Requests -/

theorem tableText_eq_linesText (rows : List FieldRow) : tableText rows = linesText (tableLines rows) := by
  simp [tableText, linesText, tableLines, Function.comp_def]

/-- A request fails before it has printed or saved anything, or is stuck before it has, or has its one
effect. -/
theorem on_perform (registry : Registry) (request : Request) (session : Session) :
    (perform registry request).on session =
      match answer? registry request with
      | some (.ok (.print text)) => (some (.ok ()), { session with stdout := session.stdout ++ text })
      | some (.ok (.save path text)) => (save path text).on session
      | some (.error failure) => (some (.error failure), session)
      | none => (none, session) := by
  cases request with
  | generate typeName config output =>
      rw [perform, answer?, on_bind, on_ofResult]
      cases (generate config registry.types typeName).mapError (Failure.generating typeName) with
      | error failure => rfl
      | ok source => cases output <;> rfl
  | list =>
      rw [perform, on_printLines]
      rfl
  | «show» typeName format =>
      cases format with
      | fields =>
          cases hmessage : findMessage registry typeName with
          | error failure =>
              rw [perform, on_bind, on_ofResult, answer?, showMessage, hmessage]
              rfl
          | ok message =>
              have hanswer : answer? registry (.show typeName .fields) =
                  some (((messageRows registry.types message).mapError .field).map
                    fun rows => .print (tableText rows)) := by
                rw [answer?, showMessage, hmessage]
                show some (Except.map Effect.print (Except.map tableText _)) = _
                cases (messageRows registry.types message).mapError Failure.field <;> rfl
              rw [perform, on_bind, on_ofResult, hmessage, hanswer]
              dsimp only
              rw [on_bind, on_ofResult]
              cases (messageRows registry.types message).mapError Failure.field with
              | error failure => rfl
              | ok rows =>
                  refine (on_printLines session (tableLines rows)).trans ?_
                  rw [← tableText_eq_linesText]
                  rfl
      | json =>
          rw [perform, answer?, showMessage, on_bind, on_ofResult]
          cases showDefault registry typeName <;> rfl
      | yaml =>
          rw [perform, answer?, showMessage, on_bind, on_ofResult]
          cases showDefault registry typeName <;> rfl
  | contains typeName =>
      rw [perform, answer?, on_bind, on_ofResult?]
      cases containingMessages? registry typeName with
      | none => rfl
      | some result =>
        cases result with
        | error failure => rfl
        | ok names => exact on_printLines session names
  | url typeNames =>
      rw [perform, answer?, on_bind, on_ofResult]
      cases typeNames.mapM (typeUrl registry) with
      | error failure => rfl
      | ok urls => exact on_printLines session urls

/-! ## Runs -/

/-- A process loads all sets, makes sure that it got what it needs, and does what is asked for. -/
theorem on_process (directory : Directory) (invocation : Invocation) :
    (process invocation).on { directory } =
      match loadFiles directory.read {} invocation.descriptorSets with
      | (registry, some failure) => (some (.error failure), loaded directory registry)
      | (registry, none) =>
          if !invocation.sources.isEmpty then (some (.error .uncompiled), loaded directory registry)
          else if invocation.descriptorSets.isEmpty then
            (some (.error .noDescriptors), loaded directory registry)
          else (perform registry invocation.request).on (loaded directory registry) := by
  have hstart : ({ directory } : Session) = loaded directory {} := rfl
  rw [process, on_bind, hstart, on_loadSets]
  cases loadFiles directory.read {} invocation.descriptorSets with
  | mk registry failure =>
    cases failure with
    | some failure => rfl
    | none => cases invocation.sources.isEmpty <;> cases invocation.descriptorSets.isEmpty <;> rfl

/-- What a process leaves behind when it has come to its end. -/
def response? : Option (Except Failure Unit) × Session → Option (Response × Directory)
  | (some (.ok ()), session) => some (⟨0, session.stdout, session.stderr⟩, session.directory)
  | (some (.error failure), session) =>
      some (⟨1, session.stdout, session.stderr ++ failure.report⟩, session.directory)
  | (none, _) => none

/-- What is said of a command at once is what its process comes to. -/
theorem run?_eq_response? {arguments : List String} {invocation : Invocation}
    (h : Invocation.ofArguments arguments = .ok invocation) (directory : Directory) :
    directory.run? arguments = response? ((process invocation).on { directory }) := by
  rw [Directory.run?, h, on_process]
  simp only [Invocation.run]
  cases loadFiles directory.read {} invocation.descriptorSets with
  | mk registry failure =>
    cases failure with
    | some failure => rfl
    | none =>
      cases invocation.sources.isEmpty with
      | false => rfl
      | true =>
        cases invocation.descriptorSets.isEmpty with
        | true => rfl
        | false =>
          have hdirectory : (loaded directory registry).directory = directory := rfl
          simp only [Bool.not_true, Bool.false_eq_true, if_false]
          rw [on_perform]
          cases answer? registry invocation.request with
          | none => rfl
          | some result =>
            cases result with
            | error failure => rfl
            | ok effect =>
              cases effect with
              | print text => simp [response?, Directory.finish, Response.success, loaded]
              | save path text =>
                  dsimp only
                  rw [on_save, hdirectory, Option.map_some, Directory.finish]
                  cases directory.write path text.toUTF8.toList <;> rfl

end Work

end CustomResource.Command
