import CustomResource.Command.Failure
import CustomResource.Command.FieldTable
import CustomResource.Command.Invocation
import CustomResource.Default.Json
import CustomResource.Default.Yaml
import CustomResource.Generation
import CustomResource.Registry.Containment
import CustomResource.Registry.Loading

/-!
# Running a command

A command reads its descriptor sets and either fails or has one effect: it prints a text, or saves one to a
file.  So a command that fails while it works has printed nothing and saved nothing.  Only the effect itself
is left to the caller.  Warnings of the loaded files come in either case.

A search for containing messages that circles never comes to its end.  A command that starts one has no result,
neither a failure nor an effect.
-/

namespace CustomResource.Command

open Descriptor Wire

/-! ## Loading -/

/-- A way to read files. -/
abbrev ReadFile := String → Except FileError Bytes

/-- Read a descriptor set from a file. -/
def loadFile (read : ReadFile) (path : String) : Except LoadError FileSet :=
  match read path with
  | .error cause => .error (.unreadable cause)
  | .ok bytes => readFiles bytes

/-- Add descriptor sets in order, up to the first that cannot be loaded. -/
def loadFiles (read : ReadFile) : Registry → List String → Registry × Option Failure
  | registry, [] => (registry, none)
  | registry, path :: rest =>
      match registry.addLoaded (loadFile read path) with
      | (registry, none) => loadFiles read registry rest
      | (registry, some cause) => (registry, some (.loading path cause))

/-! ## Requests -/

/-- What a command does in the end. -/
inductive Effect where
  | print (text : String)
  | save (path text : String)
  deriving DecidableEq, Repr

/-- Lines of text. -/
def linesText (lines : List String) : String :=
  String.join (lines.map (· ++ "\n"))

/-- The message type of a name. -/
def findMessage (registry : Registry) (name : String) : Except Failure MessageType :=
  match registry.types.message? name with
  | some message => .ok message
  | none => .error (.unknownType name)

/-- The document of a message's defaults, provided that all files hold together. -/
def showDefault (registry : Registry) (name : String) : Except Failure DefaultDocument := do
  let message ← findMessage registry name
  match registry.files.link? with
  | none => .error .unlinked
  | some names =>
      match names[message.fullName]? with
      | none => .error (.unknownType name)
      | some definition =>
          match definition.meaning with
          | .message entry =>
              if definition.name = anyName then .error .unnamedPayload
              else .ok (names.document definition entry)
          | _ => .error (.unknownType name)

/-- The text that shows a message. -/
def showMessage (registry : Registry) (name : String) : ShowFormat → Except Failure String
  | .fields => do
      let message ← findMessage registry name
      tableText <$> (messageRows registry.types message).mapError .field
  | .json => DefaultDocument.json <$> showDefault registry name
  | .yaml => DefaultDocument.yaml <$> showDefault registry name

/-- The messages that contain a registered type; no answer if the search for them circles. -/
def containingMessages? (registry : Registry) (name : String) : Option (Except Failure (List String)) :=
  if (registry.types.message? name).isNone ∧ (registry.types.enum? name).isNone then
    some (.error (.unknownType name))
  else (registry.types.messagesContaining? name).map .ok

/-- The type URL of a message. -/
def typeUrl (registry : Registry) (name : String) : Except Failure String :=
  match registry.types.typeUrl? name with
  | some url => .ok url
  | none => .error (.unknownType name)

/-- The effect of a generated source. -/
def Effect.ofSource (source : String) : Option String → Effect
  | some path => .save path source
  | none => .print source

/-- The effect that a request has; no answer if it starts a search that circles. -/
def answer? (registry : Registry) : Request → Option (Except Failure Effect)
  | .generate typeName config output => some do
      let source ← (generate config registry.types typeName).mapError (.generating typeName)
      return .ofSource source output
  | .list => some (.ok (.print (linesText (registry.types.listedMessages.map (·.fullName)))))
  | .show typeName format => some ((showMessage registry typeName format).map .print)
  | .contains typeName =>
      (containingMessages? registry typeName).map (·.map fun names => .print (linesText names))
  | .url typeNames => some ((typeNames.mapM (typeUrl registry)).map fun urls => .print (linesText urls))

/-! ## Runs -/

/-- What a command comes to: the warnings on the way, and a failure or the effect, unless it never comes to
its end. -/
structure Run where
  warnings : List String
  result? : Option (Except Failure Effect)

/-- Run an invocation. -/
def Invocation.run (read : ReadFile) (invocation : Invocation) : Run :=
  let (registry, failure) := loadFiles read {} invocation.descriptorSets
  { warnings := registry.warnings
    result? :=
      match failure with
      | some failure => some (.error failure)
      | none =>
          if !invocation.sources.isEmpty then some (.error .uncompiled)
          else if invocation.descriptorSets.isEmpty then some (.error .noDescriptors)
          else answer? registry invocation.request }

/-! ## Responses -/

/-- What a process leaves behind, files apart. -/
structure Response where
  exitCode : UInt32
  stdout : String
  stderr : String
  deriving DecidableEq, Repr

/-- The text of warnings. -/
def warningText (warnings : List String) : String :=
  linesText (warnings.map ("[WARN  prost_crd::syntax] " ++ ·))

/-- The response of a command that printed a text. -/
def Response.success (warnings : List String) (text : String) : Response :=
  ⟨0, text, warningText warnings⟩

/-- The response of a command that failed. -/
def Response.failure (warnings : List String) (failure : Failure) : Response :=
  ⟨1, "", warningText warnings ++ failure.report⟩

/-- The response to a command line that is not run. -/
def Stop.response : Stop → Response
  | .misuse => ⟨2, "", "error: the command line is not understood\n"⟩
  | .help => ⟨0, "Usage: prost-crd [OPTIONS] <crdgen|list|show|contains|url>\n", ""⟩
  | .version => ⟨0, "prost-crd 0.1.0\n", ""⟩

end CustomResource.Command
