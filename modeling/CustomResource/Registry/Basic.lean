import CustomResource.Descriptor.Basic
import CustomResource.QualifiedName
import CustomResource.Text.Quoted
import Std.Data.ExtTreeMap
import Std.Data.ExtTreeSet

/-!
# The registry

A registry resolves full names to message and enum types.  It keeps the files it was given, one per file
name, the set of their names, and the tables of all types they declare.  When several declarations share a
full name the table holds the one visited last: files in the order they were added, the types declared inside
a message before the message itself.

Lookup forgives dots around a name.  It does not follow references, see `CustomResource.Registry.Field`.
-/

namespace CustomResource

open Descriptor

/-! ## Language levels -/

/-- The level of the schema language a file is written in, which decides the presence of its fields. -/
inductive Dialect where
  | proto2
  | proto3
  | editions
  deriving DecidableEq, Repr, Inhabited

namespace Dialect

/-- The level named by a text, if there is one.  No text and the empty text mean the oldest. -/
def named? : Option String → Option Dialect
  | none => some .proto2
  | some "" => some .proto2
  | some "proto2" => some .proto2
  | some "proto3" => some .proto3
  | some "editions" => some .editions
  | some _ => none

/-- The level of a file; an unknown text counts as the oldest. -/
def ofText (text : Option String) : Dialect :=
  (named? text).getD .proto2

end Dialect

/-! ## Declarations -/

/-- What the registry knows of a declared message, the types declared inside it apart. -/
structure MessageEntry where
  name : Option String
  fields : List Field
  options : Option MessageOptions
  oneofs : List Oneof
  package : String
  dialect : Dialect
  deriving DecidableEq, Repr, Inhabited

/-- The types that files declare, each under its full name. -/
structure Declarations where
  messages : List (String × MessageEntry) := []
  enums : List (String × Enum) := []
  deriving Repr, Inhabited

namespace Declarations

/-- One list of declarations followed by another. -/
def append (first second : Declarations) : Declarations :=
  ⟨first.messages ++ second.messages, first.enums ++ second.enums⟩

instance : Append Declarations := ⟨append⟩

/-- Enums declared in a scope. -/
def ofEnums (scope : QualifiedName) (enums : List Enum) : Declarations :=
  ⟨[], enums.map fun desc => ((scope.join (desc.name.getD "")).text, desc)⟩

mutual

/-- A message declared in a scope, after the types declared inside it. -/
def ofMessage (package : String) (dialect : Dialect) (scope : QualifiedName) :
    Message → Declarations
  | ⟨name, fields, messages, enums, options, oneofs⟩ =>
      let fullName := scope.join (name.getD "")
      ofMessages package dialect fullName messages ++ ofEnums fullName enums ++
        ⟨[(fullName.text, ⟨name, fields, options, oneofs, package, dialect⟩)], []⟩

/-- Messages declared in a scope, in order. -/
def ofMessages (package : String) (dialect : Dialect) (scope : QualifiedName) :
    List Message → Declarations
  | [] => {}
  | message :: rest =>
      ofMessage package dialect scope message ++ ofMessages package dialect scope rest

end

/-- The types a file declares, in the order they are visited. -/
def ofFile (file : File) : Declarations :=
  let package := file.package.getD ""
  let scope := QualifiedName.ofParts package [] ""
  ofMessages package (.ofText file.dialect) scope file.messages ++ ofEnums scope file.enums

end Declarations

/-! ## Tables -/

/-- Message and enum types by full name. -/
structure TypeTable where
  messages : Std.ExtTreeMap String MessageEntry := ∅
  enums : Std.ExtTreeMap String Enum := ∅

/-- A message type in a table. -/
structure MessageType where
  fullName : String
  entry : MessageEntry
  deriving DecidableEq, Repr, Inhabited

/-- An enum type in a table. -/
structure EnumType where
  fullName : String
  declaration : Enum
  deriving DecidableEq, Repr, Inhabited

namespace MessageType

/-- The short name, empty if unset. -/
def name (message : MessageType) : String :=
  message.entry.name.getD ""

/-- The package that declares the message, as its file spells it. -/
def package (message : MessageType) : String :=
  message.entry.package

/-- Whether the message is the synthetic entry of a map field. -/
def isMapEntry (message : MessageType) : Bool :=
  match message.entry.options with
  | some options => options.mapEntry.getD false
  | none => false

/-- The text that stands for the message in diagnostics. -/
def debugText (message : MessageType) : String :=
  "MessageDescriptor(" ++ Text.quote message.fullName ++ ")"

end MessageType

namespace EnumType

/-- The short name, empty if unset. -/
def name (enum : EnumType) : String :=
  enum.declaration.name.getD ""

/-- The full name of a value: the full name of the enum and the value's own. -/
def valueFullName (enum : EnumType) (value : EnumValue) : String :=
  enum.fullName ++ "." ++ value.name.getD ""

/-- The text that stands for the enum in diagnostics. -/
def debugText (enum : EnumType) : String :=
  "EnumDescriptor(" ++ Text.quote enum.fullName ++ ")"

end EnumType

namespace TypeTable

/-- Add declarations in order; a later one replaces an earlier one of its full name. -/
def add (types : TypeTable) (declarations : Declarations) : TypeTable where
  messages := declarations.messages.foldl (fun table (name, entry) => table.insert name entry)
    types.messages
  enums := declarations.enums.foldl (fun table (name, desc) => table.insert name desc) types.enums

/-- The message type that a reference means. -/
def message? (types : TypeTable) (reference : String) : Option MessageType :=
  let name := (QualifiedName.ofReference reference).text
  types.messages[name]?.map fun entry => ⟨name, entry⟩

/-- The enum type that a reference means. -/
def enum? (types : TypeTable) (reference : String) : Option EnumType :=
  let name := (QualifiedName.ofReference reference).text
  types.enums[name]?.map fun desc => ⟨name, desc⟩

/-- All message types that are not map entries, in the order of their full names. -/
def listedMessages (types : TypeTable) : List MessageType :=
  (types.messages.toList.map fun (name, entry) => ⟨name, entry⟩).filter (!·.isMapEntry)

/-- The type URL of a registered message. -/
def typeUrl? (types : TypeTable) (reference : String) : Option String :=
  (types.message? reference).map fun message => "type.googleapis.com/" ++ message.fullName

end TypeTable

/-! ## Registries -/

/-- The name that tells a file from others, empty if unset. -/
def Descriptor.File.fileName (file : File) : String :=
  file.name.getD ""

/-- Files, one per file name in the order they were added, their names, and the types they declare. -/
structure Registry where
  fileNames : Std.ExtTreeSet String := ∅
  files : FileSet := []
  types : TypeTable := {}

namespace Registry

/-- Whether a file of that name was added. -/
def hasFile (registry : Registry) (name : String) : Bool :=
  registry.fileNames.contains name

/-- Add a file, unless one of its name was added before. -/
def addFile (registry : Registry) (file : File) : Registry :=
  if registry.hasFile file.fileName then registry
  else
    { fileNames := registry.fileNames.insert file.fileName
      files := registry.files ++ [file]
      types := registry.types.add (.ofFile file) }

/-- Add files in order. -/
def addFiles (registry : Registry) (files : FileSet) : Registry :=
  files.foldl addFile registry

/-- The registry of a set of files. -/
def ofFiles (files : FileSet) : Registry :=
  addFiles {} files

/-- The sizes of the registry, as diagnostics show them. -/
def debugText (registry : Registry) : String :=
  "Registry \x7b files: " ++ toString registry.fileNames.size ++
    ", messages: " ++ toString registry.types.messages.size ++
    ", enums: " ++ toString registry.types.enums.size ++ " \x7d"

/-- One warning per added file that names an unknown language level. -/
def warnings (registry : Registry) : List String :=
  registry.files.filterMap fun file =>
    match file.dialect with
    | some text =>
        if (Dialect.named? (some text)).isSome then none
        else some ("unknown syntax " ++ Text.quote text ++ ", assuming proto2")
    | none => none

end Registry

end CustomResource
