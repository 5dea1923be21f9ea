import CustomResource.Configuration

/-!
# Invocations

The command line, read into what it asks for.  It names one command.  Options of all commands may stand
before it or after it, its own options after it only.  A long option takes its value after an equals sign or
as the next argument, a short one also directly.  Two dashes end the options.

An option that may be given once is refused when repeated.  Where an option of all commands stands on both
sides of the command, the values after it count.
-/

namespace CustomResource.Command

/-! ## Requests -/

/-- How a message is shown. -/
inductive ShowFormat where
  /-- A table of fields. -/
  | fields
  /-- The default value in JSON. -/
  | json
  /-- The default value in YAML. -/
  | yaml
  deriving DecidableEq, Repr

/-- What is asked for. -/
inductive Request where
  /-- Generate the custom resource of a message, into a file if one is named. -/
  | generate (typeName : String) (config : Config) (output : Option String)
  /-- List the registered messages. -/
  | list
  /-- Show a message. -/
  | show (typeName : String) (format : ShowFormat)
  /-- List the messages that contain a type. -/
  | contains (typeName : String)
  /-- Print the type URLs of messages. -/
  | url (typeNames : List String)
  deriving DecidableEq, Repr

/-- A command line that can be run. -/
structure Invocation where
  /-- The paths of binary descriptor sets, in order. -/
  descriptorSets : List String
  /-- The paths of schema sources, which are left to a compiler. -/
  sources : List String
  request : Request
  deriving DecidableEq, Repr

/-- Why a command line is not run. -/
inductive Stop where
  /-- It is not understood. -/
  | misuse
  /-- It asks for help. -/
  | help
  /-- It asks for the version. -/
  | version
  deriving DecidableEq, Repr

/-! ## Options -/

/-- The commands. -/
inductive CommandName where
  | crdgen
  | list
  | show
  | contains
  | url
  deriving DecidableEq, Repr

/-- The command of a word, if there is one. -/
def CommandName.ofWord? : String → Option CommandName
  | "crdgen" => some .crdgen
  | "list" => some .list
  | "show" => some .show
  | "contains" => some .contains
  | "url" => some .url
  | _ => none

/-- The options that take a value. -/
inductive OptionName where
  | descriptorSet
  | source
  | sourceRoot
  | derive
  | package
  | importRoot
  | mapType
  | bytesType
  | output
  | format
  deriving DecidableEq, Repr

namespace OptionName

/-- The commands that an option belongs to; none for an option of all commands. -/
def owner? : OptionName → Option CommandName
  | .descriptorSet | .source | .sourceRoot => none
  | .derive | .package | .importRoot | .mapType | .bytesType | .output => some .crdgen
  | .format => some .show

/-- The option with a long name. -/
def ofLong? : String → Option OptionName
  | "descriptor-set" => some .descriptorSet
  | "proto" => some .source
  | "include" => some .sourceRoot
  | "derive" => some .derive
  | "package" => some .package
  | "import-root" => some .importRoot
  | "map-type" => some .mapType
  | "bytes-type" => some .bytesType
  | "output" => some .output
  | "format" => some .format
  | _ => none

/-- The option with a short name. -/
def ofShort? : Char → Option OptionName
  | 'd' => some .descriptorSet
  | 'I' => some .sourceRoot
  | 'o' => some .output
  | 'f' => some .format
  | _ => none

/-- Whether an option may stand after a command, or before one. -/
def allowed (command : Option CommandName) (option : OptionName) : Bool :=
  match option.owner? with
  | none => true
  | some owner => command = some owner

end OptionName

/-! ## Settings -/

/-- What the arguments on one side of the command have set. -/
structure Settings where
  descriptorSets : List String := []
  sources : List String := []
  sourceRoots : List String := []
  derives : List String := []
  package : Option String := none
  importRoot : Option String := none
  mapType : Option MapType := none
  bytesType : Option BytesType := none
  output : Option String := none
  format : Option ShowFormat := none
  operands : List String := []
  deriving DecidableEq, Repr

/-- A value that is set once. -/
def once {α : Type} (current : Option α) (value : Option α) : Except Stop (Option α) :=
  match current, value with
  | none, some value => .ok (some value)
  | _, _ => .error .misuse

/-- A path, which may not be empty. -/
def readPath (text : String) : Except Stop String :=
  if text = "" then .error .misuse else .ok text

/-- The collection of map fields that a word names. -/
def mapTypeOfWord? : String → Option MapType
  | "btree" => some .btree
  | "hash" => some .hash
  | _ => none

/-- The representation of bytes fields that a word names. -/
def bytesTypeOfWord? : String → Option BytesType
  | "vec" => some .vec
  | "byte-string" => some .byteString
  | _ => none

/-- The format that a word names. -/
def ShowFormat.ofWord? : String → Option ShowFormat
  | "fields" => some .fields
  | "json" => some .json
  | "yaml" => some .yaml
  | _ => none

namespace Settings

/-- Set an option. -/
def set (settings : Settings) (option : OptionName) (value : String) : Except Stop Settings :=
  match option with
  | .descriptorSet => do
      let path ← readPath value
      return { settings with descriptorSets := settings.descriptorSets ++ [path] }
  | .source => do
      let path ← readPath value
      return { settings with sources := settings.sources ++ [path] }
  | .sourceRoot => do
      let path ← readPath value
      return { settings with sourceRoots := settings.sourceRoots ++ [path] }
  | .derive => return { settings with derives := settings.derives ++ [value] }
  | .package => return { settings with package := ← once settings.package (some value) }
  | .importRoot => return { settings with importRoot := ← once settings.importRoot (some value) }
  | .mapType => return { settings with mapType := ← once settings.mapType (mapTypeOfWord? value) }
  | .bytesType =>
      return { settings with bytesType := ← once settings.bytesType (bytesTypeOfWord? value) }
  | .output => do
      let path ← readPath value
      return { settings with output := ← once settings.output (some path) }
  | .format => return { settings with format := ← once settings.format (ShowFormat.ofWord? value) }

/-- Add an operand. -/
def addOperand (settings : Settings) (operand : String) : Settings :=
  { settings with operands := settings.operands ++ [operand] }

/-- The configuration of a generation. -/
def config (settings : Settings) : Config where
  derives := settings.derives
  mapType := settings.mapType.getD .btree
  bytesType := settings.bytesType.getD .vec
  package := settings.package
  importRoot := settings.importRoot

/-- What a command asks for, by its options and operands. -/
def request (settings : Settings) : CommandName → Except Stop Request
  | .crdgen =>
      match settings.operands with
      | [typeName] => .ok (.generate typeName settings.config settings.output)
      | _ => .error .misuse
  | .list =>
      match settings.operands with
      | [] => .ok .list
      | _ => .error .misuse
  | .show =>
      match settings.operands with
      | [typeName] => .ok (.show typeName (settings.format.getD .fields))
      | _ => .error .misuse
  | .contains =>
      match settings.operands with
      | [typeName] => .ok (.contains typeName)
      | _ => .error .misuse
  | .url =>
      match settings.operands with
      | [] => .error .misuse
      | typeNames => .ok (.url typeNames)

end Settings

/-! ## Arguments -/

/-- What one argument is. -/
inductive Argument where
  | operand (text : String)
  /-- The end of the options. -/
  | dashes
  /-- An option together with its value. -/
  | withValue (option : OptionName) (value : String)
  /-- An option whose value is the next argument. -/
  | awaitsValue (option : OptionName)
  /-- An argument that ends the reading. -/
  | stop (reason : Stop)
  deriving DecidableEq, Repr

/-- A long option, after its dashes. -/
def readLong (command : Option CommandName) (text : List Char) : Argument :=
  let name := String.ofList (text.takeWhile (· != '='))
  let value := (text.dropWhile (· != '=')).tail?.map String.ofList
  match OptionName.ofLong? name, value with
  | some option, some value => if option.allowed command then .withValue option value else .stop .misuse
  | some option, none => if option.allowed command then .awaitsValue option else .stop .misuse
  | none, some _ => .stop .misuse
  | none, none =>
      if name = "help" then .stop .help
      else if name = "version" ∧ command = none then .stop .version
      else .stop .misuse

/-- A short option, after its dash. -/
def readShort (command : Option CommandName) (name : Char) (rest : List Char) : Argument :=
  match OptionName.ofShort? name with
  | some option =>
      if !option.allowed command then .stop .misuse
      else match rest with
        | [] => .awaitsValue option
        | '=' :: value => .withValue option (String.ofList value)
        | value => .withValue option (String.ofList value)
  | none =>
      if name = 'h' then .stop .help
      else if name = 'V' ∧ command = none then .stop .version
      else .stop .misuse

/-- Read one argument, after a command or before one. -/
def readArgument (command : Option CommandName) (text : String) : Argument :=
  match text.toList with
  | ['-'] => .operand text
  | ['-', '-'] => .dashes
  | '-' :: '-' :: rest => readLong command rest
  | '-' :: name :: rest => readShort command name rest
  | _ => .operand text

/-- Whether an argument can be the value of the option before it. -/
def isValue (text : String) : Bool :=
  match text.toList with
  | '-' :: _ :: _ => false
  | _ => true

/-- Read the arguments after a command. -/
def readOperands (command : CommandName) (settings : Settings) : List String → Except Stop Settings
  | [] => .ok settings
  | argument :: rest =>
      match readArgument (some command) argument with
      | .operand text => readOperands command (settings.addOperand text) rest
      | .dashes => .ok (rest.foldl Settings.addOperand settings)
      | .withValue option value => do readOperands command (← settings.set option value) rest
      | .awaitsValue option =>
          match rest with
          | value :: rest => do
              if isValue value then readOperands command (← settings.set option value) rest
              else .error .misuse
          | [] => .error .misuse
      | .stop reason => .error reason

/-- The values after the command, or those before it if there are none. -/
def lastGiven (before after : List String) : List String :=
  if after.isEmpty then before else after

/-- Read the arguments up to the command, and go on after it. -/
def readCommand (settings : Settings) : List String → Except Stop Invocation
  | [] => .error .misuse
  | argument :: rest =>
      match readArgument none argument with
      | .operand text =>
          match CommandName.ofWord? text with
          | some command => do
              let after ← readOperands command {} rest
              return {
                descriptorSets := lastGiven settings.descriptorSets after.descriptorSets
                sources := lastGiven settings.sources after.sources
                request := ← after.request command }
          | none => .error (if text = "help" then .help else .misuse)
      | .dashes => .error .misuse
      | .withValue option value => do readCommand (← settings.set option value) rest
      | .awaitsValue option =>
          match rest with
          | value :: rest => do
              if isValue value then readCommand (← settings.set option value) rest
              else .error .misuse
          | [] => .error .misuse
      | .stop reason => .error reason

/-- Read a command line. -/
def Invocation.ofArguments (arguments : List String) : Except Stop Invocation :=
  readCommand {} arguments

end CustomResource.Command
