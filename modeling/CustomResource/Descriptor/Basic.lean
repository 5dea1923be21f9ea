/-!
# Descriptors

The parts of protobuf file descriptors that generation reads.  Every scalar is optional: a descriptor tells
an unset value from one that is set to its default, and both survive a round trip.  Labels and types are
kept as codes, because a descriptor may carry codes that have no meaning; `CustomResource.Registry.Field`
gives them theirs.
-/

namespace CustomResource.Descriptor

/-- A named value of an enum. -/
structure EnumValue where
  name : Option String := none
  number : Option Int32 := none
  deriving DecidableEq, Repr, Inhabited

/-- An enum type, with its values in order of declaration. -/
structure Enum where
  name : Option String := none
  values : List EnumValue := []
  deriving DecidableEq, Repr, Inhabited

/-- A field of a message. -/
structure Field where
  name : Option String := none
  number : Option Int32 := none
  label : Option Int32 := none
  type : Option Int32 := none
  typeName : Option String := none
  defaultValue : Option String := none
  oneofIndex : Option Int32 := none
  jsonName : Option String := none
  proto3Optional : Option Bool := none
  deriving DecidableEq, Repr, Inhabited

/-- A group of fields of which at most one is set. -/
structure Oneof where
  name : Option String := none
  deriving DecidableEq, Repr, Inhabited

/-- The options of a message.  A map field refers to a synthetic message that is marked as an entry. -/
structure MessageOptions where
  mapEntry : Option Bool := none
  deriving DecidableEq, Repr, Inhabited

/-- A message type, with the types declared inside it. -/
structure Message where
  name : Option String := none
  fields : List Field := []
  messages : List Message := []
  enums : List Enum := []
  options : Option MessageOptions := none
  oneofs : List Oneof := []
  deriving Repr, Inhabited

/-- A file, with the types declared at its top level. -/
structure File where
  name : Option String := none
  package : Option String := none
  imports : List String := []
  messages : List Message := []
  enums : List Enum := []
  dialect : Option String := none
  deriving Repr, Inhabited

/-- Files as they are passed around together. -/
abbrev FileSet := List File

end CustomResource.Descriptor
