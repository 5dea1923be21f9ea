import CustomResource.Error
import CustomResource.Registry.Basic

/-!
# Fields and their kinds

The meaning of a field: its kind, with references resolved through the type table, whether it is repeated,
whether it tells a set value from an unset one, and the key and value of a map.  Resolution fails with the
cause that generation reports.
-/

namespace CustomResource

open Descriptor

/-! ## Kinds -/

/-- The kinds of fields that refer to no other type. -/
inductive ScalarKind where
  | bool
  | int32
  | sint32
  | sfixed32
  | uint32
  | fixed32
  | int64
  | sint64
  | sfixed64
  | uint64
  | fixed64
  | float
  | double
  | string
  | bytes
  deriving DecidableEq, Repr

/-- The keyword of a scalar kind. -/
def ScalarKind.keyword : ScalarKind → String
  | .bool => "bool"
  | .int32 => "int32"
  | .sint32 => "sint32"
  | .sfixed32 => "sfixed32"
  | .uint32 => "uint32"
  | .fixed32 => "fixed32"
  | .int64 => "int64"
  | .sint64 => "sint64"
  | .sfixed64 => "sfixed64"
  | .uint64 => "uint64"
  | .fixed64 => "fixed64"
  | .float => "float"
  | .double => "double"
  | .string => "string"
  | .bytes => "bytes"

/-- What the type code of a field means. -/
inductive FieldType where
  | scalar (kind : ScalarKind)
  | message
  | group
  | enum
  deriving DecidableEq, Repr

/-- The meaning of a type code, if it has one. -/
def FieldType.ofCode? (code : Int32) : Option FieldType :=
  match code.toInt with
  | 1 => some (.scalar .double)
  | 2 => some (.scalar .float)
  | 3 => some (.scalar .int64)
  | 4 => some (.scalar .uint64)
  | 5 => some (.scalar .int32)
  | 6 => some (.scalar .fixed64)
  | 7 => some (.scalar .fixed32)
  | 8 => some (.scalar .bool)
  | 9 => some (.scalar .string)
  | 10 => some .group
  | 11 => some .message
  | 12 => some (.scalar .bytes)
  | 13 => some (.scalar .uint32)
  | 14 => some .enum
  | 15 => some (.scalar .sfixed32)
  | 16 => some (.scalar .sfixed64)
  | 17 => some (.scalar .sint32)
  | 18 => some (.scalar .sint64)
  | _ => none

/-- The kind of a field, with its reference resolved. -/
inductive Kind where
  | scalar (kind : ScalarKind)
  | message (type : MessageType)
  | group (type : MessageType)
  | enum (type : EnumType)
  deriving DecidableEq, Repr

/-- The text of a kind: the keyword of a scalar, the full name of a type. -/
def Kind.text : Kind → String
  | .scalar kind => kind.keyword
  | .message type => type.fullName
  | .group type => type.fullName
  | .enum type => type.fullName

/-- Whether a field holds at most one value or any number. -/
inductive Cardinality where
  | singular
  | repeated
  deriving DecidableEq, Repr

/-- The cardinality a descriptor states; an unset or unknown label means at most one value. -/
def Descriptor.Field.cardinality (field : Field) : Cardinality :=
  if field.label = some 3 then .repeated else .singular

/-! ## Fields in a registry -/

/-- A field together with the message that declares it. -/
structure MessageField where
  owner : MessageType
  declaration : Field
  deriving DecidableEq, Repr

/-- The fields of a message, in order of declaration. -/
def MessageType.fields (message : MessageType) : List MessageField :=
  message.entry.fields.map fun field => ⟨message, field⟩

namespace MessageField

/-- The short name, empty if unset. -/
def name (field : MessageField) : String :=
  field.declaration.name.getD ""

/-- The full name of the message and the field's own. -/
def fullName (field : MessageField) : String :=
  field.owner.fullName ++ "." ++ field.name

/-- The field number, zero if unset. -/
def number (field : MessageField) : Int32 :=
  field.declaration.number.getD 0

/-- Whether the field holds at most one value or any number. -/
def cardinality (field : MessageField) : Cardinality :=
  field.declaration.cardinality

/-- The name of the type the field refers to, which may not be empty. -/
def typeName (field : MessageField) : Except GenerateError String :=
  match field.declaration.typeName with
  | some name => if name = "" then .error (.missingTypeName field.fullName) else .ok name
  | none => .error (.missingTypeName field.fullName)

/-- The message type the field refers to. -/
def referredMessage (types : TypeTable) (field : MessageField) :
    Except GenerateError MessageType := do
  let name ← field.typeName
  match types.message? name with
  | some message => .ok message
  | none => .error (.unresolvedType field.fullName name)

/-- The enum type the field refers to. -/
def referredEnum (types : TypeTable) (field : MessageField) :
    Except GenerateError EnumType := do
  let name ← field.typeName
  match types.enum? name with
  | some enum => .ok enum
  | none => .error (.unresolvedType field.fullName name)

/-- The kind of a field that states no type: whatever its reference means, a message before an enum. -/
def unlinkedKind (types : TypeTable) (field : MessageField) : Except GenerateError Kind := do
  let name ← field.typeName
  match types.message? name, types.enum? name with
  | some message, _ => .ok (.message message)
  | none, some enum => .ok (.enum enum)
  | none, none => .error (.unresolvedType field.fullName name)

/-- The kind of the field. -/
def kind (types : TypeTable) (field : MessageField) : Except GenerateError Kind :=
  match field.declaration.type with
  | none => field.unlinkedKind types
  | some code =>
      match FieldType.ofCode? code with
      | none => .error (.unknownFieldType field.fullName code)
      | some (.scalar kind) => .ok (.scalar kind)
      | some .message => (field.referredMessage types).map .message
      | some .group => (field.referredMessage types).map .group
      | some .enum => (field.referredEnum types).map .enum

/-- Whether the field is a map: repeated, and of the message kind of an entry. -/
def isMap (types : TypeTable) (field : MessageField) : Bool :=
  field.cardinality = .repeated &&
    match field.kind types with
    | .ok (.message entry) => entry.isMapEntry
    | _ => false

/-- Whether the field is repeated and no map. -/
def isList (types : TypeTable) (field : MessageField) : Bool :=
  field.cardinality = .repeated && !field.isMap types

/-- Whether the field tells a set value from an unset one. -/
def hasPresence (types : TypeTable) (field : MessageField) : Bool :=
  if field.cardinality = .repeated then false
  else if field.declaration.proto3Optional.getD false || field.declaration.oneofIndex.isSome then true
  else match field.kind types with
    | .ok (.message _) => true
    | .ok (.group _) => true
    | _ => field.owner.entry.dialect != .proto3

end MessageField

/-! ## Maps -/

/-- The key and value fields of a map entry. -/
structure MapEntry where
  key : MessageField
  value : MessageField
  deriving DecidableEq, Repr

/-- The first field of a message that has a number. -/
def MessageType.fieldNumbered? (message : MessageType) (number : Int32) : Option MessageField :=
  message.fields.find? (·.number == number)

/-- The key and value of a map entry: its first fields numbered 1 and 2, if they have those names. -/
def MessageType.mapEntry (entry : MessageType) : Except GenerateError MapEntry :=
  match entry.fieldNumbered? 1, entry.fieldNumbered? 2 with
  | some key, some value =>
      if key.name = "key" ∧ value.name = "value" then .ok ⟨key, value⟩
      else .error (.malformedMapEntry entry.fullName)
  | _, _ => .error (.malformedMapEntry entry.fullName)

/-- The key and value of a map field; other fields have none. -/
def MessageField.mapEntry? (types : TypeTable) (field : MessageField) :
    Except GenerateError (Option MapEntry) :=
  if field.cardinality = .singular then .ok none
  else do
    match ← field.kind types with
    | .message entry => if entry.isMapEntry then some <$> entry.mapEntry else .ok none
    | _ => .ok none

end CustomResource
