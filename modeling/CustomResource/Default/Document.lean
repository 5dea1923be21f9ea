import CustomResource.Default.Linking

/-!
# Documents of defaults

A message with every field at its default.  Fields that tell a set value from an unset one are unset, and
left out.  The others are keyed by the name of the field in documents and come in the order of their numbers.
Well-known types have documents of their own, apart from the one that embeds a message of any type: without
the name of that type it has none.
-/

namespace CustomResource

open Descriptor

/-- The default of a message as a document. -/
inductive DefaultDocument where
  | value (single : DefaultValue)
  | object (members : List (String × DefaultValue))
  deriving DecidableEq, Repr

/-! ## Fields -/

/-- Whether a field of a kind tells a set value from an unset one. -/
def hasLinkedPresence (dialect : Dialect) (field : Field) (kind : Kind) : Bool :=
  field.cardinality = .singular &&
    (field.proto3Optional.getD false || field.oneofIndex.isSome || dialect != .proto3 ||
      match kind with
      | .message _ => true
      | .group _ => true
      | _ => false)

/-- The default of a singular field: the one it states, else that of its kind. -/
def singularDefault? (field : Field) (kind : Kind) : Option DefaultValue :=
  match field.defaultValue with
  | some text => kind.stated? text
  | none =>
      match kind with
      | .scalar scalar => some scalar.default
      | .enum type => some type.default
      | _ => none

/-- The default of a field; none if the field is left out. -/
def fieldDefault? (dialect : Dialect) (field : Field) (kind : Kind) : Option DefaultValue :=
  if hasLinkedPresence dialect field kind then none
  else match field.cardinality, kind with
    | .repeated, .message entry => some (if entry.isMapEntry then .emptyMap else .emptyList)
    | .repeated, _ => some .emptyList
    | .singular, kind => singularDefault? field kind

/-! ## Messages -/

/-- The documents of well-known types. -/
def wellKnownDocuments : List (String × DefaultDocument) :=
  let wellKnown := fun name value => ("google.protobuf." ++ name, DefaultDocument.value value)
  [wellKnown "Timestamp" (.text "1970-01-01T00:00:00Z"),
    wellKnown "Duration" (.text "0s"),
    wellKnown "FieldMask" (.text ""),
    wellKnown "Empty" .emptyMap,
    wellKnown "Struct" .emptyMap,
    wellKnown "ListValue" .emptyList,
    wellKnown "Value" .null,
    wellKnown "BoolValue" ScalarKind.bool.default,
    wellKnown "Int32Value" ScalarKind.int32.default,
    wellKnown "UInt32Value" ScalarKind.uint32.default,
    wellKnown "Int64Value" ScalarKind.int64.default,
    wellKnown "UInt64Value" ScalarKind.uint64.default,
    wellKnown "FloatValue" ScalarKind.float.default,
    wellKnown "DoubleValue" ScalarKind.double.default,
    wellKnown "StringValue" ScalarKind.string.default,
    wellKnown "BytesValue" ScalarKind.bytes.default]

/-- The well-known type that embeds a message of any type. -/
def anyName : String :=
  "google.protobuf.Any"

/-- The fields of a message with their kinds, in the order of their numbers. -/
def NameTable.fields (names : NameTable) (definition : Definition) (entry : MessageEntry) :
    List (Field × Kind) :=
  let ordered := entry.fields.mergeSort fun first second => first.number.getD 0 ≤ second.number.getD 0
  ordered.filterMap fun field =>
    (names.kind? definition.visible definition.name field).map fun kind => (field, kind)

/-- The document of a message, the type that embeds any other apart. -/
def NameTable.document (names : NameTable) (definition : Definition) (entry : MessageEntry) :
    DefaultDocument :=
  match wellKnownDocuments.lookup definition.name with
  | some document => document
  | none =>
      .object <| (names.fields definition entry).filterMap fun (field, kind) =>
        (fieldDefault? definition.dialect field kind).map fun value => (field.key, value)

end CustomResource
