import CustomResource.Registry.Field

/-!
# Declarations

What is generated for a message or an enum, before any presentation: the identifiers, the shapes of fields
and what their values are.  Derives, configured attributes and the choice of collections come later, see
`CustomResource.Declaration.Rendering`.
-/

namespace CustomResource

/-! ## Types of values -/

/-- The plain types that represent scalars. -/
inductive ScalarType where
  | bool
  | i32
  | u32
  | i64
  | u64
  | string
  deriving DecidableEq, Repr

/-- The plain type of a scalar kind.  Bytes have a configured type, and floating point kinds have none. -/
def ScalarKind.plainType? : ScalarKind → Option ScalarType
  | .bool => some .bool
  | .int32 | .sint32 | .sfixed32 => some .i32
  | .uint32 | .fixed32 => some .u32
  | .int64 | .sint64 | .sfixed64 => some .i64
  | .uint64 | .fixed64 => some .u64
  | .string => some .string
  | .float | .double | .bytes => none

/-- A registered type that gets a declaration. -/
inductive DeclaredType where
  | message (type : MessageType)
  | enum (type : EnumType)
  deriving DecidableEq, Repr

/-- The full name of a type that gets a declaration. -/
def DeclaredType.fullName : DeclaredType → String
  | .message type => type.fullName
  | .enum type => type.fullName

/-- The type that values of a kind are declared by, if they refer to one. -/
def Kind.declared? : Kind → Option DeclaredType
  | .scalar _ => none
  | .message type => some (.message type)
  | .group type => some (.message type)
  | .enum type => some (.enum type)

/-- What one value of a field is. -/
inductive ValueType where
  | scalar (type : ScalarType)
  | bytes
  /-- A value of a declared type, which is referred to by its identifier. -/
  | declared (type : DeclaredType) (identifier : String)
  deriving DecidableEq, Repr

/-- The type that a value is declared by, if it refers to one. -/
def ValueType.declared? : ValueType → Option DeclaredType
  | .declared type _ => some type
  | _ => none

/-! ## Fields -/

/-- How a field holds values. -/
inductive Shape where
  /-- A value that is always there. -/
  | plain
  /-- A value that may be unset. -/
  | optional
  /-- A value behind a pointer that may be unset. -/
  | boxed
  /-- Any number of values. -/
  | list
  /-- Any number of values, for a group, which is marked as not implemented. -/
  | group
  /-- Values under scalar keys. -/
  | map (key : ScalarType)
  deriving DecidableEq, Repr

/-- What a field is generated as. -/
inductive FieldMapping where
  /-- Nothing, because the kind of its values has no type. -/
  | omitted (kind : Kind)
  | mapped (value : ValueType) (shape : Shape)
  deriving DecidableEq, Repr

/-- The type that a mapped field refers to, if any. -/
def FieldMapping.declared? : FieldMapping → Option DeclaredType
  | .mapped value _ => value.declared?
  | .omitted _ => none

/-- A field that is part of a struct. -/
structure MappedField where
  field : MessageField
  identifier : String
  /-- The key the field is serialized under. -/
  key : String
  value : ValueType
  shape : Shape
  deriving DecidableEq, Repr

/-- A field as its message is declared: part of the struct, or a note that it is left out. -/
inductive FieldOutcome where
  | omitted (field : MessageField) (kind : Kind)
  | mapped (field : MappedField)
  deriving DecidableEq, Repr

namespace FieldOutcome

/-- The field, if it is part of the struct. -/
def mapped? : FieldOutcome → Option MappedField
  | .mapped field => some field
  | .omitted .. => none

/-- The field and the kind that has no type, if it is left out. -/
def omitted? : FieldOutcome → Option (MessageField × Kind)
  | .omitted field kind => some (field, kind)
  | .mapped _ => none

/-- The type that the field refers to, if any. -/
def declared? : FieldOutcome → Option DeclaredType
  | .mapped field => field.value.declared?
  | .omitted .. => none

end FieldOutcome

/-! ## Declarations -/

/-- The declaration of a message. -/
structure MessageDeclaration where
  type : MessageType
  identifier : String
  fields : List FieldOutcome
  deriving DecidableEq, Repr

/-- A variant of an enum. -/
structure EnumVariant where
  value : Descriptor.EnumValue
  identifier : String
  deriving DecidableEq, Repr

/-- The declaration of an enum, whose first variant is the default. -/
structure EnumDeclaration where
  type : EnumType
  identifier : String
  variants : List EnumVariant
  deriving DecidableEq, Repr

/-- A declaration. -/
inductive Declaration where
  | message (declaration : MessageDeclaration)
  | enum (declaration : EnumDeclaration)
  deriving DecidableEq, Repr

namespace Declaration

/-- The identifier that is declared. -/
def identifier : Declaration → String
  | .message declaration => declaration.identifier
  | .enum declaration => declaration.identifier

/-- The types that the declaration refers to, in the order of its fields. -/
def references : Declaration → List DeclaredType
  | .message declaration => declaration.fields.filterMap (·.declared?)
  | .enum _ => []

end Declaration

end CustomResource
