import CustomResource.Declaration.Basic
import CustomResource.Resource
import CustomResource.Source.Identifier

/-!
# Declaring types

How a message or enum becomes a declaration, or why it does not.  Fields are mapped in order of declaration,
each together with its identifier, so the first field at fault decides the error.  Enum values likewise: a
constant that an earlier value has is a conflict, reported before its identifier is looked at.
-/

namespace CustomResource

open Source

/-- A generated name as an identifier. -/
def declaredIdentifier (name : String) : Except GenerateError String :=
  (identifier name).mapError (.invalidIdentifier name)

/-! ## Fields -/

/-- The identifier under which a type is declared. -/
def ResourceInfo.identifierOf (info : ResourceInfo) : DeclaredType → String
  | .message type => info.messageName type
  | .enum type => Naming.enumType type.name

/-- A value of a declared type. -/
def declaredValue (info : ResourceInfo) (type : DeclaredType) : Except GenerateError ValueType :=
  (declaredIdentifier (info.identifierOf type)).map (.declared type)

/-- What a value of a kind is; floating point kinds have no type. -/
def valueType (info : ResourceInfo) : Kind → Except GenerateError (Option ValueType)
  | .scalar .bytes => .ok (some .bytes)
  | .scalar kind => .ok (kind.plainType?.map .scalar)
  | .message type => some <$> declaredValue info (.message type)
  | .group type => some <$> declaredValue info (.message type)
  | .enum type => some <$> declaredValue info (.enum type)

/-- What a value of a kind makes a field.  Without a type for the value the field is omitted. -/
def mappingOf (info : ResourceInfo) (kind : Kind) (shape : Shape) : Except GenerateError FieldMapping := do
  match ← valueType info kind with
  | some value => return .mapped value shape
  | none => return .omitted kind

/-- The type of the keys of a map field: integral, boolean or string. -/
def mapKey (types : TypeTable) (field : MessageField) (kind : Kind) : Except GenerateError ScalarType :=
  match kind with
  | .scalar kind =>
      match kind.plainType? with
      | some type => .ok type
      | none => malformed
  | _ => malformed
where
  malformed :=
    .error <| .malformedMapEntry <|
      match field.kind types with
      | .ok kind => kind.text
      | .error _ => field.fullName

/-- The shape of a field that is no map. -/
def shapeOf (types : TypeTable) (field : MessageField) (kind : Kind) : Shape :=
  match kind with
  | .group _ => .group
  | _ =>
      if field.isList types then .list
      else match kind with
        | .message _ => .boxed
        | .scalar .bytes => .plain
        | _ => if field.hasPresence types then .optional else .plain

/-- What a field is generated as. -/
def mapField (types : TypeTable) (info : ResourceInfo) (field : MessageField) :
    Except GenerateError FieldMapping := do
  match ← field.mapEntry? types with
  | some entry =>
      let key ← mapKey types field (← entry.key.kind types)
      mappingOf info (← entry.value.kind types) (.map key)
  | none =>
      let kind ← field.kind types
      mappingOf info kind (shapeOf types field kind)

/-- What a field is generated as, together with the identifier it gets in a struct. -/
def declareField (types : TypeTable) (info : ResourceInfo) (field : MessageField) :
    Except GenerateError FieldOutcome := do
  match ← mapField types info field with
  | .omitted kind => return .omitted field kind
  | .mapped value shape =>
      let identifier ← declaredIdentifier (Naming.snake field.name)
      return .mapped ⟨field, identifier, Naming.lowerCamel field.name, value, shape⟩

/-! ## Messages -/

/-- The declaration of a message. -/
def declareMessage (types : TypeTable) (info : ResourceInfo) (message : MessageType) :
    Except GenerateError MessageDeclaration := do
  let fields ← message.fields.mapM (declareField types info)
  let identifier ← declaredIdentifier (info.messageName message)
  return ⟨message, identifier, fields⟩

/-! ## Enums -/

/-- The constant of an enum value. -/
def EnumType.constant (enum : EnumType) (value : Descriptor.EnumValue) : String :=
  Naming.enumConstant enum.name (value.name.getD "")

/-- The variants of values, after those that hold the constants in `earlier`. -/
def declareVariants (enum : EnumType) :
    (earlier : List (String × Descriptor.EnumValue)) → List Descriptor.EnumValue →
      Except GenerateError (List EnumVariant)
  | _, [] => .ok []
  | earlier, value :: rest => do
      let constant := enum.constant value
      match earlier.lookup constant with
      | some first =>
          .error (.conflictingEnumValues constant (enum.valueFullName first) (enum.valueFullName value))
      | none =>
          let identifier ← declaredIdentifier constant
          return ⟨value, identifier⟩ :: (← declareVariants enum ((constant, value) :: earlier) rest)

/-- The declaration of an enum. -/
def declareEnum (enum : EnumType) : Except GenerateError EnumDeclaration :=
  if enum.declaration.values.isEmpty then .error (.emptyEnum enum.fullName)
  else do
    let variants ← declareVariants enum [] enum.declaration.values
    let identifier ← declaredIdentifier (Naming.enumType enum.name)
    return ⟨enum, identifier, variants⟩

/-! ## Types -/

/-- The declaration of a type. -/
def declare (types : TypeTable) (info : ResourceInfo) : DeclaredType → Except GenerateError Declaration
  | .message type => .message <$> declareMessage types info type
  | .enum type => .enum <$> declareEnum type

end CustomResource
