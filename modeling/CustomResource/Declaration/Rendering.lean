import CustomResource.Configuration
import CustomResource.Declaration.Basic

/-!
# Declarations as source

How a declaration is written, under a presentation.  The documentation of a struct names the message and its
omitted fields, and every field and variant names what it stands for.  A field is skipped when serialized
if its type has a test for that: an unset option, an empty list or map, and single bytes if their
representation has a test for emptiness.
-/

namespace CustomResource

open Source

/-! ## Text and tokens -/

/-- Text marked as code. -/
def codeText (text : String) : String :=
  "\x60" ++ text ++ "\x60"

/-- Words of an attribute, separated by commas. -/
def commaSeparated : List (List Token) → List Token
  | [] => []
  | [last] => last
  | first :: rest => first ++ [.sign ','] ++ commaSeparated rest

/-- An argument of an attribute: a word and its text. -/
def textArgument (word text : String) : List Token :=
  [.word word, .sign '=', .literal (Text.literal text)]

/-- The derives of serialized types. -/
def serializedDerives : List (List Token) :=
  [Path.tokens ⟨true, ["serde", "Serialize"]⟩, Path.tokens ⟨true, ["serde", "Deserialize"]⟩]

/-- An attribute that derives plain names, serialization and the given paths. -/
def deriveAttribute (names : List String) (derives : List (List Token)) : Attribute :=
  .call "derive" (commaSeparated (names.map (fun name => [.word name]) ++ serializedDerives ++ derives))

/-- The attribute that tells how a field, variant or type is serialized. -/
def serdeAttribute (arguments : List (List Token)) : Attribute :=
  .call "serde" (commaSeparated arguments)

/-- The argument that skips a field when a test holds. -/
def skipArgument (test : Path) : List Token :=
  textArgument "skip_serializing_if" test.text

/-! ## Types -/

/-- The path of an unset option's test. -/
def optionTest : Path :=
  ⟨true, ["std", "option", "Option", "is_none"]⟩

/-- The path of an empty list's test. -/
def listTest : Path :=
  ⟨true, ["std", "vec", "Vec", "is_empty"]⟩

/-- A type that may be unset. -/
def optionOf (type : TypeExpr) : TypeExpr :=
  .rooted ["std", "option", "Option"] [type]

/-- A type of lists. -/
def listOf (type : TypeExpr) : TypeExpr :=
  .rooted ["std", "vec", "Vec"] [type]

/-- The type of text. -/
def stringType : TypeExpr :=
  .rooted ["std", "string", "String"] []

/-- How a plain scalar type is written. -/
def ScalarType.expr : ScalarType → TypeExpr
  | .bool => .named "bool"
  | .i32 => .named "i32"
  | .u32 => .named "u32"
  | .i64 => .named "i64"
  | .u64 => .named "u64"
  | .string => stringType

/-- How the type of one value is written. -/
def ValueType.expr (bytesType : BytesType) : ValueType → TypeExpr
  | .scalar type => type.expr
  | .bytes => bytesType.type
  | .declared _ identifier => .named identifier

/-- How the type of a field is written, given the type of one value. -/
def Shape.expr (mapType : MapType) (value : TypeExpr) : Shape → TypeExpr
  | .plain => value
  | .optional => optionOf value
  | .boxed => optionOf (.rooted ["std", "boxed", "Box"] [value])
  | .list => listOf value
  | .group => listOf value
  | .map key => .path mapType.path [key.expr, value]

/-! ## Fields -/

namespace MappedField

/-- How the type of a field is written. -/
def typeExpr (presentation : Presentation) (field : MappedField) : TypeExpr :=
  field.shape.expr presentation.mapType (field.value.expr presentation.bytesType)

/-- The test under which a field is skipped, if there is one. -/
def skipTest? (presentation : Presentation) (field : MappedField) : Option Path :=
  match field.shape with
  | .plain => if field.value = .bytes then presentation.bytesType.emptyTest? else none
  | .optional => some optionTest
  | .boxed => some optionTest
  | .list => some listTest
  | .group => some listTest
  | .map _ => some presentation.mapType.emptyTest

/-- The documentation of a field. -/
def docs (field : MappedField) : List String :=
  (" " ++ codeText field.field.fullName) ::
    if field.shape = .group then ["", " Not implemented."] else []

/-- How a field of a struct is written. -/
def structField (presentation : Presentation) (field : MappedField) : StructField where
  attributes :=
    field.docs.map .doc ++
      [serdeAttribute
        ([textArgument "rename" field.key, [.word "default"]] ++
          ((field.skipTest? presentation).map skipArgument).toList)] ++
      presentation.attributesOfField field.field.owner.fullName field.field.name
  name := field.identifier
  type := field.typeExpr presentation

end MappedField

/-! ## Types -/

namespace MessageDeclaration

/-- The line of documentation for a field that is left out. -/
def omittedDoc (field : MessageField) (kind : Kind) : String :=
  " - " ++ codeText field.name ++ ": floating point fields are not supported (" ++ kind.text ++ ")."

/-- The documentation of a message. -/
def docs (declaration : MessageDeclaration) : List String :=
  let omitted := declaration.fields.filterMap (·.omitted?)
  (" " ++ codeText declaration.type.fullName) ::
    if omitted.isEmpty then []
    else "" :: " Omitted fields:" :: omitted.map fun (field, kind) => omittedDoc field kind

/-- How a message is written. -/
def item (presentation : Presentation) (declaration : MessageDeclaration) : Item where
  attributes :=
    declaration.docs.map .doc ++
      [deriveAttribute ["Clone", "Debug", "Default", "PartialEq"] presentation.derives] ++
      presentation.attributesOfType declaration.type.fullName
  name := declaration.identifier
  members := .fields <|
    (declaration.fields.filterMap (·.mapped?)).map (·.structField presentation)

end MessageDeclaration

namespace EnumDeclaration

/-- How a variant is written. -/
def sourceVariant (type : EnumType) (isDefault : Bool) (variant : EnumVariant) : Variant where
  attributes :=
    [.doc (" " ++ codeText (type.valueFullName variant.value) ++ " = " ++
        toString (variant.value.number.getD 0).toInt),
      serdeAttribute [textArgument "rename" (variant.value.name.getD "")]] ++
      if isDefault then [⟨⟨false, ["default"]⟩, .nothing⟩] else []
  name := variant.identifier

/-- How variants are written, the first as the default. -/
def sourceVariants (type : EnumType) : List EnumVariant → List Variant
  | [] => []
  | first :: rest => sourceVariant type true first :: rest.map (sourceVariant type false)

/-- How an enum is written. -/
def item (presentation : Presentation) (declaration : EnumDeclaration) : Item where
  attributes :=
    [.doc (" " ++ codeText declaration.type.fullName),
      deriveAttribute ["Clone", "Copy", "Debug", "Default", "PartialEq", "Eq", "Hash"]
        presentation.derives] ++
      presentation.attributesOfType declaration.type.fullName
  name := declaration.identifier
  members := .variants (sourceVariants declaration.type declaration.variants)

end EnumDeclaration

/-- How a declaration is written. -/
def Declaration.item (presentation : Presentation) : Declaration → Item
  | .message declaration => declaration.item presentation
  | .enum declaration => declaration.item presentation

end CustomResource
