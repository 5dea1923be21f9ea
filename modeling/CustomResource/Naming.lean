import CustomResource.Text.Words

/-!
# Names of generated declarations

Descriptor names come in any convention; declarations are written in theirs.  A field becomes a snake-case
identifier, a type an upper camel-case one, and the key under which a field is serialized is lower camel
case.  Where the plain conversion yields a reserved word, it is marked: as a raw identifier if the language
of the output admits that, with a trailing underscore otherwise.

Enum types always end in one suffix, so that an enum never shares its identifier with a message of the same
base name, and the name of the enum is part of each of its constants.
-/

namespace CustomResource.Naming

/-- Apply a conversion of characters to a string. -/
def convert (conversion : List Char → List Char) (name : String) : String :=
  String.ofList (conversion name.toList)

/-! ## Reserved words -/

/-- Reserved words that are written as raw identifiers. -/
def rawWords : List String :=
  ["as", "break", "const", "continue", "else", "enum", "false", "fn", "for", "if", "impl", "in", "let",
    "loop", "match", "mod", "move", "mut", "pub", "ref", "return", "static", "struct", "trait", "true",
    "type", "unsafe", "use", "where", "while", "dyn", "abstract", "become", "box", "do", "final", "macro",
    "override", "priv", "typeof", "unsized", "virtual", "yield", "async", "await", "try", "gen"]

/-- Reserved words that no raw identifier may spell. -/
def suffixedWords : List String :=
  ["_", "super", "self", "crate", "extern"]

/-- A snake-case name with the mark of a reserved word, if it is one. -/
def markSnake (name : String) : String :=
  if name ∈ rawWords then "r#" ++ name
  else if name ∈ suffixedWords then name ++ "_"
  else name

/-- An upper camel-case name with the mark of a reserved word, if it is one. -/
def markUpperCamel (name : String) : String :=
  if name = "Self" then name ++ "_" else name

/-! ## Conversions -/

/-- The identifier of a field or module. -/
def snake (name : String) : String :=
  markSnake (convert Text.snakeCase name)

/-- The identifier of a type. -/
def upperCamel (name : String) : String :=
  markUpperCamel (convert Text.upperCamelCase name)

/-- The key of a serialized field. -/
def lowerCamel (name : String) : String :=
  convert Text.lowerCamelCase name

/-! ## Enums -/

/-- The suffix of every enum type. -/
def enumSuffix : String :=
  "Type"

/-- The identifier of an enum type. -/
def enumType (name : String) : String :=
  let plain := upperCamel name
  if enumSuffix.toList.isSuffixOf plain.toList then plain else plain ++ enumSuffix

/-- The identifier of an enum constant, from the names of the enum and of the value. -/
def enumConstant (enumName valueName : String) : String :=
  let value := convert (fun name => Text.upperCamelCase (Text.lowerText name)) valueName
  upperCamel (value ++ enumType enumName)

end CustomResource.Naming
