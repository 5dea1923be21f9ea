import CustomResource.Text.Quoted

/-!
# Causes of failure

What can go wrong between descriptors and generated source, as data, and the one text of each cause.
Texts of nested causes are part of the text around them.
-/

namespace CustomResource

/-! ## Identifiers -/

/-- Why a text is not an identifier. -/
inductive IdentifierError where
  /-- The text does not consist of tokens. -/
  | notTokens
  /-- The text holds no token. -/
  | empty
  /-- The first token is of another kind. -/
  | notIdentifier
  /-- The first token is a reserved word. -/
  | reserved (word : String)
  /-- More tokens follow the identifier. -/
  | moreTokens
  deriving DecidableEq, Repr

/-- The text of an identifier error. -/
def IdentifierError.message : IdentifierError → String
  | .notTokens => "cannot parse string into token stream"
  | .empty => "unexpected end of input, expected identifier"
  | .notIdentifier => "expected identifier"
  | .reserved word => "expected identifier, found keyword " ++ "\x60" ++ word ++ "\x60"
  | .moreTokens => "unexpected token"

/-! ## Types -/

/-- Why one type cannot be generated. -/
inductive GenerateError where
  /-- A field refers to a type that is not registered. -/
  | unresolvedType (field typeName : String)
  /-- A field carries a type code outside the known ones. -/
  | unknownFieldType (field : String) (value : Int32)
  /-- A message, group or enum field carries no type name. -/
  | missingTypeName (field : String)
  /-- A map entry lacks its key or value field, or has a key of a kind that no key may have. -/
  | malformedMapEntry (entry : String)
  /-- An enum without values has no default. -/
  | emptyEnum (enumName : String)
  /-- Two values of one enum have the same constant. -/
  | conflictingEnumValues (constant first second : String)
  /-- A generated name is not an identifier. -/
  | invalidIdentifier (identifier : String) (cause : IdentifierError)
  deriving DecidableEq, Repr

/-- The text of a type error. -/
def GenerateError.message : GenerateError → String
  | .unresolvedType field typeName =>
      "field " ++ field ++ " refers to unknown type " ++ Text.quote typeName
  | .unknownFieldType field value =>
      "field " ++ field ++ " has unknown type value " ++ toString value.toInt
  | .missingTypeName field => "field " ++ field ++ " has no type name"
  | .malformedMapEntry entry => "map entry " ++ entry ++ " is malformed"
  | .emptyEnum enumName => "enum " ++ enumName ++ " has no values"
  | .conflictingEnumValues constant first second =>
      "enum values " ++ first ++ " and " ++ second ++ " both resolve to constant " ++ constant
  | .invalidIdentifier identifier cause =>
      "invalid identifier " ++ Text.quote identifier ++ ": " ++ cause.message

/-! ## Files -/

/-- Why a file cannot be read or written. -/
inductive FileError where
  | notFound
  | isDirectory
  /-- Any other cause, with the text the system gives for it. -/
  | other (text : String)
  deriving DecidableEq, Repr

/-- The text of a file error. -/
def FileError.message : FileError → String
  | .notFound => "No such file or directory (os error 2)"
  | .isDirectory => "Is a directory (os error 21)"
  | .other text => text

/-! ## Runs -/

/-- Two declarations that share an identifier. -/
structure DuplicateDeclaration where
  identifier : String
  first : String
  second : String
  deriving DecidableEq, Repr

/-- The text of a duplicate declaration. -/
def DuplicateDeclaration.message (error : DuplicateDeclaration) : String :=
  "type " ++ error.identifier ++ " is declared by both " ++ error.first ++ " and " ++ error.second

/-- Why generation as a whole fails. -/
inductive Error where
  /-- The root type is not registered. -/
  | notFound (name : String)
  /-- A configured derive or attribute cannot be read. -/
  | invalidAttribute (text : String)
  /-- The name of the module is not an identifier. -/
  | invalidPackage (package : String) (cause : IdentifierError)
  /-- The named type cannot be generated. -/
  | generation (typeName : String) (cause : GenerateError)
  /-- Two declarations share an identifier. -/
  | duplicateDeclaration (cause : DuplicateDeclaration)
  deriving DecidableEq, Repr

/-- The text of an error.  The text for an unreadable attribute stops before the diagnostic of the reader,
which is not modelled. -/
def Error.message : Error → String
  | .notFound name => "failed to find type " ++ Text.quote name
  | .invalidAttribute text => "invalid attribute " ++ Text.quote text ++ ": "
  | .invalidPackage package cause =>
      "invalid package " ++ Text.quote package ++ ": " ++ cause.message
  | .generation typeName cause => "failed to generate " ++ typeName ++ ": " ++ cause.message
  | .duplicateDeclaration cause => "failed to format generated source: " ++ cause.message

/-- The texts of the causes below an error, from the outermost to the innermost. -/
def Error.causes : Error → List String
  | .notFound _ => []
  | .invalidAttribute _ => []
  | .invalidPackage _ cause => [cause.message]
  | .generation _ cause =>
      cause.message :: match cause with
        | .invalidIdentifier _ inner => [inner.message]
        | _ => []
  | .duplicateDeclaration cause => [cause.message]

/-- Why a descriptor set cannot be loaded. -/
inductive LoadError where
  | unreadable (cause : FileError)
  | undecodable
  deriving DecidableEq, Repr

/-- The text of a load error.  The text for undecodable bytes stops before the diagnostic of the decoder,
which is not modelled. -/
def LoadError.message : LoadError → String
  | .unreadable cause => "IO error: " ++ cause.message
  | .undecodable => "invalid FileDescriptorSet: "

end CustomResource
