import CustomResource.Source.Attribute

/-!
# Items

A generated source file: one module with an import and the declarations of structs and enums.  Every part
gives its tokens; `Module.tokenText` is the whole file on one line.
-/

namespace CustomResource.Source

/-- A field of a struct. -/
structure StructField where
  attributes : List Attribute := []
  name : String
  type : TypeExpr
  deriving Repr, Inhabited

/-- A variant of an enum. -/
structure Variant where
  attributes : List Attribute := []
  name : String
  deriving Repr, Inhabited

/-- The members of a declaration. -/
inductive Members where
  | fields (list : List StructField)
  | variants (list : List Variant)
  deriving Repr, Inhabited

/-- A public struct or enum. -/
structure Item where
  attributes : List Attribute := []
  name : String
  members : Members
  deriving Repr, Inhabited

/-- A public file. -/
structure Module where
  attributes : List Attribute := []
  name : String
  imported : Path
  importedAs : String
  items : List Item
  deriving Repr, Inhabited

namespace StructField

/-- The tokens of a field, its comma included. -/
def tokens (field : StructField) : List Token :=
  field.attributes.flatMap (·.tokens) ++ [.word "pub", .word field.name, .sign ':'] ++
    field.type.tokens ++ [.sign ',']

end StructField

namespace Variant

/-- The tokens of a variant, its comma included. -/
def tokens (variant : Variant) : List Token :=
  variant.attributes.flatMap (·.tokens) ++ [.word variant.name, .sign ',']

end Variant

namespace Members

/-- The word that declares the members. -/
def keyword : Members → String
  | .fields _ => "struct"
  | .variants _ => "enum"

/-- The tokens of all members. -/
def tokens : Members → List Token
  | .fields list => list.flatMap (·.tokens)
  | .variants list => list.flatMap (·.tokens)

end Members

namespace Item

/-- The tokens of an item. -/
def tokens (item : Item) : List Token :=
  item.attributes.flatMap (·.tokens) ++
    [.word "pub", .word item.members.keyword, .word item.name, .group .brace item.members.tokens]

end Item

namespace Module

/-- The tokens of a file. -/
def tokens (file : Module) : List Token :=
  file.attributes.flatMap (·.tokens) ++
    [.word "pub", .word "mod", .word file.name,
      .group .brace ([.word "use"] ++ file.imported.tokens ++
        [.word "as", .word file.importedAs, .sign ';'] ++ file.items.flatMap (·.tokens))]

/-- The file as one line of tokens. -/
def tokenText (file : Module) : String :=
  Token.render file.tokens ++ "\n"

end Module

end CustomResource.Source
