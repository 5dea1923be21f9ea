import CustomResource.Error
import CustomResource.Matcher
import CustomResource.Source.Item

/-!
# Configuration

What a caller may choose: the names around the generated types, and their presentation, that is the
attributes they carry, the collections of their fields and whether the output is laid out in lines.

Derives and attributes are configured as texts.  They are read before anything is generated, and the first
that cannot be read is reported: derives before the attributes of types, these before those of fields.
-/

namespace CustomResource

open Source

/-! ## Collections -/

/-- The collection of map fields. -/
inductive MapType where
  | btree
  | hash
  deriving DecidableEq, Repr, Inhabited

/-- The representation of bytes fields. -/
inductive BytesType where
  | vec
  | byteString
  deriving DecidableEq, Repr, Inhabited

namespace MapType

/-- The name of the collection. -/
def name : MapType → String
  | .btree => "BTreeMap"
  | .hash => "HashMap"

/-- The path of the collection. -/
def path (type : MapType) : Path :=
  ⟨true, ["std", "collections", type.name]⟩

/-- The path of the test for an empty collection. -/
def emptyTest (type : MapType) : Path :=
  ⟨true, ["std", "collections", type.name, "is_empty"]⟩

end MapType

namespace BytesType

/-- The name of the representation. -/
def name : BytesType → String
  | .vec => "Vec"
  | .byteString => "ByteString"

/-- The type of bytes. -/
def type : BytesType → TypeExpr
  | .vec => .rooted ["std", "vec", "Vec"] [.named "u8"]
  | .byteString => .rooted ["k8s_openapi", "ByteString"] []

/-- The path of the test for no bytes, if the representation has one. -/
def emptyTest? : BytesType → Option Path
  | .vec => some ⟨true, ["std", "vec", "Vec", "is_empty"]⟩
  | .byteString => none

end BytesType

/-! ## Configurations -/

/-- A configuration, its derives and attributes as texts. -/
structure Config where
  /-- Derives of every generated type. -/
  derives : List String := []
  /-- Attributes of the types their matchers select. -/
  typeAttributes : List (String × String) := []
  /-- Attributes of the fields their matchers select. -/
  fieldAttributes : List (String × String) := []
  mapType : MapType := .btree
  bytesType : BytesType := .vec
  /-- The name of the generated module, in place of the last segment of the package. -/
  package : Option String := none
  /-- The module the imported types live under, in place of the crate itself. -/
  importRoot : Option String := none
  /-- Whether the output is laid out in lines. -/
  format : Bool := true
  deriving DecidableEq, Repr, Inhabited

/-- What a configuration adds to declarations, with its texts read. -/
structure Presentation where
  derives : List (List Token)
  typeAttributes : List (Matcher × List Attribute)
  fieldAttributes : List (Matcher × List Attribute)
  mapType : MapType
  bytesType : BytesType
  deriving Repr, Inhabited

/-- Read a derive. -/
def readDerive (text : String) : Except Error (List Token) :=
  match typePath? text with
  | some tokens => .ok tokens
  | none => .error (.invalidAttribute text)

/-- Read attributes with their matcher. -/
def readAttributes (configured : String × String) : Except Error (Matcher × List Attribute) :=
  match attributes? configured.2 with
  | some attributes => .ok (.ofText configured.1, attributes)
  | none => .error (.invalidAttribute configured.2)

/-- Read the texts of a configuration. -/
def Config.presentation (config : Config) : Except Error Presentation := do
  return {
    derives := ← config.derives.mapM readDerive
    typeAttributes := ← config.typeAttributes.mapM readAttributes
    fieldAttributes := ← config.fieldAttributes.mapM readAttributes
    mapType := config.mapType
    bytesType := config.bytesType }

namespace Presentation

/-- The configured attributes of a message or enum, in the order of configuration. -/
def attributesOfType (presentation : Presentation) (fullName : String) : List Attribute :=
  (presentation.typeAttributes.filter (·.1.acceptsType fullName)).flatMap (·.2)

/-- The configured attributes of a field, in the order of configuration. -/
def attributesOfField (presentation : Presentation) (messageName fieldName : String) :
    List Attribute :=
  (presentation.fieldAttributes.filter (·.1.acceptsField messageName fieldName)).flatMap (·.2)

end Presentation

end CustomResource
