import CustomResource.Declaration.Mapping
import CustomResource.Declaration.Rendering

/-!
# The envelope

The four types around the generated spec of a resource: the object itself, the list of objects, the observed
state and one aspect of it.  They are the same for every resource up to its names.
-/

namespace CustomResource

open Source

/-- The identifiers of an envelope, and that of the spec it refers to. -/
structure Envelope where
  name : String
  spec : String
  list : String
  status : String
  condition : String
  deriving DecidableEq, Repr

namespace ResourceInfo

/-- The identifiers of a resource's envelope. -/
def envelope (info : ResourceInfo) : Except GenerateError Envelope := do
  return {
    name := ← declaredIdentifier info.name
    spec := ← declaredIdentifier info.specName
    list := ← declaredIdentifier info.listName
    status := ← declaredIdentifier info.statusName
    condition := ← declaredIdentifier info.conditionName }

/-- The names that the envelope declares. -/
def envelopeNames (info : ResourceInfo) : List String :=
  [info.name, info.listName, info.statusName, info.conditionName]

end ResourceInfo

namespace Envelope

/-! ## Parts -/

/-- The attributes of an envelope type with documentation and derives. -/
def typeAttributes (doc : String) (derives : List String) : List Attribute :=
  [.doc doc, deriveAttribute derives [], serdeAttribute [textArgument "rename_all" "camelCase"]]

/-- The derives of the envelope types that have a default. -/
def defaultDerives : List String :=
  ["Clone", "Debug", "Default", "PartialEq"]

/-- The attribute of a field with a default. -/
def defaultAttribute : Attribute :=
  serdeAttribute [[.word "default"]]

/-- The attribute of a field with a default that is skipped when a test holds. -/
def skippedAttribute (test : Path) : Attribute :=
  serdeAttribute [[.word "default"], skipArgument test]

/-- A type of the shared metadata. -/
def metaType (name : String) : TypeExpr :=
  .path ⟨false, ["metav1", name]⟩ []

/-- The fields that identify the kind of an object, and its metadata. -/
def objectFields (metadata : String) : List StructField :=
  [{ name := "api_version", type := stringType },
    { name := "kind", type := stringType },
    { attributes := [defaultAttribute], name := "metadata", type := metaType metadata }]

/-! ## Types -/

/-- The object. -/
def object (info : ResourceInfo) (envelope : Envelope) : Item where
  attributes := typeAttributes
    (" A " ++ codeText info.name ++ " custom resource, holding " ++ codeText info.fullName ++
      " as its spec.") defaultDerives
  name := envelope.name
  members := .fields <| objectFields "ObjectMeta" ++
    [{ attributes := [defaultAttribute], name := "spec", type := .named envelope.spec },
      { attributes := [skippedAttribute optionTest]
        name := "status"
        type := optionOf (.named envelope.status) }]

/-- The list of objects. -/
def objectList (info : ResourceInfo) (envelope : Envelope) : Item where
  attributes := typeAttributes
    (" A list of " ++ codeText info.name ++ " custom resources.") defaultDerives
  name := envelope.list
  members := .fields <| objectFields "ListMeta" ++
    [{ attributes := [defaultAttribute], name := "items", type := listOf (.named envelope.name) }]

/-- The observed state of an object. -/
def observedState (info : ResourceInfo) (envelope : Envelope) : Item where
  attributes := typeAttributes
    (" The observed state of a " ++ codeText info.name ++ ".") defaultDerives
  name := envelope.status
  members := .fields
    [{ attributes := [skippedAttribute listTest]
       name := "conditions"
       type := listOf (.named envelope.condition) }]

/-- One aspect of the observed state. -/
def aspect (info : ResourceInfo) (envelope : Envelope) : Item where
  attributes := typeAttributes
    (" One aspect of the observed state of a " ++ codeText info.name ++ ".")
    ["Clone", "Debug", "PartialEq"]
  name := envelope.condition
  members := .fields
    [{ attributes := [
         .rawDoc (" Type of the condition, in " ++ codeText "CamelCase" ++ "."),
         serdeAttribute [textArgument "rename" "type"]]
       name := "r#type"
       type := stringType },
      { attributes := [
          .rawDoc (" One of " ++ codeText "True" ++ ", " ++ codeText "False" ++ " or " ++
            codeText "Unknown" ++ ".")]
        name := "status"
        type := stringType },
      { attributes := [
          .rawDoc (" The " ++ codeText ".metadata.generation" ++ " the condition was set for."),
          skippedAttribute optionTest]
        name := "observed_generation"
        type := optionOf (.named "i64") },
      { attributes := [.rawDoc " Last time the condition changed status."]
        name := "last_transition_time"
        type := metaType "Time" },
      { attributes := [
          .rawDoc (" Machine-readable reason for the last transition, in " ++
            codeText "CamelCase" ++ ".")]
        name := "reason"
        type := stringType },
      { attributes := [.rawDoc " Human-readable details about the last transition."]
        name := "message"
        type := stringType }]

/-- The types of an envelope. -/
def items (info : ResourceInfo) (envelope : Envelope) : List Item :=
  [envelope.object info, envelope.objectList info, envelope.observedState info, envelope.aspect info]

end Envelope

end CustomResource
