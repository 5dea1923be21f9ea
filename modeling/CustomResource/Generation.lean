import CustomResource.Declaration.Reachable
import CustomResource.Envelope
import CustomResource.Source.Layout

/-!
# Generation

From a registered root message to the source of its custom resource: the types reachable from the root are
declared, and the declarations are put behind the envelope in one module.

Causes of failure have a fixed order.  The root is looked up first; then the configuration is read, its
derives and attributes before the name of the module; then the types are declared; then the identifiers of
the envelope are looked at; identifiers that are declared twice come last.
-/

namespace CustomResource

open Source

/-! ## Distinct identifiers -/

/-- What holds the identifiers of the envelope. -/
def envelopeOwner : String :=
  "the resource envelope"

/-- Check that declarations have new identifiers, after those that are taken, each with its owner. -/
def checkDistinct : (taken : List (String × String)) → List (Planned Declaration) →
    Except DuplicateDeclaration Unit
  | _, [] => .ok ()
  | taken, ⟨name, declaration⟩ :: rest =>
      match taken.lookup declaration.identifier with
      | some first => .error ⟨declaration.identifier, first, name⟩
      | none => checkDistinct ((declaration.identifier, name) :: taken) rest

/-- The identifiers that the envelope takes. -/
def ResourceInfo.takenNames (info : ResourceInfo) : List (String × String) :=
  info.envelopeNames.map fun name => (name, envelopeOwner)

/-! ## Plans -/

/-- A resource, ready to be written. -/
structure ResourcePlan where
  info : ResourceInfo
  /-- The identifier of the module. -/
  moduleName : String
  envelope : Envelope
  /-- The declarations, each with the full name of its type, in breadth-first order from the root. -/
  declarations : List (Planned Declaration)
  deriving Repr

/-- The identifiers and declarations of a resource, which depend on no presentation. -/
def planResource (types : TypeTable) (info : ResourceInfo) (root : MessageType)
    (hroot : root.fullName ∈ types.names) : Except Error (Envelope × List (Planned Declaration)) := do
  let declarations ← reachable types info root hroot
  let envelope ← info.envelope.mapError (.generation info.fullName)
  (checkDistinct info.takenNames declarations).mapError .duplicateDeclaration
  return (envelope, declarations)

namespace ResourcePlan

/-- The documentation of the module. -/
def docs (plan : ResourcePlan) : List String :=
  [" Kubernetes custom resource types for the " ++ codeText plan.info.fullName ++
      " protobuf message.",
    "",
    " " ++ codeText plan.info.name ++ " wraps " ++
      codeText (plan.info.importPath ++ "::" ++ plan.info.name) ++
      " in an object, spec and status envelope."]

/-- How a resource is written. -/
def source (presentation : Presentation) (plan : ResourcePlan) : Module where
  attributes := plan.docs.map .doc
  name := plan.moduleName
  imported := ⟨true, ["k8s_openapi", "apimachinery", "pkg", "apis", "meta", "v1"]⟩
  importedAs := "metav1"
  items :=
    plan.envelope.items plan.info ++ plan.declarations.map (·.output.item presentation)

end ResourcePlan

/-! ## Runs -/

/-- The resource of a root message and its presentation. -/
def generatePlan (config : Config) (types : TypeTable) (typeName : String) :
    Except Error (ResourcePlan × Presentation) :=
  match hroot : types.message? typeName with
  | none => .error (.notFound typeName)
  | some root => do
      let presentation ← config.presentation
      let info := ResourceInfo.ofRoot config root
      let moduleName ← (identifier info.package).mapError (.invalidPackage info.package)
      let (envelope, declarations) ←
        planResource types info root (TypeTable.fullName_mem_names_of_message? hroot)
      return (⟨info, moduleName, envelope, declarations⟩, presentation)

/-- The first line of every generated file. -/
def generatedHeader : String :=
  "// This file is @generated by prost-crd.\n"

/-- The text of a generated file, laid out in lines or as one line of tokens. -/
def fileText (format : Bool) (file : Module) : String :=
  generatedHeader ++ if format then file.layout else file.tokenText

/-- Generate the source of a root message's custom resource. -/
def generate (config : Config) (types : TypeTable) (typeName : String) : Except Error String :=
  (generatePlan config types typeName).map fun (plan, presentation) =>
    fileText config.format (plan.source presentation)

end CustomResource
