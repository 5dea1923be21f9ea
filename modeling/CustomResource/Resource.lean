import CustomResource.Configuration
import CustomResource.Naming
import CustomResource.Registry.Basic

/-!
# Resources

The names that one run derives from its root message: those of the envelope around the generated types, of
the module that holds them, and of the module that the root's own type is imported from.
-/

namespace CustomResource

/-- The names of a resource. -/
structure ResourceInfo where
  /-- The identifier of the resource. -/
  name : String
  /-- The name of the generated module. -/
  package : String
  /-- The path of the module of the root's own type. -/
  importPath : String
  /-- The full name of the root message. -/
  fullName : String
  deriving DecidableEq, Repr, Inhabited

namespace ResourceInfo

/-- The name of the module: the configured one, else the last segment of the package, else the name of the
root. -/
def moduleName (config : Config) (root : MessageType) : String :=
  let package := QualifiedName.ofReference root.package
  match config.package with
  | some name => name
  | none => Naming.snake (if package.text = "" then root.name else package.lastSegment)

/-- The names of the resource of a root message. -/
def ofRoot (config : Config) (root : MessageType) : ResourceInfo where
  name := Naming.upperCamel root.name
  package := moduleName config root
  importPath := "::".intercalate <|
    config.importRoot.getD "crate" ::
      (QualifiedName.ofReference root.package).path.map Naming.snake
  fullName := root.fullName

/-- The identifier of the root message's declaration. -/
def specName (info : ResourceInfo) : String :=
  info.name ++ "Spec"

/-- The identifier of the list of resources. -/
def listName (info : ResourceInfo) : String :=
  info.name ++ "List"

/-- The identifier of the observed state. -/
def statusName (info : ResourceInfo) : String :=
  info.name ++ "Status"

/-- The identifier of one aspect of the observed state. -/
def conditionName (info : ResourceInfo) : String :=
  info.name ++ "Condition"

/-- The identifier of a message's declaration. -/
def messageName (info : ResourceInfo) (message : MessageType) : String :=
  if message.fullName = info.fullName then info.specName else Naming.upperCamel message.name

end ResourceInfo

end CustomResource
