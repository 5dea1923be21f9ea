import CustomResource.Registry.Field

/-!
# Names across files

Files that hold together share one table of full names.  Packages, messages, fields, oneofs, enums and enum
values all have their place in it, and only a package may be named more than once.  A value of an enum is
named beside the enum, not inside it.

References are resolved as the schema language has it.  A leading dot marks a name as full.  Any other name
is looked for from the innermost scope outwards; if it has several parts, the first scope that knows the
first part decides.  Only messages and enums of the file itself and of its imports can be meant.
-/

namespace CustomResource

open Descriptor

/-! ## Definitions -/

/-- What a full name stands for. -/
inductive Meaning where
  | package
  | message (entry : MessageEntry)
  | enum (declaration : Enum)
  /-- A field, a oneof or an enum value, which no reference can mean. -/
  | member
  deriving DecidableEq, Repr

namespace Meaning

/-- Whether names may follow the name and a dot. -/
def isScope : Meaning → Bool
  | .member => false
  | _ => true

/-- Whether the name is that of a type. -/
def isType : Meaning → Bool
  | .message _ => true
  | .enum _ => true
  | _ => false

end Meaning

/-- A full name as one file defines it. -/
structure Definition where
  name : String
  meaning : Meaning
  file : String
  /-- The names of the files that references may lead to. -/
  visible : List String
  dialect : Dialect
  deriving Repr

/-- A name inside a scope.  Dots before the scope are dropped. -/
def scopedName (scope name : String) : String :=
  let scope := String.ofList (scope.toList.dropWhile (· == '.'))
  if scope = "" then name else scope ++ "." ++ name

/-- The names that an enum in a scope defines. -/
def Descriptor.Enum.meanings (scope : String) (enum : Enum) : List (String × Meaning) :=
  (scopedName scope (enum.name.getD ""), .enum enum) ::
    enum.values.map fun value => (scopedName scope (value.name.getD ""), .member)

mutual

/-- The names that a message in a scope defines. -/
def messageMeanings (package : String) (dialect : Dialect) (scope : String) :
    Message → List (String × Meaning)
  | ⟨name, fields, messages, enums, options, oneofs⟩ =>
      let fullName := scopedName scope (name.getD "")
      [(fullName, .message ⟨name, fields, options, oneofs, package, dialect⟩)] ++
        fields.map (fun field => (scopedName fullName (field.name.getD ""), .member)) ++
        oneofs.map (fun oneof => (scopedName fullName (oneof.name.getD ""), .member)) ++
        messagesMeanings package dialect fullName messages ++
        enums.flatMap (·.meanings fullName)

/-- The names that messages in a scope define. -/
def messagesMeanings (package : String) (dialect : Dialect) (scope : String) :
    List Message → List (String × Meaning)
  | [] => []
  | message :: rest =>
      messageMeanings package dialect scope message ++ messagesMeanings package dialect scope rest

end

/-- The names of a package and of the packages around it. -/
def packageNames (package : String) : List String :=
  if package = "" then []
  else
    let parts := package.splitOn "."
    (List.range parts.length).map fun count => ".".intercalate (parts.take (count + 1))

/-- All that a file defines. -/
def Descriptor.File.definitions (file : File) : List Definition :=
  let package := file.package.getD ""
  let dialect := Dialect.ofText file.dialect
  let name := file.name.getD ""
  let meanings :=
    (packageNames package).map (fun name => (name, .package)) ++
      messagesMeanings package dialect package file.messages ++
      file.enums.flatMap (·.meanings package)
  meanings.map fun (fullName, meaning) => ⟨fullName, meaning, name, name :: file.imports, dialect⟩

/-! ## Tables -/

/-- Definitions by full name. -/
abbrev NameTable := Std.ExtTreeMap String Definition

namespace NameTable

/-- Add a definition, unless its name is taken. -/
def define? (names : NameTable) (definition : Definition) : Option NameTable :=
  match names[definition.name]? with
  | none => some (names.insert definition.name definition)
  | some earlier =>
      if earlier.meaning = .package ∧ definition.meaning = .package then some names else none

/-- The table of definitions, if no name is taken twice. -/
def ofDefinitions? (definitions : List Definition) : Option NameTable :=
  definitions.foldlM define? ∅

/-- The type of a full name that is defined in one of the visible files. -/
def type? (names : NameTable) (visible : List String) (name : String) : Option Definition :=
  match names[name]? with
  | some definition =>
      if definition.meaning.isType ∧ definition.file ∈ visible then some definition else none
  | none => none

/-- The scopes around a name and the name itself, from the inside outwards. -/
def scopes (name : String) : List String :=
  let parts := name.splitOn "."
  (List.range (parts.length + 1)).reverse.map fun count => ".".intercalate (parts.take count)

/-- A relative name below a scope. -/
def below (scope name : String) : String :=
  if scope = "" then name else scope ++ "." ++ name

/-- The type that a reference inside a scope means. -/
def resolve? (names : NameTable) (visible : List String) (scope reference : String) :
    Option Definition :=
  match reference.toList with
  | '.' :: rest => names.type? visible (String.ofList rest)
  | _ =>
      match reference.splitOn "." with
      | first :: _ :: _ => do
          let scope ← (scopes scope).find? fun scope =>
            (names[below scope first]?).any (·.meaning.isScope)
          names.type? visible (below scope reference)
      | _ => (scopes scope).findSome? fun scope => names.type? visible (below scope reference)

/-- The kind of a field inside a scope.  A reference decides alone, only that messages are groups if the
field says so.  Without a reference the type code decides, and codes without a meaning stand for the first
one that has. -/
def kind? (names : NameTable) (visible : List String) (scope : String) (field : Field) :
    Option Kind :=
  let type := field.type.bind FieldType.ofCode?
  let reference := field.typeName.getD ""
  if reference = "" then
    match type with
    | none => some (.scalar .double)
    | some (.scalar kind) => some (.scalar kind)
    | some _ => none
  else do
    let definition ← names.resolve? visible scope reference
    match definition.meaning with
    | .message entry =>
        let message := ⟨definition.name, entry⟩
        return if type = some .group then .group message else .message message
    | .enum declaration => return .enum ⟨definition.name, declaration⟩
    | _ => none

end NameTable

end CustomResource
