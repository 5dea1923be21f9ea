import CustomResource.Default.Value
import CustomResource.Registry.Names

/-!
# Linking files

Default values are shown for descriptors that hold together as a whole.  `link?` checks that: every import
is among the files, no full name is taken twice, the fields of a message have valid numbers, keys that
differ, groups that exist and kinds that are known, enums have values with distinct numbers and begin with
zero where the language level asks for it, and stated defaults fit their kinds.
-/

namespace CustomResource

open Descriptor

/-! ## Keys -/

/-- A name without underscores, each character after one in upper case.  `raised` tells that the first
character comes after one. -/
def withoutUnderscores : (raised : Bool) → List Char → List Char
  | _, [] => []
  | raised, char :: rest =>
      if char = '_' then withoutUnderscores true rest
      else (if raised then char.toUpper else char) :: withoutUnderscores false rest

/-- The key of a field in documents: the stated one, else made from the name. -/
def Descriptor.Field.key (field : Field) : String :=
  field.jsonName.getD (String.ofList (withoutUnderscores false (field.name.getD "").toList))

/-- The name of a field in lower case and without underscores. -/
def Descriptor.Field.flatName (field : Field) : List Char :=
  ((field.name.getD "").toList.filter (· != '_')).map Char.toLower

/-! ## Messages -/

/-- Whether a number may be that of a field: positive, of 29 bits and in no reserved range. -/
def isFieldNumber (number : Int32) : Bool :=
  let number := number.toInt
  0 < number && number < 536870912 && !(19000 ≤ number && number < 20000)

/-- Whether the index of a field's group, if there is one, is that of a oneof. -/
def MessageEntry.hasGroupOf (entry : MessageEntry) (field : Field) : Bool :=
  match field.oneofIndex with
  | some index => 0 ≤ index.toInt && index.toInt < entry.oneofs.length
  | none => true

/-- Whether a field has a kind, and a default that fits it if one is stated. -/
def NameTable.linksField (names : NameTable) (visible : List String) (scope : String) (field : Field) :
    Bool :=
  match names.kind? visible scope field with
  | none => false
  | some kind =>
      match field.defaultValue with
      | some text => (kind.stated? text).isSome
      | none => true

/-- Whether the fields of a message have valid and distinct numbers and distinct keys, at the latest level
also distinct flat names, and hold together with other declarations. -/
def NameTable.linksMessage (names : NameTable) (definition : Definition) (entry : MessageEntry) : Bool :=
  let numbers := entry.fields.map (·.number.getD 0)
  numbers.all isFieldNumber && numbers.Nodup &&
    (entry.fields.map (·.key)).Nodup &&
    (definition.dialect != .proto3 || (entry.fields.map (·.flatName)).Nodup) &&
    entry.fields.all entry.hasGroupOf &&
    entry.fields.all (names.linksField definition.visible definition.name)

/-! ## Enums -/

/-- Whether an enum has values, their numbers distinct and the first zero where the language level asks for
it. -/
def linksEnum (dialect : Dialect) (enum : Enum) : Bool :=
  let numbers := enum.values.map (·.number.getD 0)
  numbers.Nodup &&
    match numbers with
    | [] => false
    | first :: _ => dialect != .proto3 || first == 0

/-! ## Files -/

/-- Whether a definition holds together with the others. -/
def NameTable.links (names : NameTable) (definition : Definition) : Bool :=
  match definition.meaning with
  | .message entry => names.linksMessage definition entry
  | .enum enum => linksEnum definition.dialect enum
  | _ => true

/-- Whether a language level can be linked.  Editions cannot. -/
def Descriptor.File.hasLinkedDialect (file : File) : Bool :=
  match Dialect.named? file.dialect with
  | some .proto2 => true
  | some .proto3 => true
  | _ => false

namespace Descriptor.FileSet

/-- Whether the language level of a file is known and its imports are among the files. -/
def linksHead (files : FileSet) (file : File) : Bool :=
  file.hasLinkedDialect && file.imports.all fun name => files.any (·.name.getD "" == name)

/-- The names of files that hold together. -/
def link? (files : FileSet) : Option NameTable := do
  let definitions := files.flatMap (·.definitions)
  let names ← NameTable.ofDefinitions? definitions
  if files.all files.linksHead && definitions.all names.links then some names else none

end Descriptor.FileSet

end CustomResource
