import CustomResource.Descriptor.Basic
import CustomResource.Descriptor.Wire

/-!
# Reading descriptors

Descriptor sets from their bytes.  Fields are applied in the order they come: a scalar replaces what was
there, a repeated field grows, and an embedded options message is read on top of the one before it.  A value of
the wrong shape fails the whole set.

All other numbers are skipped unread.  These are the numbers that no descriptor has, and also those of the parts
that generation does not use: services, extensions, reserved names and ranges, source information, and all options
but the mark of map entries.  A value of such a part is not looked into, so it fails the set only if the field
itself cannot be told from those after it.

Messages may be nested a hundred levels deep, the set itself not counted.  At the last level no field may be
skipped either.
-/

namespace CustomResource.Descriptor

open Wire

/-- Apply the fields of a payload in order. -/
def applyFields {α : Type} (levels : Nat) (apply : α → Nat × Value → Option α) (initial : α)
    (bytes : Bytes) : Option α := do
  (← readFields levels bytes).foldlM apply initial

/-- Skip a field whose number no descriptor has or whose part is left out, which needs one more level. -/
def skipField {α : Type} (levels : Nat) (kept : α) : Option α :=
  if levels = 0 then none else some kept

/-- Read an embedded message one level down, if there is one. -/
def embedded {α : Type} (levels : Nat) (read : Nat → Bytes → Option α) (value : Value) : Option α :=
  match levels with
  | 0 => none
  | below + 1 => value.payload? >>= read below

/-- Read an enum value. -/
def EnumValue.decode (levels : Nat) : Bytes → Option EnumValue :=
  applyFields levels (fun desc (number, value) =>
    match number with
    | 1 => do return { desc with name := some (← value.text?) }
    | 2 => do return { desc with number := some (← value.int32?) }
    | _ => skipField levels desc) {}

/-- Read an enum type. -/
def Enum.decode (levels : Nat) : Bytes → Option Enum :=
  applyFields levels (fun desc (number, value) =>
    match number with
    | 1 => do return { desc with name := some (← value.text?) }
    | 2 => do return { desc with values := desc.values ++ [← embedded levels EnumValue.decode value] }
    | _ => skipField levels desc) {}

/-- Read a field. -/
def Field.decode (levels : Nat) : Bytes → Option Field :=
  applyFields levels (fun desc (number, value) =>
    match number with
    | 1 => do return { desc with name := some (← value.text?) }
    | 3 => do return { desc with number := some (← value.int32?) }
    | 4 => do return { desc with label := some (← value.int32?) }
    | 5 => do return { desc with type := some (← value.int32?) }
    | 6 => do return { desc with typeName := some (← value.text?) }
    | 7 => do return { desc with defaultValue := some (← value.text?) }
    | 9 => do return { desc with oneofIndex := some (← value.int32?) }
    | 10 => do return { desc with jsonName := some (← value.text?) }
    | 17 => do return { desc with proto3Optional := some (← value.bool?) }
    | _ => skipField levels desc) {}

/-- Read a oneof. -/
def Oneof.decode (levels : Nat) : Bytes → Option Oneof :=
  applyFields levels (fun desc (number, value) =>
    match number with
    | 1 => do return { desc with name := some (← value.text?) }
    | _ => skipField levels desc) {}

/-- Read message options on top of others. -/
def MessageOptions.decode (initial : MessageOptions) (levels : Nat) : Bytes → Option MessageOptions :=
  applyFields levels (fun desc (number, value) =>
    match number with
    | 7 => do return { desc with mapEntry := some (← value.bool?) }
    | _ => skipField levels desc) initial

/-- Read a message. -/
def Message.decode : Nat → Bytes → Option Message
  | 0 => applyFields 0 (fun desc (number, value) =>
      match number with
      | 1 => do return { desc with name := some (← value.text?) }
      | _ => none) {}
  | below + 1 => applyFields (below + 1) (fun desc (number, value) =>
      match number with
      | 1 => do return { desc with name := some (← value.text?) }
      | 2 => do return { desc with fields := desc.fields ++ [← value.payload? >>= Field.decode below] }
      | 3 => do
          return { desc with messages := desc.messages ++ [← value.payload? >>= Message.decode below] }
      | 4 => do return { desc with enums := desc.enums ++ [← value.payload? >>= Enum.decode below] }
      | 7 => do
          let initial := desc.options.getD {}
          return { desc with options := some (← value.payload? >>= MessageOptions.decode initial below) }
      | 8 => do return { desc with oneofs := desc.oneofs ++ [← value.payload? >>= Oneof.decode below] }
      | _ => some desc) {}

/-- Read a file. -/
def File.decode (levels : Nat) : Bytes → Option File :=
  applyFields levels (fun file (number, value) =>
    match number with
    | 1 => do return { file with name := some (← value.text?) }
    | 2 => do return { file with package := some (← value.text?) }
    | 3 => do return { file with imports := file.imports ++ [← value.text?] }
    | 4 => do return { file with messages := file.messages ++ [← embedded levels Message.decode value] }
    | 5 => do return { file with enums := file.enums ++ [← embedded levels Enum.decode value] }
    | 12 => do return { file with dialect := some (← value.text?) }
    | _ => skipField levels file) {}

/-- The number of levels a set may be nested. -/
def maxLevels : Nat :=
  100

/-- Read a set of files. -/
def decodeFiles (bytes : Bytes) : Option FileSet :=
  applyFields maxLevels (fun files (number, value) =>
    match number with
    | 1 => do return files ++ [← embedded maxLevels File.decode value]
    | _ => skipField maxLevels files) [] bytes

end CustomResource.Descriptor
