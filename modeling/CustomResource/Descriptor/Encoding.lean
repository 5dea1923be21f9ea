import CustomResource.Descriptor.Basic
import CustomResource.Descriptor.Wire

/-!
# Writing descriptors

The standard encoding of a descriptor set: fields in the order of their numbers, set values only, repeated
values one field each.
-/

namespace CustomResource.Descriptor

open Wire

/-- Write an enum value. -/
def EnumValue.encode (desc : EnumValue) : Bytes :=
  writeText 1 desc.name ++ writeInt32 2 desc.number

/-- Write an enum type. -/
def Enum.encode (desc : Enum) : Bytes :=
  writeText 1 desc.name ++ desc.values.flatMap fun value => writeDelimited 2 value.encode

/-- Write a field. -/
def Field.encode (desc : Field) : Bytes :=
  writeText 1 desc.name ++ writeInt32 3 desc.number ++ writeInt32 4 desc.label ++
    writeInt32 5 desc.type ++ writeText 6 desc.typeName ++ writeText 7 desc.defaultValue ++
    writeInt32 9 desc.oneofIndex ++ writeText 10 desc.jsonName ++ writeBool 17 desc.proto3Optional

/-- Write a oneof. -/
def Oneof.encode (desc : Oneof) : Bytes :=
  writeText 1 desc.name

/-- Write message options. -/
def MessageOptions.encode (desc : MessageOptions) : Bytes :=
  writeBool 7 desc.mapEntry

mutual

/-- Write a message. -/
def Message.encode : Message → Bytes
  | ⟨name, fields, messages, enums, options, oneofs⟩ =>
      writeText 1 name ++ fields.flatMap (fun field => writeDelimited 2 field.encode) ++
        encodeNested 3 messages ++ enums.flatMap (fun desc => writeDelimited 4 desc.encode) ++
        options.toList.flatMap (fun desc => writeDelimited 7 desc.encode) ++
        oneofs.flatMap fun oneof => writeDelimited 8 oneof.encode

/-- Write messages, one field each. -/
def encodeNested (number : Nat) : List Message → Bytes
  | [] => []
  | message :: rest => writeDelimited number message.encode ++ encodeNested number rest

end

/-- Write a file. -/
def File.encode (file : File) : Bytes :=
  writeText 1 file.name ++ writeText 2 file.package ++
    file.imports.flatMap (fun name => writeText 3 (some name)) ++ encodeNested 4 file.messages ++
    file.enums.flatMap (fun desc => writeDelimited 5 desc.encode) ++ writeText 12 file.dialect

/-- Write a set of files. -/
def encodeFiles (files : FileSet) : Bytes :=
  files.flatMap fun file => writeDelimited 1 file.encode

end CustomResource.Descriptor
