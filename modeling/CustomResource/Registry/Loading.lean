import CustomResource.Descriptor.Decoding
import CustomResource.Error
import CustomResource.Registry.Basic

/-!
# Loading descriptor sets

A registry takes in the files of a set that was read from bytes.  A set is read as a whole before any of its
files is added, so a set that cannot be read leaves the registry as it is.
-/

namespace CustomResource

open Descriptor Wire

/-- Read the files of a descriptor set from its bytes. -/
def readFiles (bytes : Bytes) : Except LoadError FileSet :=
  match decodeFiles bytes with
  | some files => .ok files
  | none => .error .undecodable

namespace Registry

/-- Add the files of a set, if it could be read. -/
def addLoaded (registry : Registry) : Except LoadError FileSet → Registry × Option LoadError
  | .ok files => (registry.addFiles files, none)
  | .error cause => (registry, some cause)

/-- Read a descriptor set from its bytes and add its files. -/
def decode (registry : Registry) (bytes : Bytes) : Registry × Option LoadError :=
  registry.addLoaded (readFiles bytes)

end Registry

end CustomResource
