import CustomResource.Command.Run
import CustomResource.Proofs.Descriptor.RoundTrip

/-!
# Registries are filled from bytes as from descriptors

A registry that reads a set of files from its standard encoding takes in exactly the files of the set, so all
that is generated from it is generated as from the descriptors themselves.  What cannot be read leaves it as
it was, also behind files that can be read: nothing is added before the last byte was understood.
-/

namespace CustomResource.Registry

open Command Descriptor Wire

theorem decode_of_decodeFiles {bytes : Bytes} {files : FileSet} (h : decodeFiles bytes = some files)
    (registry : Registry) : registry.decode bytes = (registry.addFiles files, none) := by
  rw [decode, readFiles, h, addLoaded]

/-- Bytes that are no set leave the registry as it is. -/
theorem decode_of_decodeFiles_eq_none {bytes : Bytes} (h : decodeFiles bytes = none) (registry : Registry) :
    registry.decode bytes = (registry, some .undecodable) := by
  rw [decode, readFiles, h, addLoaded]

/-- The standard encoding of a set of files is read back as the set, unset fields unset and set ones set, and
fills a registry as the set does, from memory or from a file.  The set must not be nested deeper than readers
go; its bytes are counted in 64 bits.  What cannot be read, alone or behind the set, changes nothing. -/
theorem decode_encodeFiles (registry : Registry) (files : FileSet) (hdepth : files.depth ≤ maxLevels)
    (hlength : (encodeFiles files).length < 2 ^ 64) :
    readFiles (encodeFiles files) = .ok files ∧
      registry.decode (encodeFiles files) = (registry.addFiles files, none) ∧
      (∀ (read : ReadFile) (path : String), read path = .ok (encodeFiles files) →
        registry.addLoaded (loadFile read path) = (registry.addFiles files, none)) ∧
      (∀ (config : Config) (name : String),
        generate config (registry.decode (encodeFiles files)).1.types name =
          generate config (registry.addFiles files).types name) ∧
      ∀ fault : Bytes, decodeFiles fault = none →
        registry.decode fault = (registry, some .undecodable) ∧
          registry.decode (encodeFiles files ++ fault) = (registry, some .undecodable) := by
  have hread : decodeFiles (encodeFiles files) = some files := by
    rw [decodeFiles_encodeFiles hlength, if_pos hdepth]
  have hdecode := decode_of_decodeFiles hread registry
  refine ⟨by rw [readFiles, hread], hdecode, ?_, ?_, ?_⟩
  · intro read path hpath
    rw [loadFile, hpath]
    exact hdecode
  · intro config name
    rw [hdecode]
  · intro fault hfault
    refine ⟨decode_of_decodeFiles_eq_none hfault registry, decode_of_decodeFiles_eq_none ?_ registry⟩
    rw [decodeFiles_append hdepth hlength, hfault, Option.map_none]

/-- Messages in each other, an entry of a map, negative numbers, and of each kind of scalar one that is unset
and one that is set to its default. -/
def storedFile : File where
  name := some "store.proto"
  package := some "store"
  imports := ["", "base.proto"]
  messages := [{
    name := some "Box"
    fields := [
      { name := some "items", number := some 1, label := some 3, type := some 11,
        typeName := some ".store.Box.ItemsEntry" },
      { name := some "", number := some (-1), label := some 0, jsonName := some "",
        oneofIndex := some 0, proto3Optional := some false }]
    messages := [{
      name := some "ItemsEntry"
      fields := [{ name := some "key", number := some 1 }, { defaultValue := some "", type := some 17 }]
      enums := [{ name := some "Level", values := [{ name := some "LOW", number := some (-2147483648) }] }]
      options := some { mapEntry := some true } }]
    enums := [{ values := [{}, { number := some 0 }] }]
    options := some {}
    oneofs := [{}] }]
  dialect := some ""

/-- The file comes back as it was, and a byte of a field behind it that has no end spoils all. -/
theorem decode_storedFile :
    (FileSet.depth [storedFile] ≤ maxLevels ∧ (encodeFiles [storedFile]).length < 2 ^ 64) ∧
      (ofFiles []).decode (encodeFiles [storedFile]) = (ofFiles [storedFile], none) ∧
      (ofFiles []).decode (encodeFiles [storedFile] ++ [10]) = (ofFiles [], some .undecodable) := by
  have hdepth : FileSet.depth [storedFile] ≤ maxLevels := by decide
  have hlength : (encodeFiles [storedFile]).length < 2 ^ 64 := by decide +kernel
  have hfault : decodeFiles [10] = none := by decide +kernel
  obtain ⟨-, hread, -, -, hunread⟩ := decode_encodeFiles (ofFiles []) [storedFile] hdepth hlength
  exact ⟨⟨hdepth, hlength⟩, hread, (hunread [10] hfault).2⟩

end CustomResource.Registry
