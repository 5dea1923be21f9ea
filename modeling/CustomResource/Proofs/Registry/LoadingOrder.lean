import CustomResource.Proofs.Generation.Plan
import CustomResource.Proofs.Registry.Replay
import CustomResource.Registry.Containment
import Mathlib.Data.List.Perm.Basic

/-!
# The order of loading

Descriptor sets overlap where they hold the same files.  As long as files overlap in no other way, it does not
matter in which order they are loaded and how often: each of them is kept once, and files that declare nothing
in common can be added in either order.  So the tables are equal, and with them all that a registry is asked.
-/

namespace CustomResource

open Descriptor

/-- Files that overlap only as the same file: there is one of each name, and those of different names declare
no message and no enum in common. -/
structure Coherent (files : FileSet) : Prop where
  eq_of_fileName_eq : ∀ file ∈ files, ∀ other ∈ files, file.fileName = other.fileName → file = other
  apart : ∀ file ∈ files, ∀ other ∈ files, file.fileName ≠ other.fileName →
    (Declarations.ofFile file).Apart (.ofFile other)

/-! ## The files that are kept -/

/-- For every file one of its name is kept. -/
theorem exists_mem_keptFiles {file : File} {files : FileSet} (h : file ∈ files) :
    ∃ kept ∈ keptFiles files, kept.fileName = file.fileName := by
  induction files with
  | nil => cases h
  | cons first rest ih =>
      by_cases hfirst : first.fileName = file.fileName
      · exact ⟨first, List.mem_cons_self, hfirst⟩
      · have hrest : file ∈ rest := by
          rcases List.mem_cons.1 h with rfl | hrest
          · exact absurd rfl hfirst
          · exact hrest
        obtain ⟨kept, hkept, hname⟩ := ih hrest
        refine ⟨kept, List.mem_cons_of_mem _ (List.mem_filter.2 ⟨hkept, ?_⟩), hname⟩
        rw [decide_eq_true_iff, hname]
        exact Ne.symm hfirst

theorem nodup_keptFiles (files : FileSet) : (keptFiles files).Nodup := by
  have hnodup := (Registry.Replayed.ofFiles files).nodup
  rw [Registry.files_ofFiles] at hnodup
  exact hnodup.of_map

namespace Coherent

variable {first second : FileSet}

/-- Of coherent files each is kept. -/
theorem mem_keptFiles_iff (h : Coherent first) {file : File} : file ∈ keptFiles first ↔ file ∈ first := by
  refine ⟨fun hkept => (keptFiles_sublist first).mem hkept, fun hfile => ?_⟩
  obtain ⟨kept, hkept, hname⟩ := exists_mem_keptFiles hfile
  have hsame := h.eq_of_fileName_eq kept ((keptFiles_sublist first).mem hkept) file hfile hname
  rwa [← hsame]

theorem congr (h : Coherent first) (hsame : ∀ file, file ∈ first ↔ file ∈ second) :
    Coherent second where
  eq_of_fileName_eq file hfile other hother :=
    h.eq_of_fileName_eq file ((hsame file).2 hfile) other ((hsame other).2 hother)
  apart file hfile other hother :=
    h.apart file ((hsame file).2 hfile) other ((hsame other).2 hother)

theorem keptFiles_perm (h : Coherent first) (hsame : ∀ file, file ∈ first ↔ file ∈ second) :
    (keptFiles first).Perm (keptFiles second) := by
  rw [List.perm_ext_iff_of_nodup (nodup_keptFiles first) (nodup_keptFiles second)]
  intro file
  rw [h.mem_keptFiles_iff, (h.congr hsame).mem_keptFiles_iff, hsame]

/-- Coherent files declare the same types whichever comes first. -/
theorem add_add_comm (h : Coherent first) {file other : File} (hfile : file ∈ first)
    (hother : other ∈ first) (types : TypeTable) :
    (types.add (.ofFile file)).add (.ofFile other) = (types.add (.ofFile other)).add (.ofFile file) := by
  by_cases hname : file.fileName = other.fileName
  · rw [h.eq_of_fileName_eq file hfile other hother hname]
  · exact TypeTable.add_add_comm (h.apart file hfile other hother hname) types

/-- The table of coherent files depends on which files there are only. -/
theorem types_ofFiles_eq (h : Coherent first) (hsame : ∀ file, file ∈ first ↔ file ∈ second) :
    (Registry.ofFiles first).types = (Registry.ofFiles second).types := by
  rw [(Registry.Replayed.ofFiles first).types_eq, (Registry.Replayed.ofFiles second).types_eq,
    Registry.files_ofFiles, Registry.files_ofFiles, ← TypeTable.foldl_add_ofFile,
    ← TypeTable.foldl_add_ofFile]
  exact (h.keptFiles_perm hsame).foldl_eq' (fun file hfile other hother types =>
    h.add_add_comm (h.mem_keptFiles_iff.1 hfile) (h.mem_keptFiles_iff.1 hother) types) {}

end Coherent

/-- Load the same coherent files in any two orders, each any number of times.  Both registries give the same
answers, and generation has the same result, be it a text or an error. -/
theorem answers_eq_of_same_files {first second : FileSet}
    (hsame : ∀ file, file ∈ first ↔ file ∈ second) (hcoherent : Coherent first) :
    let types := (Registry.ofFiles first).types
    let others := (Registry.ofFiles second).types
    (∀ name, types.message? name = others.message? name) ∧
      (∀ name, types.enum? name = others.enum? name) ∧
      types.listedMessages = others.listedMessages ∧
      (∀ name, types.messagesContaining? name = others.messagesContaining? name) ∧
      (∀ name, types.typeUrl? name = others.typeUrl? name) ∧
      ∀ config name, generate config types name = generate config others name := by
  intro types others
  have htypes : types = others := hcoherent.types_ofFiles_eq hsame
  rw [htypes]
  exact ⟨fun _ => rfl, fun _ => rfl, rfl, fun _ => rfl, fun _ => rfl, fun _ _ => rfl⟩

/-- A file that refers to another. -/
def referringFile : File where
  name := some "a.proto"
  package := some "a"
  messages := [
    { name := some "M"
      fields := [
        { name := some "item", number := some 1, type := some 11, typeName := some ".b.N" }] }]

/-- The file that is referred to. -/
def referredFile : File where
  name := some "b.proto"
  package := some "b"
  messages := [{ name := some "N" }]
  enums := [{ name := some "E", values := [{ name := some "X", number := some 0 }] }]

theorem coherent_referredFile_referringFile : Coherent [referredFile, referringFile] := by
  have hcases : ∀ file ∈ [referredFile, referringFile], file = referredFile ∨ file = referringFile := by
    simp
  constructor
  · intro file hfile other hother hname
    rcases hcases file hfile with rfl | rfl <;> rcases hcases other hother with rfl | rfl
    · rfl
    · exact absurd hname (by decide)
    · exact absurd hname (by decide)
    · rfl
  · intro file hfile other hother hname
    rcases hcases file hfile with rfl | rfl <;> rcases hcases other hother with rfl | rfl
    · exact absurd rfl hname
    · decide +kernel
    · decide +kernel
    · exact absurd rfl hname

/-- A file may be loaded before or after the one it refers to, and again. -/
theorem referringFile_loaded_again :
    let files := [referredFile, referringFile]
    let others := [referringFile, referredFile, referringFile]
    (∀ file, file ∈ files ↔ file ∈ others) ∧ Coherent files ∧
      (Registry.ofFiles others).types.messagesContaining? "b.N" = some ["a.M"] ∧
      ∃ text, generate {} (Registry.ofFiles files).types "a.M" = .ok text ∧
        generate {} (Registry.ofFiles others).types "a.M" = .ok text := by
  intro files others
  have hsame : ∀ file, file ∈ files ↔ file ∈ others := by
    intro file
    simp only [files, others, List.mem_cons, List.not_mem_nil, or_false]
    tauto
  obtain ⟨-, -, -, hcontaining, -, hgenerate⟩ :=
    answers_eq_of_same_files hsame coherent_referredFile_referringFile
  have hlisted : (Registry.ofFiles files).types.messagesContaining? "b.N" = some ["a.M"] := by
    decide +kernel
  have hplan : ∃ result, generatePlan {} (Registry.ofFiles files).types "a.M" = .ok result ∧
      result.1.moduleName = "a" :=
    exists_of_map_toOption (by decide +kernel)
  obtain ⟨result, hresult, -⟩ := hplan
  have htext := generate_eq_ok_iff.2 ⟨result.1, result.2, hresult, rfl⟩
  refine ⟨hsame, coherent_referredFile_referringFile, ?_, _, htext, ?_⟩
  · rw [← hcontaining, hlisted]
  · rw [← hgenerate, htext]

end CustomResource
