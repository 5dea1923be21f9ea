import CustomResource.Proofs.Registry.Table
import CustomResource.Registry.Loading
import Mathlib.Data.List.Nodup

/-!
# Registries as replays

A registry holds the names of its files and the types they declare besides the files.  However it was filled,
both are what adding the kept files again in order would make of them, see `Registry.Replayed`.  So the files
are all there is to know of a registry (`Replayed.eq_of_files_eq`), and those that are kept of a sequence are
the first of each name (`files_ofFiles`).
-/

namespace CustomResource

open Descriptor Wire

/-! ## The files that are kept -/

/-- The first file of each name. -/
def keptFiles : FileSet → FileSet
  | [] => []
  | file :: rest => file :: (keptFiles rest).filter fun other => other.fileName ≠ file.fileName

theorem keptFiles_sublist : ∀ files : FileSet, (keptFiles files).Sublist files
  | [] => List.Sublist.refl []
  | file :: rest => (List.filter_sublist.trans (keptFiles_sublist rest)).cons_cons file

/-- A file stands somewhere in a list without a file of its name before it. -/
def FirstOfName (files : FileSet) (file : File) : Prop :=
  ∃ before after, files = before ++ file :: after ∧ ∀ other ∈ before, other.fileName ≠ file.fileName

theorem mem_keptFiles_iff {file : File} {files : FileSet} :
    file ∈ keptFiles files ↔ FirstOfName files file := by
  unfold FirstOfName
  induction files with
  | nil => simp [keptFiles]
  | cons first rest ih =>
      rw [keptFiles, List.mem_cons, List.mem_filter, ih, decide_eq_true_iff]
      constructor
      · rintro (rfl | ⟨⟨before, after, rfl, hbefore⟩, hfirst⟩)
        · exact ⟨[], rest, rfl, by simp⟩
        · refine ⟨first :: before, after, rfl, ?_⟩
          intro other hother
          rcases List.mem_cons.1 hother with rfl | hother
          · exact hfirst.symm
          · exact hbefore other hother
      · rintro ⟨before, after, hfiles, hbefore⟩
        cases before with
        | nil =>
            rw [List.nil_append, List.cons.injEq] at hfiles
            exact Or.inl hfiles.1.symm
        | cons head before =>
            rw [List.cons_append, List.cons.injEq] at hfiles
            obtain ⟨rfl, rfl⟩ := hfiles
            refine Or.inr ⟨⟨before, after, rfl, ?_⟩, (hbefore first List.mem_cons_self).symm⟩
            exact fun other hother => hbefore other (List.mem_cons_of_mem _ hother)

/-- Files of different names are all kept. -/
theorem keptFiles_eq_self {files : FileSet} (h : (files.map File.fileName).Nodup) :
    keptFiles files = files := by
  induction files with
  | nil => rfl
  | cons file rest ih =>
      rw [List.map_cons, List.nodup_cons] at h
      rw [keptFiles, ih h.2, List.filter_eq_self.2]
      intro other hother
      rw [decide_eq_true_iff]
      exact fun hsame => h.1 (hsame ▸ List.mem_map_of_mem hother)

namespace Registry

/-! ## Adding files -/

theorem addFile_of_hasFile {registry : Registry} {file : File}
    (h : registry.hasFile file.fileName = true) : registry.addFile file = registry :=
  if_pos h

theorem addFile_of_not_hasFile {registry : Registry} {file : File}
    (h : registry.hasFile file.fileName = false) :
    registry.addFile file =
      ⟨registry.fileNames.insert file.fileName, registry.files ++ [file],
        registry.types.add (.ofFile file)⟩ := by
  rw [addFile, if_neg (by rw [h]; exact Bool.false_ne_true)]

theorem hasFile_addFile (registry : Registry) (file : File) (name : String) :
    (registry.addFile file).hasFile name = (registry.hasFile name || file.fileName == name) := by
  cases h : registry.hasFile file.fileName with
  | true =>
      rw [addFile_of_hasFile h]
      by_cases hname : file.fileName = name
      · simp [← hname, h]
      · simp [hname]
  | false =>
      rw [addFile_of_not_hasFile h, hasFile, hasFile, Std.ExtTreeSet.contains_insert, Bool.or_comm]
      congr 1
      rw [Bool.eq_iff_iff, beq_iff_eq, beq_iff_eq, Std.LawfulEqCmp.compare_eq_iff_eq]

/-- Files whose names are all there change nothing. -/
theorem addFiles_of_hasFile {registry : Registry} {files : FileSet}
    (h : ∀ file ∈ files, registry.hasFile file.fileName = true) : registry.addFiles files = registry := by
  induction files with
  | nil => rfl
  | cons file rest ih =>
      rw [addFiles, List.foldl_cons, addFile_of_hasFile (h file List.mem_cons_self)]
      exact ih fun other hother => h other (List.mem_cons_of_mem _ hother)

/-- Of the added files those are new that are the first of a name that was not there. -/
theorem files_addFiles (files : FileSet) (registry : Registry) :
    (registry.addFiles files).files =
      registry.files ++ (keptFiles files).filter fun file => !registry.hasFile file.fileName := by
  induction files generalizing registry with
  | nil => simp [addFiles, keptFiles]
  | cons file rest ih =>
      have hstep : (registry.addFiles (file :: rest)).files =
          ((registry.addFile file).addFiles rest).files := rfl
      rw [hstep, ih, keptFiles]
      cases h : registry.hasFile file.fileName with
      | true =>
          -- No file of this name is new, so nothing is lost by keeping none of them.
          rw [addFile_of_hasFile h, List.filter_cons_of_neg (by simp [h]), List.filter_filter]
          congr 2
          funext other
          by_cases hsame : other.fileName = file.fileName
          · simp [hsame, h]
          · simp [hsame]
      | false =>
          simp only [hasFile_addFile]
          rw [addFile_of_not_hasFile h, List.filter_cons_of_pos (by simp [h]), List.filter_filter,
            List.append_assoc, List.singleton_append]
          congr 3
          funext other
          by_cases hsame : other.fileName = file.fileName
          · simp [hsame]
          · simp [hsame, Ne.symm hsame]

@[simp] theorem hasFile_empty (name : String) : ({} : Registry).hasFile name = false :=
  Std.ExtTreeSet.contains_empty

/-- The registry of a sequence of files keeps the first of each name. -/
theorem files_ofFiles (files : FileSet) : (ofFiles files).files = keptFiles files := by
  rw [ofFiles, files_addFiles]
  simp

/-! ## Replays -/

/-- The registry is what its files make again: their names differ, and the names and the types that it holds
are theirs. -/
structure Replayed (registry : Registry) : Prop where
  nodup : (registry.files.map File.fileName).Nodup
  mem_fileNames_iff : ∀ name, name ∈ registry.fileNames ↔ name ∈ registry.files.map File.fileName
  types_eq : registry.types = TypeTable.add {} (.ofFiles registry.files)

theorem replayed_empty : ({} : Registry).Replayed where
  nodup := List.nodup_nil
  mem_fileNames_iff := by simp
  types_eq := rfl

namespace Replayed

variable {registry other : Registry}

theorem hasFile_iff (h : registry.Replayed) {name : String} :
    registry.hasFile name = true ↔ name ∈ registry.files.map File.fileName := by
  rw [hasFile, Std.ExtTreeSet.contains_iff_mem, h.mem_fileNames_iff]

theorem addFile (h : registry.Replayed) (file : File) : (registry.addFile file).Replayed := by
  cases hfile : registry.hasFile file.fileName with
  | true => rwa [addFile_of_hasFile hfile]
  | false =>
      have hnew : file.fileName ∉ registry.files.map File.fileName := by
        rw [← h.hasFile_iff, hfile]
        exact Bool.false_ne_true
      rw [addFile_of_not_hasFile hfile]
      refine ⟨?_, ?_, ?_⟩
      · rw [List.map_append, List.map_singleton, List.nodup_append]
        refine ⟨h.nodup, List.nodup_singleton _, ?_⟩
        rintro name hname _ hlast rfl
        rw [List.mem_singleton.1 hlast] at hname
        exact hnew hname
      · intro name
        simp only [Std.ExtTreeSet.mem_insert, Std.LawfulEqCmp.compare_eq_iff_eq, h.mem_fileNames_iff,
          List.map_append, List.map_singleton, List.mem_append, List.mem_singleton]
        rw [or_comm, eq_comm]
      · rw [TypeTable.add_ofFiles_concat, ← h.types_eq]

theorem addFiles (h : registry.Replayed) (files : FileSet) : (registry.addFiles files).Replayed := by
  induction files generalizing registry with
  | nil => exact h
  | cons file rest ih => exact ih (h.addFile file)

/-- A set that cannot be read leaves the registry as it is, any other adds its files. -/
theorem decode (h : registry.Replayed) (bytes : Bytes) : (registry.decode bytes).1.Replayed := by
  rw [Registry.decode]
  cases readFiles bytes with
  | ok files => exact h.addFiles files
  | error cause => exact h

theorem ofFiles (files : FileSet) : (Registry.ofFiles files).Replayed :=
  replayed_empty.addFiles files

/-- The files of a registry tell its other parts. -/
theorem eq_of_files_eq (h : registry.Replayed) (hother : other.Replayed)
    (hfiles : registry.files = other.files) : registry = other := by
  have hnames : registry.fileNames = other.fileNames := by
    apply Std.ExtTreeSet.ext_mem
    intro name
    rw [h.mem_fileNames_iff, hother.mem_fileNames_iff, hfiles]
  have htypes : registry.types = other.types := by
    rw [h.types_eq, hother.types_eq, hfiles]
  cases registry
  cases other
  simp only at hnames hfiles htypes
  rw [hnames, hfiles, htypes]

end Replayed

/-! ## Sequences of additions -/

/-- A way to add files: one file, the files of a set, or those of a set that is read from its bytes. -/
inductive Addition where
  | file (file : File)
  | files (files : FileSet)
  | bytes (bytes : Bytes)

/-- The registry after an addition, which fails if the bytes are no set. -/
def take (registry : Registry) : Addition → Registry
  | .file file => registry.addFile file
  | .files files => registry.addFiles files
  | .bytes bytes => (registry.decode bytes).1

/-- The registry that additions make, beginning with none. -/
def ofAdditions (additions : List Addition) : Registry :=
  additions.foldl take {}

theorem Replayed.take {registry : Registry} (h : registry.Replayed) (addition : Addition) :
    (registry.take addition).Replayed := by
  cases addition with
  | file file => exact h.addFile file
  | files files => exact h.addFiles files
  | bytes bytes => exact h.decode bytes

theorem replayed_ofAdditions (additions : List Addition) : (ofAdditions additions).Replayed := by
  -- The first addition changes the registry that the rest begin with.
  have hrun : ∀ registry : Registry, registry.Replayed → (additions.foldl take registry).Replayed := by
    induction additions with
    | nil => exact fun _ h => h
    | cons addition rest ih => exact fun registry h => ih _ (h.take addition)
  exact hrun {} replayed_empty

/-- Fill a registry by any sequence of additions, some of which may fail.  Its files have different names, the
registry of its files is the registry itself in all its parts, and adding its files to it changes nothing. -/
theorem ofFiles_files_ofAdditions (additions : List Addition) :
    let registry := ofAdditions additions
    ofFiles registry.files = registry ∧ (registry.files.map File.fileName).Nodup ∧
      registry.addFiles registry.files = registry := by
  intro registry
  have h : registry.Replayed := replayed_ofAdditions additions
  have hfiles : (ofFiles registry.files).files = registry.files := by
    rw [files_ofFiles, keptFiles_eq_self h.nodup]
  refine ⟨(Replayed.ofFiles registry.files).eq_of_files_eq h hfiles, h.nodup, ?_⟩
  apply addFiles_of_hasFile
  intro file hfile
  rw [h.hasFile_iff]
  exact List.mem_map_of_mem hfile

end Registry

end CustomResource
