import CustomResource.Proofs.Registry.Listing
import CustomResource.Resource

/-!
# Packages in full names

A full name has the segments of its parts in a row, however many dots are in them or around them.  Two readers
of one package therefore agree on its segments: the registry, which splits the package at its dots and joins
the names of declarations to it, and a resource, which takes the package for a reference and imports the
root's own type from the module of its segments.
-/

namespace CustomResource

open Descriptor QualifiedName

/-! ## Packages of visits -/

/-- A visit of a file in a scope: its path begins with the scope. -/
def Visit.IsInside {α : Type} (file : File) (scope : List String) (visit : Visit α) : Prop :=
  visit.file = file ∧ ∃ names, visit.path = scope ++ names

mutual

theorem isInside_of_mem_visits {file : File} {scope : List String} :
    ∀ message : Message, ∀ visit ∈ message.visits file scope, visit.IsInside file scope
  | ⟨name, fields, messages, enums, options, oneofs⟩ => by
      rw [Message.visits, List.forall_mem_append, List.forall_mem_singleton]
      refine ⟨fun visit hvisit => ?_, rfl, [name.getD ""], rfl⟩
      obtain ⟨hfile, names, hpath⟩ := isInside_of_mem_visitsInside messages visit hvisit
      exact ⟨hfile, name.getD "" :: names, by rw [hpath, List.append_assoc, List.singleton_append]⟩

theorem isInside_of_mem_visitsInside {file : File} {scope : List String} :
    ∀ messages : List Message, ∀ visit ∈ visitsInside file scope messages, visit.IsInside file scope
  | [] => by simp [visitsInside]
  | message :: rest => by
      rw [visitsInside, List.forall_mem_append]
      exact ⟨isInside_of_mem_visits message, isInside_of_mem_visitsInside rest⟩

end

namespace Descriptor.File

variable {file : File}

theorem isInside_of_mem_messageVisits {visit : Visit Message} (h : visit ∈ file.messageVisits) :
    visit.IsInside file file.scope :=
  isInside_of_mem_visitsInside file.messages visit h

theorem isInside_of_mem_enumVisits {visit : Visit Enum} (h : visit ∈ file.enumVisits) :
    visit.IsInside file file.scope := by
  rcases List.mem_append.1 h with hinside | htop
  · obtain ⟨message, hmessage, hvisit⟩ := List.mem_flatMap.1 hinside
    obtain ⟨hfile, names, hnames⟩ := isInside_of_mem_messageVisits hmessage
    obtain ⟨enum, -, rfl⟩ := List.mem_map.1 hvisit
    exact ⟨hfile, names ++ [enum.name.getD ""], by rw [hnames, List.append_assoc]⟩
  · obtain ⟨enum, -, rfl⟩ := List.mem_map.1 htop
    exact ⟨rfl, [enum.name.getD ""], rfl⟩

end Descriptor.File

/-! ## Packages of full names -/

/-- A segment is a path of its own. -/
theorem packagePath_of_isSegment {name : String} (h : IsSegment name) : packagePath name = [name] := by
  have hpath := packagePath_pathText (List.forall_mem_singleton.2 h)
  rwa [pathText, String.intercalate_singleton] at hpath

/-- A package that is split is not split any further. -/
theorem flatMap_packagePath_packagePath (package : String) :
    (packagePath package).flatMap packagePath = packagePath package := by
  have hsegment : ∀ name ∈ packagePath package, packagePath name = [name] :=
    fun name hname => packagePath_of_isSegment (isSegment_of_mem_packagePath hname)
  rw [List.flatMap_congr hsegment, List.flatMap_singleton']

theorem mem_names_ofFile_iff {file : File} {name : String} :
    name ∈ (Declarations.ofFile file).names ↔
      (∃ visit ∈ file.messageVisits, (joinAll visit.path).text = name) ∨
        ∃ visit ∈ file.enumVisits, (joinAll visit.path).text = name := by
  rw [Declarations.ofFile_eq_ofJoined, Declarations.names, Declarations.ofJoined, List.map_map, List.map_map,
    List.mem_append, List.mem_map, List.mem_map]
  rfl

/-- What a visit inside the package of a file declares has a name that begins with the package. -/
theorem Visit.IsInside.path_joinAll {α : Type} {file : File} {visit : Visit α}
    (h : visit.IsInside file file.scope) : ∃ names : List String, (joinAll visit.path).path =
      packagePath (file.package.getD "") ++ names.flatMap packagePath := by
  obtain ⟨-, names, hpath⟩ := h
  refine ⟨names, ?_⟩
  rw [QualifiedName.path_joinAll, hpath, List.flatMap_append, Descriptor.File.scope,
    flatMap_packagePath_packagePath]

/-- All types that a file declares have names that begin with the package of the file. -/
theorem exists_path_of_mem_names {file : File} {name : String} (h : name ∈ (Declarations.ofFile file).names) :
    ∃ names : List String, (QualifiedName.mk name).path =
      packagePath (file.package.getD "") ++ names.flatMap packagePath := by
  rcases mem_names_ofFile_iff.1 h with ⟨visit, hvisit, rfl⟩ | ⟨visit, hvisit, rfl⟩
  · exact (Descriptor.File.isInside_of_mem_messageVisits hvisit).path_joinAll
  · exact (Descriptor.File.isInside_of_mem_enumVisits hvisit).path_joinAll

/-- A registered message is declared by a file of the package that it is registered with. -/
theorem Registry.Replayed.exists_file {registry : Registry} (h : registry.Replayed) {message : MessageType}
    (hmessage : registry.types.Registered (.message message)) :
    ∃ file ∈ registry.files, file.package.getD "" = message.package ∧
      message.fullName ∈ (Declarations.ofFile file).names := by
  obtain ⟨visit, hvisit, hname, hentry⟩ := h.exists_visit hmessage
  obtain ⟨file, hfile, hvisit⟩ := List.mem_flatMap.1 hvisit
  have hown := (Descriptor.File.isInside_of_mem_messageVisits hvisit).1
  refine ⟨file, hfile, ?_, mem_names_ofFile_iff.2 (Or.inl ⟨visit, hvisit, hname⟩)⟩
  rw [MessageType.package, ← hentry, Visit.entry, hown]

/-- A name made from parts has the segments of all parts in a row and no dot at either end, and joining adds
the segments of what is joined.  A reference to the text of a name means the name, and dots around a reference
change neither what it means nor what is found.  So in a registry filled by any sequence of additions, the
module that a message's own type is imported from has the segments of its package, and the names of all types
that files of this package declare begin with the same ones. -/
theorem names_keep_segments_of_parts :
    (∀ (package : String) (scopes : List String) (name : String),
      let fullName := ofParts package scopes name
      fullName.path = packagePath package ++ scopes.flatMap packagePath ++ packagePath name ∧
        fullName.text.toList.head? ≠ some '.' ∧ fullName.text.toList.getLast? ≠ some '.') ∧
    (∀ (name : QualifiedName) (rest : String), (name.join rest).path = name.path ++ packagePath rest) ∧
    (∀ reference : String, ofReference (ofReference reference).text = ofReference reference ∧
      ∀ (before after : Nat) (types : TypeTable),
        let dotted := String.ofList (List.replicate before '.') ++ reference ++
          String.ofList (List.replicate after '.')
        ofReference dotted = ofReference reference ∧
          types.message? dotted = types.message? reference ∧ types.enum? dotted = types.enum? reference) ∧
    ∀ (additions : List Registry.Addition) (config : Config) (root : MessageType),
      let registry := Registry.ofAdditions additions
      registry.types.Registered (.message root) →
      (ResourceInfo.ofRoot config root).importPath =
          "::".intercalate (config.importRoot.getD "crate" :: (packagePath root.package).map Naming.snake) ∧
        (∃ file ∈ registry.files, file.package.getD "" = root.package ∧
          root.fullName ∈ (Declarations.ofFile file).names) ∧
        ∀ file ∈ registry.files, file.package.getD "" = root.package →
          ∀ name ∈ (Declarations.ofFile file).names, ∃ names : List String,
            (QualifiedName.mk name).path = packagePath root.package ++ names.flatMap packagePath := by
  refine ⟨fun package scopes name => ?_, path_join, fun reference => ?_, ?_⟩
  · exact ⟨path_ofParts package scopes name, trimDots_eq_self_iff.1 (trimDots_text_ofParts package scopes name)⟩
  · refine ⟨ofReference_text reference, fun before after types => ?_⟩
    have hdotted := ofReference_dots reference before after
    refine ⟨hdotted, ?_, ?_⟩
    · rw [TypeTable.message?, hdotted, TypeTable.message?]
    · rw [TypeTable.enum?, hdotted, TypeTable.enum?]
  · intro additions config root registry hroot
    refine ⟨?_, (Registry.replayed_ofAdditions additions).exists_file hroot, ?_⟩
    · rw [ResourceInfo.ofRoot, path_ofReference]
    · intro file _ hpackage name hname
      rw [← hpackage]
      exact exists_path_of_mem_names hname

/-- Superfluous dots in a package lead neither to other names nor to another module. -/
theorem dottedPackageFile_import_path :
    let registry := Registry.ofAdditions [.file dottedPackageFile]
    let inner : MessageType := ⟨"t.v1.Outer.Inner", ⟨some "Inner", [], none, [], ".t..v1", .proto2⟩⟩
    registry.types.Registered (.message inner) ∧
      (ResourceInfo.ofRoot {} inner).importPath = "crate::t::v1" ∧
      dottedPackageFile ∈ registry.files ∧ dottedPackageFile.package.getD "" = inner.package ∧
      "t.v1.Outer.Mode" ∈ (Declarations.ofFile dottedPackageFile).names ∧
      ∃ names : List String,
        (QualifiedName.mk "t.v1.Outer.Mode").path = ["t", "v1"] ++ names.flatMap packagePath := by
  intro registry inner
  have hregistered : registry.types.Registered (.message inner) := by
    have hentry : registry.types.messages["t.v1.Outer.Inner"]? = some inner.entry := by decide +kernel
    exact hentry
  have hfile : dottedPackageFile ∈ registry.files := List.mem_singleton_self _
  have hmode : "t.v1.Outer.Mode" ∈ (Declarations.ofFile dottedPackageFile).names := by decide +kernel
  have hpackage : packagePath inner.package = ["t", "v1"] := by decide +kernel
  obtain ⟨-, -, -, hregistry⟩ := names_keep_segments_of_parts
  obtain ⟨himport, -, hnames⟩ := hregistry [.file dottedPackageFile] {} inner hregistered
  obtain ⟨names, hpath⟩ := hnames dottedPackageFile hfile rfl "t.v1.Outer.Mode" hmode
  rw [hpackage] at himport hpath
  refine ⟨hregistered, ?_, hfile, rfl, hmode, names, hpath⟩
  rw [himport]
  decide +kernel

end CustomResource
