import CustomResource.Declaration.References
import CustomResource.Envelope
import CustomResource.Proofs.Naming
import CustomResource.Proofs.Source.Identifier

/-!
# Identifiers of declarations

The names that are generated for types and fields hold no separators.  Looking at one of them as an identifier
therefore changes nothing: either the name is refused, or it is declared as it is.
-/

namespace CustomResource

theorem isSeparator_of_isIdentifierPart {c : Char} (h : Naming.isIdentifierPart c = true) :
    Source.isSeparator c = false := by
  rw [← Bool.not_eq_true]
  intro hseparator
  have hbreak := Source.isBreak_of_isSeparator hseparator
  simp only [Naming.isIdentifierPart, hbreak, Bool.not_true, Bool.false_or, Bool.or_eq_true,
    decide_eq_true_eq] at h
  rcases h with rfl | rfl
  · exact absurd hseparator (by decide)
  · exact absurd hseparator (by decide)

/-- A generated name is declared as it is. -/
theorem eq_of_declaredIdentifier {name identifier : String} (hname : Naming.IsIdentifierText name)
    (h : declaredIdentifier name = .ok identifier) : identifier = name :=
  Source.eq_of_identifier (mapError_eq_ok_iff.1 h) fun c hc =>
    isSeparator_of_isIdentifierPart (hname c hc)

/-- The identifier of the root is that of a spec. -/
theorem specName_ofRoot (config : Config) (root : MessageType) :
    (ResourceInfo.ofRoot config root).specName = Naming.upperCamel root.name ++ "Spec" := by
  simp only [ResourceInfo.specName, ResourceInfo.ofRoot]

/-- The names of declared types are generated ones. -/
theorem isIdentifierText_identifierOf (config : Config) (root : MessageType) (type : DeclaredType) :
    Naming.IsIdentifierText ((ResourceInfo.ofRoot config root).identifierOf type) := by
  cases type with
  | message message =>
      rw [ResourceInfo.identifierOf, ResourceInfo.messageName]
      split
      · rw [specName_ofRoot]
        exact (Naming.isIdentifierText_upperCamel root.name).append (by decide)
      · exact Naming.isIdentifierText_upperCamel message.name
  | enum enum =>
      rw [ResourceInfo.identifierOf]
      exact Naming.isIdentifierText_enumType enum.name

theorem beginsLower_envelopeNames (config : Config) (root : MessageType) :
    ∀ name ∈ (ResourceInfo.ofRoot config root).envelopeNames, Naming.beginsLower name = false := by
  have hroot := Naming.beginsLower_upperCamel root.name
  intro name hname
  simp only [ResourceInfo.envelopeNames, ResourceInfo.listName, ResourceInfo.statusName,
    ResourceInfo.conditionName, ResourceInfo.ofRoot, List.mem_cons, List.not_mem_nil, or_false] at hname
  rcases hname with rfl | rfl | rfl | rfl
  · exact hroot
  · exact Naming.beginsLower_append hroot (by decide)
  · exact Naming.beginsLower_append hroot (by decide)
  · exact Naming.beginsLower_append hroot (by decide)

/-- No declared type has a name that begins as those of scalar types do. -/
theorem beginsLower_identifierOf (config : Config) (root : MessageType) (type : DeclaredType) :
    Naming.beginsLower ((ResourceInfo.ofRoot config root).identifierOf type) = false := by
  cases type with
  | message message =>
      rw [ResourceInfo.identifierOf, ResourceInfo.messageName]
      split
      · rw [specName_ofRoot]
        exact Naming.beginsLower_append (Naming.beginsLower_upperCamel root.name) (by decide)
      · exact Naming.beginsLower_upperCamel message.name
  | enum enum => exact Naming.beginsLower_enumType enum.name

end CustomResource
