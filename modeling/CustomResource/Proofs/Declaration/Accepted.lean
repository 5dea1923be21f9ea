import CustomResource.Proofs.Declaration.Identifier
import CustomResource.Proofs.Path
import CustomResource.Proofs.Source.Word

/-!
# Accepted identifiers

A plain name makes identifiers that are accepted, whatever it is converted to.  In snake case all reserved words
but one are marked, and that one begins with a capital; in camel case this one is the only reserved word that
there can be, and it is marked, or a suffix follows that makes another word of it.
-/

namespace CustomResource

namespace Naming

open Text Source

/-! ## Fields and modules -/

theorem identifier_raw {word : String} (h : word ∈ rawWords) :
    identifier ("r#" ++ word) = .ok ("r#" ++ word) := by
  have hall : ∀ word ∈ rawWords, (identifier ("r#" ++ word)).toOption.map id = some ("r#" ++ word) := by
    decide +kernel
  obtain ⟨_, hidentifier, rfl⟩ := exists_of_map_toOption (hall word h)
  exact hidentifier

theorem identifier_suffixed {word : String} (h : word ∈ suffixedWords) :
    identifier (word ++ "_") = .ok (word ++ "_") := by
  have hall : ∀ word ∈ suffixedWords, (identifier (word ++ "_")).toOption.map id = some (word ++ "_") := by
    decide +kernel
  obtain ⟨_, hidentifier, rfl⟩ := exists_of_map_toOption (hall word h)
  exact hidentifier

/-- A name in snake case is accepted, with the mark of a reserved word where it is one. -/
theorem identifier_snake {name : String} (h : isPlain name.toList = true) :
    identifier (snake name) = .ok (snake name) := by
  obtain ⟨hplain, hlower⟩ := isPlain_snakeCase h
  rw [← toList_convert snakeCase] at hplain hlower
  unfold snake markSnake
  split
  · next hraw => exact identifier_raw hraw
  · next hraw =>
      split
      · next hsuffixed => exact identifier_suffixed hsuffixed
      · next hsuffixed =>
          -- The one reserved word that is not marked is no name in snake case.
          have hmarked : ∀ word ∈ reservedWords,
              word ∈ rawWords ∨ word ∈ suffixedWords ∨ word.toList.head?.any Char.isLower = false := by
            decide
          refine identifier_of_isPlain hplain fun hreserved => ?_
          rcases hmarked _ hreserved with hmem | hmem | hcapital
          · exact hraw hmem
          · exact hsuffixed hmem
          · rw [hlower] at hcapital
            cases hcapital

/-! ## Types -/

/-- A name that is accepted as that of a type: plain, with a capital, and not reserved. -/
structure IsTypeName (text : String) : Prop where
  plain : isPlain text.toList = true
  capital : text.toList.head?.any Char.isUpper = true
  ne : text ≠ "Self"

/-- One reserved word begins with a capital. -/
theorem IsTypeName.identifier {text : String} (h : IsTypeName text) : identifier text = .ok text := by
  have hcapital : ∀ word ∈ reservedWords, word.toList.head?.any Char.isUpper = true → word = "Self" := by
    decide
  exact identifier_of_isPlain h.plain fun hreserved => h.ne (hcapital text hreserved h.capital)

/-- A suffix that the reserved word does not end in makes another type name. -/
theorem IsTypeName.append {text suffix : String} (h : IsTypeName text)
    (hsuffix : suffix.toList.all isWordPart = true) (hne : ¬ suffix.toList <:+ "Self".toList) :
    IsTypeName (text ++ suffix) where
  plain := by
    rw [String.toList_append]
    exact isPlain_append h.plain (List.all_eq_true.1 hsuffix)
  capital := by
    obtain ⟨⟨c, rest, hcharacters, -⟩, -⟩ := isPlain_iff.1 h.plain
    have hcapital := h.capital
    rw [String.toList_append, hcharacters, List.cons_append, List.head?_cons]
    rwa [hcharacters, List.head?_cons] at hcapital
  ne := by
    intro hsame
    rw [← hsame, String.toList_append] at hne
    exact hne (List.suffix_append _ _)

theorem isTypeName_upperCamel {name : String} (h : isPlain name.toList = true) :
    IsTypeName (upperCamel name) := by
  obtain ⟨hplain, hcapital⟩ := isPlain_upperCamelCase h
  rw [← toList_convert upperCamelCase] at hplain hcapital
  unfold upperCamel markUpperCamel
  split
  · next hself =>
      rw [hself]
      exact ⟨by decide, by decide, by decide⟩
  · next hself => exact ⟨hplain, hcapital, hself⟩

theorem isTypeName_enumType {name : String} (h : isPlain name.toList = true) :
    IsTypeName (enumType name) := by
  unfold enumType
  simp only
  split
  · exact isTypeName_upperCamel h
  · exact (isTypeName_upperCamel h).append (by decide) (by decide)

/-- The names of a value and of its enum make a plain name together. -/
theorem isPlain_gluedName {enumName valueName : String} (henum : isPlain enumName.toList = true)
    (hvalue : isPlain valueName.toList = true) : isPlain (gluedName enumName valueName) = true :=
  isPlain_append (isPlain_upperCamelCase (isPlain_lowerText hvalue)).1
    (isPlain_iff.1 (isTypeName_enumType henum).plain).2

theorem isTypeName_enumConstant {enumName valueName : String} (henum : isPlain enumName.toList = true)
    (hvalue : isPlain valueName.toList = true) : IsTypeName (enumConstant enumName valueName) := by
  rw [enumConstant_eq_upperCamel]
  refine isTypeName_upperCamel ?_
  rw [String.toList_ofList]
  exact isPlain_gluedName henum hvalue

end Naming

end CustomResource
