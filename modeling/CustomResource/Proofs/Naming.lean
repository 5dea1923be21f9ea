import CustomResource.Naming
import CustomResource.Proofs.Text.Spelling

/-!
# Properties of generated names

A snake-case identifier tells the lower-case words of the name it was made from, whatever mark it carries, so
two names share their identifier exactly if they split into the same words up to case, see
`snake_eq_snake_iff`.  No conversion yields a name that looks marked, so marks keep names apart, see
`marks_keep_names_apart`.  A key tells less, see `lowerCamel_eq_lowerCamel_iff_of_isAscii`.  The identifiers of
types hold no characters that break words but the underscore of a mark.

An enum constant does not tell where the name of the value ends and that of the enum begins.  What it does
tell is the spelling of both in a row, see `spelling_enumConstant`.
-/

namespace CustomResource.Naming

open Text

/-! ## Marks -/

/-- A snake-case name without the mark of a reserved word. -/
def unmark (text : List Char) : List Char :=
  if '#' ∈ text then text.drop 2
  else if text.getLast? = some '_' then text.dropLast
  else text

/-- Whether a text may carry a mark: one in front or one at the end. -/
def LooksMarked (text : List Char) : Prop :=
  '#' ∈ text ∨ text.getLast? = some '_'

/-- Where the plain name does not look marked, its mark can be taken off again. -/
theorem unmark_markSnake {name : String} (hplain : ¬ LooksMarked name.toList) :
    unmark (markSnake name).toList = name.toList := by
  obtain ⟨hraw, hsuffix⟩ := not_or.1 hplain
  unfold markSnake
  split
  · simp [unmark]
  · split
    · simp [unmark, hraw]
    · simp [unmark, hraw, hsuffix]

theorem unmark_markUpperCamel {name : String} (hplain : ¬ LooksMarked name.toList) :
    unmark (markUpperCamel name).toList = name.toList := by
  obtain ⟨hraw, hsuffix⟩ := not_or.1 hplain
  unfold markUpperCamel
  split
  · simp [unmark, hraw]
  · simp [unmark, hraw, hsuffix]

theorem toList_convert (conversion : List Char → List Char) (name : String) :
    (convert conversion name).toList = conversion name.toList :=
  String.toList_ofList

theorem not_looksMarked_snakeCase (name : List Char) : ¬ LooksMarked (snakeCase name) := by
  refine not_or.2 ⟨fun hmem => ?_, getLast?_snakeCase_ne name⟩
  rcases isBreak_of_mem_snakeCase hmem with hsame | hbreak
  · exact absurd hsame (by decide)
  · exact absurd hbreak (by decide)

theorem not_looksMarked_upperCamelCase (name : List Char) : ¬ LooksMarked (upperCamelCase name) := by
  have hbreaks : ∀ c ∈ upperCamelCase name, Unicode.isBreak c = false := isBreak_of_mem_upperCamelCase
  refine not_or.2 ⟨not_mem_of_isBreak hbreaks (by decide), fun hlast => ?_⟩
  exact not_mem_of_isBreak hbreaks (by decide) (List.mem_of_getLast? hlast)

/-- The mark of a snake-case identifier hides nothing. -/
theorem unmark_snake (name : String) : unmark (snake name).toList = snakeCase name.toList := by
  have hplain := toList_convert snakeCase name
  rw [snake, unmark_markSnake, hplain]
  rw [hplain]
  exact not_looksMarked_snakeCase _

theorem unmark_upperCamel (name : String) :
    unmark (upperCamel name).toList = upperCamelCase name.toList := by
  have hplain := toList_convert upperCamelCase name
  rw [upperCamel, unmark_markUpperCamel, hplain]
  rw [hplain]
  exact not_looksMarked_upperCamelCase _

/-- Names share their snake-case identifier exactly if they have the same lower-case words. -/
theorem snake_eq_snake_iff {first second : String} :
    snake first = snake second ↔ lowerWords first.toList = lowerWords second.toList := by
  rw [← snakeCase_eq_snakeCase_iff]
  constructor
  · intro h
    rw [← unmark_snake first, h, unmark_snake]
  · intro h
    rw [snake, snake, convert, convert, h]

theorem upperCamel_eq_upperCamel_iff {first second : String} :
    upperCamel first = upperCamel second ↔
      upperCamelCase first.toList = upperCamelCase second.toList := by
  constructor
  · intro h
    rw [← unmark_upperCamel first, h, unmark_upperCamel]
  · intro h
    rw [upperCamel, upperCamel, convert, convert, h]

/-- The names that marks make of reserved words. -/
def markedNames : List String :=
  rawWords.map ("r#" ++ ·) ++ suffixedWords.map (· ++ "_") ++ ["Self_"]

theorem looksMarked_of_mem_markedNames {name : String} (h : name ∈ markedNames) :
    LooksMarked name.toList := by
  rw [markedNames, List.mem_append, List.mem_append] at h
  rcases h with (hraw | hsuffixed) | hself
  · obtain ⟨word, -, rfl⟩ := List.mem_map.1 hraw
    exact Or.inl (by simp)
  · obtain ⟨word, -, rfl⟩ := List.mem_map.1 hsuffixed
    exact Or.inr (by simp)
  · rw [List.mem_singleton.1 hself]
    exact Or.inr rfl

/-- A conversion whose results never look marked yields no marked name. -/
theorem convert_not_mem_markedNames {conversion : List Char → List Char}
    (h : ∀ name, ¬ LooksMarked (conversion name)) (name : String) :
    convert conversion name ∉ markedNames := by
  intro hmem
  have hmarked := looksMarked_of_mem_markedNames hmem
  rw [toList_convert] at hmarked
  exact h _ hmarked

theorem markSnake_eq_or_mem_markedNames (name : String) :
    markSnake name = name ∨ markSnake name ∈ markedNames := by
  unfold markSnake markedNames
  split
  · next hraw => exact Or.inr (by simp [hraw])
  · split
    · next hsuffixed => exact Or.inr (by simp [hsuffixed])
    · exact Or.inl rfl

theorem markUpperCamel_eq_or_mem_markedNames (name : String) :
    markUpperCamel name = name ∨ markUpperCamel name ∈ markedNames := by
  unfold markUpperCamel
  split
  · next hself =>
      rw [hself]
      exact Or.inr (List.mem_append_right _ (List.mem_singleton_self _))
  · exact Or.inl rfl

/-- Marks of reserved words make no two names equal that were not equal before.  An identifier is the plain
conversion of its name or a marked one, and no plain conversion of any name is a marked one. -/
theorem marks_keep_names_apart (first second : String) :
    (snake first = snake second ↔ convert snakeCase first = convert snakeCase second) ∧
      (upperCamel first = upperCamel second ↔
        convert upperCamelCase first = convert upperCamelCase second) ∧
      (snake first = convert snakeCase first ∨ snake first ∈ markedNames) ∧
      (upperCamel first = convert upperCamelCase first ∨ upperCamel first ∈ markedNames) ∧
      convert snakeCase first ∉ markedNames ∧ convert upperCamelCase first ∉ markedNames := by
  refine ⟨?_, ?_, markSnake_eq_or_mem_markedNames _, markUpperCamel_eq_or_mem_markedNames _,
    convert_not_mem_markedNames not_looksMarked_snakeCase first,
    convert_not_mem_markedNames not_looksMarked_upperCamelCase first⟩
  · rw [snake_eq_snake_iff, ← snakeCase_eq_snakeCase_iff, convert, convert, String.ofList_inj]
  · rw [upperCamel_eq_upperCamel_iff, convert, convert, String.ofList_inj]

/-! ## Keys -/

/-- Names share their key exactly if their camel-case words make the same text. -/
theorem lowerCamel_eq_lowerCamel_iff {first second : String} :
    lowerCamel first = lowerCamel second ↔
      (camelWords first.toList).flatten = (camelWords second.toList).flatten := by
  rw [← lowerCamelCase_eq_flatten, ← lowerCamelCase_eq_flatten]
  exact String.ofList_inj

/-- ASCII names share their key exactly if they have the same lower-case words, where a word that begins with
a digit belongs to the word before it. -/
theorem lowerCamel_eq_lowerCamel_iff_of_isAscii {first second : String}
    (hfirst : isAscii first.toList = true) (hsecond : isAscii second.toList = true) :
    lowerCamel first = lowerCamel second ↔
      joinDigits (lowerWords first.toList) = joinDigits (lowerWords second.toList) := by
  rw [lowerCamel_eq_lowerCamel_iff, ← lowerCamelCase_eq_flatten, ← lowerCamelCase_eq_flatten]
  exact lowerCamelCase_eq_lowerCamelCase_iff hfirst hsecond

/-! ## Enum constants -/

/-- The name that an enum constant is made from: that of the value in upper camel case, and then that of the
enum type. -/
def gluedName (enumName valueName : String) : List Char :=
  upperCamelCase (lowerText valueName.toList) ++ (enumType enumName).toList

theorem enumConstant_eq_upperCamel (enumName valueName : String) :
    enumConstant enumName valueName = upperCamel (String.ofList (gluedName enumName valueName)) := by
  rw [enumConstant, gluedName, String.ofList_append, String.ofList_toList]
  rfl

/-- Enum values share their constant exactly if the names it is made from have the same upper camel-case
form. -/
theorem enumConstant_eq_enumConstant_iff {firstEnum firstValue secondEnum secondValue : String} :
    enumConstant firstEnum firstValue = enumConstant secondEnum secondValue ↔
      upperCamelCase (gluedName firstEnum firstValue) =
        upperCamelCase (gluedName secondEnum secondValue) := by
  rw [enumConstant_eq_upperCamel, enumConstant_eq_upperCamel, upperCamel_eq_upperCamel_iff,
    String.toList_ofList, String.toList_ofList]

theorem isAscii_upperCamel {name : String} (h : isAscii name.toList = true) :
    isAscii (upperCamel name).toList = true := by
  have hplain : isAscii (convert upperCamelCase name).toList = true := by
    rw [toList_convert]
    exact isAscii_upperCamelCase h
  unfold upperCamel markUpperCamel
  split
  · rw [String.toList_append, isAscii_append, hplain]
    rfl
  · exact hplain

theorem isAscii_enumType {name : String} (h : isAscii name.toList = true) :
    isAscii (enumType name).toList = true := by
  unfold enumType
  simp only
  split
  · exact isAscii_upperCamel h
  · rw [String.toList_append, isAscii_append, isAscii_upperCamel h]
    rfl

theorem isAscii_gluedName {enumName valueName : String} (henum : isAscii enumName.toList = true)
    (hvalue : isAscii valueName.toList = true) : isAscii (gluedName enumName valueName) = true := by
  rw [gluedName, isAscii_append, isAscii_upperCamelCase (isAscii_lowerText hvalue),
    isAscii_enumType henum]
  rfl

theorem spelling_upperCamel {name : String} (h : isAscii name.toList = true) :
    spelling (upperCamel name).toList = spelling name.toList := by
  have hplain := spelling_upperCamelCase h
  rw [← toList_convert upperCamelCase] at hplain
  unfold upperCamel markUpperCamel
  split
  · -- The underscore of a mark is not spelled.
    rw [String.toList_append, spelling_append, hplain]
    exact List.append_nil _
  · exact hplain

/-- A constant spells the name of its value and then the name of its enum type. -/
theorem spelling_enumConstant {enumName valueName : String} (henum : isAscii enumName.toList = true)
    (hvalue : isAscii valueName.toList = true) :
    spelling (enumConstant enumName valueName).toList =
      spelling valueName.toList ++ spelling (enumType enumName).toList := by
  have hglued := isAscii_gluedName henum hvalue
  rw [enumConstant_eq_upperCamel, spelling_upperCamel (by rwa [String.toList_ofList]),
    String.toList_ofList, gluedName, spelling_append, spelling_upperCamelCase (isAscii_lowerText hvalue),
    spelling_lowerText hvalue]

/-- Values of one enum share a constant only if their names are spelled alike. -/
theorem spelling_eq_of_enumConstant_eq {enumName firstValue secondValue : String}
    (henum : isAscii enumName.toList = true) (hfirst : isAscii firstValue.toList = true)
    (hsecond : isAscii secondValue.toList = true)
    (h : enumConstant enumName firstValue = enumConstant enumName secondValue) :
    spelling firstValue.toList = spelling secondValue.toList := by
  have hsame := spelling_enumConstant henum hfirst
  rw [h, spelling_enumConstant henum hsecond] at hsame
  exact (List.append_cancel_right hsame).symm

/-- Enums share a constant only if the name of one's type spells the end of the other's. -/
theorem suffix_of_enumConstant_eq {firstEnum firstValue secondEnum secondValue : String}
    (hfirstEnum : isAscii firstEnum.toList = true) (hfirstValue : isAscii firstValue.toList = true)
    (hsecondEnum : isAscii secondEnum.toList = true)
    (hsecondValue : isAscii secondValue.toList = true)
    (h : enumConstant firstEnum firstValue = enumConstant secondEnum secondValue) :
    spelling (enumType firstEnum).toList <:+ spelling (enumType secondEnum).toList ∨
      spelling (enumType secondEnum).toList <:+ spelling (enumType firstEnum).toList := by
  have hsame := spelling_enumConstant hfirstEnum hfirstValue
  rw [h, spelling_enumConstant hsecondEnum hsecondValue] at hsame
  exact List.suffix_or_suffix_of_suffix (List.suffix_append _ _) (hsame ▸ List.suffix_append _ _)

/-! ## Characters of identifiers -/

/-- A character of an identifier: one that breaks no word, or one of a mark. -/
def isIdentifierPart (c : Char) : Bool :=
  !Unicode.isBreak c || c = '_' || c = '#'

/-- A text of characters of identifiers. -/
def IsIdentifierText (text : String) : Prop :=
  ∀ c ∈ text.toList, isIdentifierPart c = true

instance (text : String) : Decidable (IsIdentifierText text) :=
  decidable_of_iff (text.toList.all isIdentifierPart = true) List.all_eq_true

theorem IsIdentifierText.append {first second : String} (hfirst : IsIdentifierText first)
    (hsecond : IsIdentifierText second) : IsIdentifierText (first ++ second) := by
  intro c hc
  rw [String.toList_append, List.mem_append] at hc
  rcases hc with hc | hc
  · exact hfirst c hc
  · exact hsecond c hc

theorem isIdentifierText_snake (name : String) : IsIdentifierText (snake name) := by
  have hplain : IsIdentifierText (convert snakeCase name) := by
    intro c hc
    rw [toList_convert] at hc
    rcases isBreak_of_mem_snakeCase hc with rfl | hbreak
    · rfl
    · simp [isIdentifierPart, hbreak]
  unfold snake markSnake
  split
  · exact .append (by decide) hplain
  · split
    · exact hplain.append (by decide)
    · exact hplain

theorem isIdentifierText_upperCamel (name : String) : IsIdentifierText (upperCamel name) := by
  have hplain : IsIdentifierText (convert upperCamelCase name) := by
    intro c hc
    rw [toList_convert] at hc
    simp [isIdentifierPart, isBreak_of_mem_upperCamelCase c hc]
  unfold upperCamel markUpperCamel
  split
  · exact hplain.append (by decide)
  · exact hplain

theorem isIdentifierText_enumType (name : String) : IsIdentifierText (enumType name) := by
  unfold enumType
  simp only
  split
  · exact isIdentifierText_upperCamel name
  · exact (isIdentifierText_upperCamel name).append (by decide)

theorem isIdentifierText_enumConstant (enumName valueName : String) :
    IsIdentifierText (enumConstant enumName valueName) := by
  rw [enumConstant_eq_upperCamel]
  exact isIdentifierText_upperCamel _

/-! ## Beginnings of identifiers -/

/-- Whether a text begins with a lower-case letter of ASCII. -/
def beginsLower (text : String) : Bool :=
  text.toList.head?.any Char.isLower

theorem beginsLower_append {first second : String} (hfirst : beginsLower first = false)
    (hsecond : beginsLower second = false) : beginsLower (first ++ second) = false := by
  unfold beginsLower at *
  rw [String.toList_append]
  cases hlist : first.toList with
  | nil => simpa using hsecond
  | cons c rest =>
      rw [hlist] at hfirst
      exact hfirst

theorem beginsLower_upperCamel (name : String) : beginsLower (upperCamel name) = false := by
  have hplain : beginsLower (convert upperCamelCase name) = false := by
    unfold beginsLower
    rw [toList_convert]
    cases hhead : (upperCamelCase name.toList).head? with
    | none => rfl
    | some c => exact isLower_of_head?_upperCamelCase hhead
  unfold upperCamel markUpperCamel
  split
  · exact beginsLower_append hplain (by decide)
  · exact hplain

theorem beginsLower_enumType (name : String) : beginsLower (enumType name) = false := by
  unfold enumType
  simp only
  split
  · exact beginsLower_upperCamel name
  · exact beginsLower_append (beginsLower_upperCamel name) (by decide)

end CustomResource.Naming
