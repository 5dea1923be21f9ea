import CustomResource.Proofs.Text.Spelling

/-!
# Plain names

Schemas name things by a letter of ASCII that letters, digits and underscores may follow.  The leading letter
is part of the first word, so no conversion drops it: a plain name in snake case begins with a lower-case
letter, and in upper camel case with a capital, and both are plain names again.
-/

namespace CustomResource.Text

/-! ## Characters -/

/-- A letter of ASCII. -/
def isWordStart (c : Char) : Bool :=
  Unicode.inRanges [(0x41, 0x5A), (0x61, 0x7A)] c

/-- A letter or digit of ASCII, or an underscore. -/
def isWordPart (c : Char) : Bool :=
  Unicode.inRanges [(0x30, 0x39), (0x41, 0x5A), (0x5F, 0x5F), (0x61, 0x7A)] c

theorem toNat_lt_of_isWordPart {c : Char} (h : isWordPart c = true) : c.toNat < 128 := by
  simp only [isWordPart, Unicode.inRanges, List.any_cons, List.any_nil, Bool.or_false, Bool.or_eq_true,
    Bool.and_eq_true, decide_eq_true_eq] at h
  omega

/-- Letters are parts of words, and they have both cases. -/
theorem case_of_isWordStart {c : Char} (h : isWordStart c = true) :
    isWordPart c = true ∧ Unicode.isAlphanumeric c = true ∧ c.toLower.isLower = true ∧
      isWordStart c.toLower.toUpper = true ∧ c.toLower.toUpper.isUpper = true := by
  have hascii : c.toNat < 128 := by
    simp only [isWordStart, Unicode.inRanges, List.any_cons, List.any_nil, Bool.or_false, Bool.or_eq_true,
      Bool.and_eq_true, decide_eq_true_eq] at h
    omega
  refine Unicode.forall_ascii (P := fun c => isWordStart c = true →
    isWordPart c = true ∧ Unicode.isAlphanumeric c = true ∧ c.toLower.isLower = true ∧
      isWordStart c.toLower.toUpper = true ∧ c.toLower.toUpper.isUpper = true) ?_ hascii h
  decide +kernel

theorem isWordStart_toLower {c : Char} (h : isWordStart c = true) : isWordStart c.toLower = true := by
  refine Unicode.forall_ascii (P := fun c => isWordStart c = true → isWordStart c.toLower = true) ?_
    (toNat_lt_of_isWordPart (case_of_isWordStart h).1) h
  decide +kernel

theorem isWordPart_toLower {c : Char} (h : isWordPart c = true) : isWordPart c.toLower = true := by
  refine Unicode.forall_ascii (P := fun c => isWordPart c = true → isWordPart c.toLower = true) ?_
    (toNat_lt_of_isWordPart h) h
  decide +kernel

/-- What words in lower case consist of are parts of words, and so are its capitals. -/
theorem isWordPart_of_isLowerPart {c : Char} (h : isLowerPart c = true) :
    isWordPart c = true ∧ isWordPart c.toUpper = true := by
  refine Unicode.forall_ascii (P := fun c => isLowerPart c = true →
    isWordPart c = true ∧ isWordPart c.toUpper = true) ?_ (toNat_lt_of_isLowerPart h) h
  decide +kernel

/-! ## Names -/

/-- Whether a name is a letter of ASCII, followed by letters, digits and underscores of ASCII. -/
def isPlain (name : List Char) : Bool :=
  name.head?.any isWordStart && name.all isWordPart

section

variable {name : List Char}

theorem isPlain_iff : isPlain name = true ↔
    (∃ c rest, name = c :: rest ∧ isWordStart c = true) ∧ ∀ c ∈ name, isWordPart c = true := by
  cases name <;> simp [isPlain]

theorem isAscii_of_isPlain (h : isPlain name = true) : isAscii name = true :=
  List.all_eq_true.2 fun c hc => decide_eq_true (toNat_lt_of_isWordPart ((isPlain_iff.1 h).2 c hc))

/-- The first word begins with the letter that the name begins with. -/
theorem exists_lowerWords_cons {c : Char} {rest : List Char} (h : isPlain (c :: rest) = true) :
    ∃ word more, lowerWords (c :: rest) = (c.toLower :: word) :: more := by
  have hstart : isWordStart c = true := by
    obtain ⟨d, others, hsame, hstart⟩ := (isPlain_iff.1 h).1
    cases hsame
    exact hstart
  have hflatten := flatten_words (c :: rest)
  rw [List.filter_cons_of_pos (case_of_isWordStart hstart).2.1] at hflatten
  cases hwords : words (c :: rest) with
  | nil =>
      rw [hwords] at hflatten
      cases hflatten
  | cons word more =>
      have hmem : word ∈ words (c :: rest) := hwords ▸ List.mem_cons_self
      obtain ⟨d, others, rfl⟩ := List.exists_cons_of_ne_nil (ne_nil_of_mem_words hmem)
      rw [hwords, List.flatten_cons, List.cons_append, List.cons.injEq] at hflatten
      obtain ⟨rfl, -⟩ := hflatten
      have hascii := lt_of_mem_words (isAscii_of_isPlain h) hmem
      exact ⟨others.map Char.toLower, more.map lowerWord, by
        rw [lowerWords, hwords, List.map_cons, lowerWord_of_isAscii hascii, List.map_cons]⟩

/-- In snake case a plain name begins with a small letter. -/
theorem isPlain_snakeCase (h : isPlain name = true) :
    isPlain (snakeCase name) = true ∧ (snakeCase name).head?.any Char.isLower = true := by
  obtain ⟨⟨c, rest, rfl, hstart⟩, -⟩ := isPlain_iff.1 h
  obtain ⟨word, more, hwords⟩ := exists_lowerWords_cons h
  have hhead : (snakeCase (c :: rest)).head? = some c.toLower := by
    rw [snakeCase_eq_intercalate, hwords, head?_intercalate_cons (List.cons_ne_nil _ _), List.head?_cons]
  have hparts : ∀ d ∈ snakeCase (c :: rest), isWordPart d = true := by
    intro d hd
    rw [snakeCase_eq_intercalate] at hd
    rcases mem_of_mem_intercalate hd with hd | ⟨part, hpart, hd⟩
    · rw [List.mem_singleton.1 hd]
      decide
    · exact (isWordPart_of_isLowerPart ((lowerParts_lowerWords (isAscii_of_isPlain h) part hpart).2 d hd)).1
  refine ⟨?_, ?_⟩
  · rw [isPlain, hhead, Option.any_some, isWordStart_toLower hstart, Bool.true_and]
    exact List.all_eq_true.2 hparts
  · rw [hhead, Option.any_some]
    exact (case_of_isWordStart hstart).2.2.1

/-- In upper camel case it begins with a capital. -/
theorem isPlain_upperCamelCase (h : isPlain name = true) :
    isPlain (upperCamelCase name) = true ∧ (upperCamelCase name).head?.any Char.isUpper = true := by
  obtain ⟨⟨c, rest, rfl, hstart⟩, -⟩ := isPlain_iff.1 h
  have hascii := isAscii_of_isPlain h
  obtain ⟨word, more, hwords⟩ := exists_lowerWords_cons h
  have hhead : (upperCamelCase (c :: rest)).head? = some c.toLower.toUpper := by
    rw [upperCamelCase_eq_flatMap hascii, hwords]
    rfl
  have hparts : ∀ d ∈ upperCamelCase (c :: rest), isWordPart d = true := by
    intro d hd
    rw [upperCamelCase_eq_flatMap hascii] at hd
    obtain ⟨part, hpart, hd⟩ := List.mem_flatMap.1 hd
    obtain ⟨hne, hlower⟩ := lowerParts_lowerWords hascii part hpart
    obtain ⟨first, others, rfl⟩ := List.exists_cons_of_ne_nil hne
    rcases List.mem_cons.1 hd with rfl | hd
    · exact (isWordPart_of_isLowerPart (hlower first List.mem_cons_self)).2
    · exact (isWordPart_of_isLowerPart (hlower d (List.mem_cons_of_mem _ hd))).1
  have hcapital := (case_of_isWordStart hstart).2.2.2
  refine ⟨?_, ?_⟩
  · rw [isPlain, hhead, Option.any_some, hcapital.1, Bool.true_and]
    exact List.all_eq_true.2 hparts
  · rw [hhead, Option.any_some]
    exact hcapital.2

theorem isPlain_lowerText (h : isPlain name = true) : isPlain (lowerText name) = true := by
  obtain ⟨⟨c, rest, rfl, hstart⟩, hparts⟩ := isPlain_iff.1 h
  rw [lowerText_of_isAscii (isAscii_of_isPlain h), isPlain_iff]
  refine ⟨⟨c.toLower, rest.map Char.toLower, rfl, isWordStart_toLower hstart⟩, ?_⟩
  intro d hd
  obtain ⟨e, he, rfl⟩ := List.mem_map.1 hd
  exact isWordPart_toLower (hparts e he)

theorem isPlain_append (h : isPlain name = true) {more : List Char}
    (hmore : ∀ c ∈ more, isWordPart c = true) : isPlain (name ++ more) = true := by
  obtain ⟨⟨c, rest, rfl, hstart⟩, hparts⟩ := isPlain_iff.1 h
  exact isPlain_iff.2 ⟨⟨c, rest ++ more, rfl, hstart⟩, List.forall_mem_append.2 ⟨hparts, hmore⟩⟩

end

end CustomResource.Text
