import CustomResource.Proofs.Text.Camel

/-!
# Spellings

An ASCII name is spelled by its letters and digits in lower case, without regard to where words begin.
Conversions of case keep the spelling, `spelling_lowerText` and `spelling_upperCamelCase`, so names of
different spellings stay apart whatever is made of them.
-/

namespace CustomResource.Text

/-! ## Spelling -/

/-- What a character adds to the spelling of a text. -/
def letter? (c : Char) : Option Char :=
  if Unicode.isAlphanumeric c then some c.toLower else none

/-- The letters and digits of a text, in lower case. -/
def spelling (text : List Char) : List Char :=
  text.filterMap letter?

@[simp] theorem spelling_nil : spelling [] = [] := rfl

@[simp] theorem spelling_cons (c : Char) (rest : List Char) :
    spelling (c :: rest) = (letter? c).toList ++ spelling rest := by
  cases h : letter? c <;> simp [spelling, h]

@[simp] theorem spelling_append (first second : List Char) :
    spelling (first ++ second) = spelling first ++ spelling second :=
  List.filterMap_append

theorem spelling_flatMap {α : Type} (f : α → List Char) (list : List α) :
    spelling (list.flatMap f) = list.flatMap fun a => spelling (f a) :=
  List.filterMap_flatMap

/-! ## Case -/

/-- Both cases of an ASCII character add the same to a spelling. -/
theorem letter?_of_lt {c : Char} (h : c.toNat < 128) :
    letter? c.toLower = letter? c ∧ letter? c.toUpper = letter? c := by
  refine Unicode.forall_ascii (P := fun c =>
    letter? c.toLower = letter? c ∧ letter? c.toUpper = letter? c) ?_ h
  decide +kernel

theorem spelling_map_toLower {text : List Char} (h : ∀ c ∈ text, c.toNat < 128) :
    spelling (text.map Char.toLower) = spelling text := by
  rw [spelling, List.filterMap_map]
  exact List.filterMap_congr fun c hc => (letter?_of_lt (h c hc)).1

/-! ## Words -/

/-- The words of a name are what is left of it without separators. -/
theorem flatten_words (name : List Char) : (words name).flatten = name.filter Unicode.isAlphanumeric := by
  have hpiece : ∀ piece : List Char, (splitCase .boundary [] piece).flatten = piece := by
    intro piece
    cases piece with
    | nil => rfl
    | cons c rest => exact flatten_splitCase .boundary [] (List.cons_ne_nil c rest)
  calc (words name).flatten
    _ = (name.splitOnP fun c => !Unicode.isAlphanumeric c).flatten := by
        simp [words, List.flatMap, List.flatten_flatten, hpiece, Function.comp_def]
    _ = name.filter Unicode.isAlphanumeric := by
        simp [flatten_splitOnP]

theorem flatMap_spelling_words (name : List Char) : (words name).flatMap spelling = spelling name := by
  have hfilter : spelling (name.filter Unicode.isAlphanumeric) = spelling name := by
    rw [spelling, List.filterMap_filter]
    refine List.filterMap_congr fun c _ => ?_
    cases hc : Unicode.isAlphanumeric c <;> simp [letter?, hc]
  rw [← hfilter, ← flatten_words, spelling, List.filterMap_flatten, List.flatMap_def]
  rfl

/-! ## Conversions -/

theorem lowerTextAfter_of_isAscii {text : List Char} (h : ∀ c ∈ text, c.toNat < 128)
    (before : List Char) : lowerTextAfter before text = text.map Char.toLower := by
  induction text generalizing before with
  | nil => rfl
  | cons c rest ih =>
      have hc := h c List.mem_cons_self
      have hsigma : c ≠ 'Σ' := by
        rintro rfl
        exact absurd hc (by decide)
      rw [lowerTextAfter, if_neg hsigma, toLowercase_of_lt hc,
        ih fun d hd => h d (List.mem_cons_of_mem _ hd), List.map_cons, List.singleton_append]

theorem lowerText_of_isAscii {text : List Char} (h : isAscii text = true) :
    lowerText text = text.map Char.toLower :=
  lowerTextAfter_of_isAscii (fun _ hc => toNat_lt_of_isAscii h hc) []

theorem spelling_lowerText {text : List Char} (h : isAscii text = true) :
    spelling (lowerText text) = spelling text := by
  rw [lowerText_of_isAscii h, spelling_map_toLower fun _ hc => toNat_lt_of_isAscii h hc]

theorem spelling_capitalizeWord {word : List Char} (h : ∀ c ∈ word, c.toNat < 128) :
    spelling (capitalizeWord word) = spelling word := by
  cases word with
  | nil => rfl
  | cons c rest =>
      have hc := h c List.mem_cons_self
      have hrest : ∀ d ∈ rest, d.toNat < 128 := fun d hd => h d (List.mem_cons_of_mem _ hd)
      rw [capitalizeWord, toUppercase_of_lt hc, lowerWord_of_isAscii hrest, spelling_append,
        spelling_map_toLower hrest]
      simp [(letter?_of_lt hc).2]

/-- Where words begin is not part of the spelling. -/
theorem spelling_upperCamelCase {name : List Char} (h : isAscii name = true) :
    spelling (upperCamelCase name) = spelling name := by
  rw [upperCamelCase, spelling_flatMap, ← flatMap_spelling_words name]
  exact List.flatMap_congr fun _ hword => spelling_capitalizeWord (lt_of_mem_words h hword)

/-! ## ASCII texts -/

theorem isAscii_append (first second : List Char) :
    isAscii (first ++ second) = (isAscii first && isAscii second) :=
  List.all_append

theorem isAscii_lowerText {text : List Char} (h : isAscii text = true) :
    isAscii (lowerText text) = true := by
  rw [lowerText_of_isAscii h, isAscii, List.all_map, List.all_eq_true]
  exact fun c hc => decide_eq_true (case_of_lt (toNat_lt_of_isAscii h hc)).1

theorem isAscii_capitalizeWord {word : List Char} (h : ∀ c ∈ word, c.toNat < 128) :
    isAscii (capitalizeWord word) = true := by
  cases word with
  | nil => rfl
  | cons c rest =>
      have hc := h c List.mem_cons_self
      have hrest : ∀ d ∈ rest, d.toNat < 128 := fun d hd => h d (List.mem_cons_of_mem _ hd)
      rw [capitalizeWord, toUppercase_of_lt hc, lowerWord_of_isAscii hrest, isAscii_append]
      simp only [isAscii, List.all_map, Bool.and_eq_true, List.all_eq_true, List.all_cons,
        List.all_nil, Bool.and_true, decide_eq_true_eq]
      exact ⟨(case_of_lt hc).2.1, fun d hd => decide_eq_true (case_of_lt (hrest d hd)).1⟩

theorem isAscii_upperCamelCase {name : List Char} (h : isAscii name = true) :
    isAscii (upperCamelCase name) = true := by
  rw [upperCamelCase, isAscii, List.all_flatMap, List.all_eq_true]
  exact fun word hword => isAscii_capitalizeWord (lt_of_mem_words h hword)

end CustomResource.Text
