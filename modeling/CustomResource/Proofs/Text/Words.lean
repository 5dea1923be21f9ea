import CustomResource.Proofs.Unicode.Breaks
import CustomResource.Text.Words

/-!
# Properties of words

The words of a name are not empty and consist of letters and digits of the name.  So no converted word holds
a character that breaks words, `isBreak_of_mem_lowerWord` and `isBreak_of_mem_capitalizeWord`, and a
snake-case name can be taken apart at its underscores again: it tells the lower-case words of the name, and
nothing else, see `snakeCase_eq_snakeCase_iff`.
-/

namespace CustomResource.Text

/-! ## Pieces -/

/-- The pieces of a text between separators hold no separator and only characters of the text. -/
theorem mem_of_mem_splitOnP {α : Type} {p : α → Bool} :
    ∀ {text piece : List α}, piece ∈ text.splitOnP p → ∀ c ∈ piece, p c = false ∧ c ∈ text
  | [], piece, hpiece => by
      rw [List.splitOnP_nil, List.mem_singleton] at hpiece
      subst hpiece
      simp
  | first :: rest, piece, hpiece => by
      rw [List.splitOnP_cons_eq_if_modifyHead] at hpiece
      have hrest : ∀ {piece}, piece ∈ rest.splitOnP p → ∀ c ∈ piece, p c = false ∧ c ∈ first :: rest :=
        fun hmem c hc =>
          have hpieces := mem_of_mem_splitOnP hmem c hc
          ⟨hpieces.1, List.mem_cons_of_mem _ hpieces.2⟩
      split at hpiece
      · rcases List.mem_cons.1 hpiece with rfl | hmem
        · simp
        · exact hrest hmem
      · next hfirst =>
          obtain ⟨head, tail, hsplit⟩ :=
            List.exists_cons_of_ne_nil (List.splitOnP_ne_nil p rest)
          rw [hsplit] at hpiece hrest
          rw [List.modifyHead_cons] at hpiece
          rcases List.mem_cons.1 hpiece with rfl | hmem
          · intro c hc
            rcases List.mem_cons.1 hc with rfl | hc
            · exact ⟨by simpa using hfirst, List.mem_cons_self⟩
            · exact hrest List.mem_cons_self c hc
          · exact hrest (List.mem_cons_of_mem _ hmem)

/-- The pieces make up the text without its separators. -/
theorem flatten_splitOnP {α : Type} (p : α → Bool) (text : List α) :
    (text.splitOnP p).flatten = text.filter fun c => !p c := by
  induction text with
  | nil => rfl
  | cons c rest ih =>
      rw [List.splitOnP_cons_eq_if_modifyHead]
      cases hc : p c with
      | true => simp [hc, ih]
      | false =>
          obtain ⟨head, tail, hsplit⟩ := List.exists_cons_of_ne_nil (List.splitOnP_ne_nil p rest)
          rw [hsplit] at ih
          simp [hc, hsplit, ← ih]

/-! ## Joined texts -/

theorem mem_of_mem_intercalate {α : Type} {separator : List α} {a : α} :
    ∀ {parts : List (List α)}, a ∈ separator.intercalate parts →
      a ∈ separator ∨ ∃ part ∈ parts, a ∈ part
  | [], h => by
      rw [List.intercalate_nil] at h
      cases h
  | [part], h => by
      rw [List.intercalate_singleton] at h
      exact Or.inr ⟨part, List.mem_cons_self, h⟩
  | part :: next :: rest, h => by
      rw [List.intercalate_cons_cons, List.mem_append, List.mem_append] at h
      rcases h with (h | h) | h
      · exact Or.inr ⟨part, List.mem_cons_self, h⟩
      · exact Or.inl h
      · rcases mem_of_mem_intercalate h with h | ⟨other, hother, h⟩
        · exact Or.inl h
        · exact Or.inr ⟨other, List.mem_cons_of_mem _ hother, h⟩

section

variable {α : Type} {separator : List α} {parts : List (List α)}

/-- A joined text begins as its first part does. -/
theorem head?_intercalate_cons {first : List α} (h : first ≠ []) (rest : List (List α)) :
    (separator.intercalate (first :: rest)).head? = first.head? := by
  cases rest with
  | nil => rw [List.intercalate_singleton]
  | cons second others =>
      have hfirst : first.head?.isSome = true := by simpa using h
      rw [List.intercalate_cons_cons, List.append_assoc, List.head?_append, Option.or_of_isSome hfirst]

/-- A joined text ends as its last part does. -/
theorem getLast?_intercalate_concat {last : List α} (h : last ≠ []) (parts : List (List α)) :
    (separator.intercalate (parts ++ [last])).getLast? = last.getLast? := by
  have hlast : last.getLast?.isSome = true := by simpa using h
  induction parts with
  | nil => rw [List.nil_append, List.intercalate_singleton]
  | cons part rest ih =>
      have hrest : (separator.intercalate (rest ++ [last])).getLast?.isSome = true := by rwa [ih]
      rw [List.cons_append, List.intercalate_cons_of_ne_nil (List.concat_ne_nil _ _), List.getLast?_append,
        Option.or_of_isSome hrest, ih]

theorem eq_nil_of_intercalate_eq_nil (hparts : ∀ part ∈ parts, part ≠ [])
    (h : separator.intercalate parts = []) : parts = [] := by
  cases parts with
  | nil => rfl
  | cons first rest =>
      have hfirst : first ≠ [] := hparts first List.mem_cons_self
      have hhead : (separator.intercalate (first :: rest)).head? = first.head? :=
        head?_intercalate_cons hfirst rest
      rw [h, List.head?_nil, eq_comm, List.head?_eq_none_iff] at hhead
      exact absurd hhead hfirst

theorem exists_mem_of_getLast?_intercalate {last : α} (hparts : ∀ part ∈ parts, part ≠ [])
    (h : (separator.intercalate parts).getLast? = some last) : ∃ part ∈ parts, last ∈ part := by
  rcases List.eq_nil_or_concat parts with rfl | ⟨others, part, rfl⟩
  · rw [List.intercalate_nil] at h
    cases h
  · rw [List.concat_eq_append] at hparts h ⊢
    have hpart : part ∈ others ++ [part] := List.mem_concat_self
    rw [getLast?_intercalate_concat (hparts part hpart)] at h
    exact ⟨part, hpart, List.mem_of_getLast? h⟩

end

/-! ## Words -/

/-- Splitting at changes of case drops nothing. -/
theorem flatten_splitCase (mode : WordMode) (word : List Char) {text : List Char} (h : text ≠ []) :
    (splitCase mode word text).flatten = word ++ text := by
  fun_induction splitCase mode word text with
  | case1 => exact absurd rfl h
  | case2 => simp
  | case3 mode word c next rest hbreak ih => simp [ih]
  | case4 mode word c next rest hlower hbreak ih => simp [ih]
  | case5 mode word c next rest hlower hupper ih => simp [ih]

/-- Words are not empty, if a word has begun wherever an upper-case letter was seen. -/
theorem ne_nil_of_mem_splitCase {mode : WordMode} {word text : List Char}
    (h : mode = .upper → word ≠ []) {part : List Char} (hpart : part ∈ splitCase mode word text) :
    part ≠ [] := by
  fun_induction splitCase mode word text with
  | case1 => cases hpart
  | case2 => simp_all
  | case3 mode word c next rest hbreak ih =>
      rcases List.mem_cons.1 hpart with rfl | hpart
      · simp
      · exact ih (by simp) hpart
  | case4 mode word c next rest hlower hbreak ih =>
      rcases List.mem_cons.1 hpart with rfl | hpart
      · exact h hbreak.1
      · exact ih (by simp) hpart
  | case5 mode word c next rest hlower hupper ih => exact ih (by simp) hpart

theorem ne_nil_of_mem_words {name word : List Char} (h : word ∈ words name) : word ≠ [] := by
  obtain ⟨piece, _, hword⟩ := List.mem_flatMap.1 h
  exact ne_nil_of_mem_splitCase (by simp) hword

/-- The characters of words are letters and digits of the name. -/
theorem mem_of_mem_words {name word : List Char} (h : word ∈ words name) {c : Char} (hc : c ∈ word) :
    Unicode.isAlphanumeric c = true ∧ c ∈ name := by
  obtain ⟨piece, hpiece, hword⟩ := List.mem_flatMap.1 h
  have hne : piece ≠ [] := by
    rintro rfl
    cases hword
  have hmem : c ∈ piece := by
    have hflatten := flatten_splitCase .boundary [] hne
    rw [List.nil_append] at hflatten
    rw [← hflatten]
    exact List.mem_flatten.2 ⟨word, hword, hc⟩
  have hsplit := mem_of_mem_splitOnP hpiece c hmem
  exact ⟨by simpa using hsplit.1, hsplit.2⟩

theorem isBreak_of_mem_words {name word : List Char} (h : word ∈ words name) {c : Char}
    (hc : c ∈ word) : Unicode.isBreak c = false :=
  Unicode.isBreak_of_isAlphanumeric (mem_of_mem_words h hc).1

/-! ## Converted words -/

theorem toLowercase_ne_nil (c : Char) : Unicode.toLowercase c ≠ [] := by
  unfold Unicode.toLowercase
  split
  · simp
  · split <;> simp

theorem lowerWord_ne_nil {word : List Char} (h : word ≠ []) : lowerWord word ≠ [] := by
  fun_cases lowerWord word with
  | case1 => exact absurd rfl h
  | case2 => simp
  | case3 c hc => exact toLowercase_ne_nil c
  | case4 c rest hrest => simp [toLowercase_ne_nil]

theorem isBreak_of_mem_lowerWord {word : List Char} (h : ∀ c ∈ word, Unicode.isBreak c = false) :
    ∀ c ∈ lowerWord word, Unicode.isBreak c = false := by
  fun_induction lowerWord word with
  | case1 => simp
  | case2 =>
      intro d hd
      rw [List.mem_singleton.1 hd]
      decide
  | case3 c hc => exact fun d hd => Unicode.isBreak_of_mem_toLowercase (h c (by simp)) hd
  | case4 c rest hrest ih =>
      intro d hd
      rcases List.mem_append.1 hd with hd | hd
      · exact Unicode.isBreak_of_mem_toLowercase (h c List.mem_cons_self) hd
      · exact ih (fun e he => h e (List.mem_cons_of_mem _ he)) d hd

theorem isBreak_of_mem_capitalizeWord {word : List Char} (h : ∀ c ∈ word, Unicode.isBreak c = false) :
    ∀ c ∈ capitalizeWord word, Unicode.isBreak c = false := by
  cases word with
  | nil => simp [capitalizeWord]
  | cons first rest =>
      intro d hd
      rcases List.mem_append.1 hd with hd | hd
      · exact Unicode.isBreak_of_mem_toUppercase (h first List.mem_cons_self) hd
      · exact isBreak_of_mem_lowerWord (fun e he => h e (List.mem_cons_of_mem _ he)) d hd

/-! ## Conventions -/

/-- The lower-case words of a name. -/
def lowerWords (name : List Char) : List (List Char) :=
  (words name).map lowerWord

theorem snakeCase_eq_intercalate (name : List Char) :
    snakeCase name = ['_'].intercalate (lowerWords name) := rfl

theorem isBreak_of_mem_lowerWords {name word : List Char} (h : word ∈ lowerWords name) :
    ∀ c ∈ word, Unicode.isBreak c = false := by
  obtain ⟨plain, hplain, rfl⟩ := List.mem_map.1 h
  exact isBreak_of_mem_lowerWord fun c hc => isBreak_of_mem_words hplain hc

theorem ne_nil_of_mem_lowerWords {name word : List Char} (h : word ∈ lowerWords name) : word ≠ [] := by
  obtain ⟨plain, hplain, rfl⟩ := List.mem_map.1 h
  exact lowerWord_ne_nil (ne_nil_of_mem_words hplain)

theorem not_mem_of_isBreak {text : List Char} (h : ∀ c ∈ text, Unicode.isBreak c = false) {c : Char}
    (hc : Unicode.isBreak c = true) : c ∉ text := by
  intro hmem
  rw [h c hmem] at hc
  cases hc

/-- The only breaks in a snake-case name are underscores. -/
theorem isBreak_of_mem_snakeCase {name : List Char} {c : Char} (hc : c ∈ snakeCase name) :
    c = '_' ∨ Unicode.isBreak c = false := by
  rw [snakeCase_eq_intercalate] at hc
  rcases mem_of_mem_intercalate hc with hc | ⟨word, hword, hc⟩
  · exact Or.inl (List.mem_singleton.1 hc)
  · exact Or.inr (isBreak_of_mem_lowerWords hword c hc)

/-- A snake-case name ends in a word. -/
theorem getLast?_snakeCase_ne (name : List Char) : (snakeCase name).getLast? ≠ some '_' := by
  intro hlast
  rw [snakeCase_eq_intercalate] at hlast
  obtain ⟨word, hword, hc⟩ := exists_mem_of_getLast?_intercalate
    (fun _ hword => ne_nil_of_mem_lowerWords hword) hlast
  exact not_mem_of_isBreak (isBreak_of_mem_lowerWords hword) (by decide) hc

/-- A snake-case name tells the lower-case words of the name. -/
theorem snakeCase_eq_snakeCase_iff {first second : List Char} :
    snakeCase first = snakeCase second ↔ lowerWords first = lowerWords second := by
  rw [snakeCase_eq_intercalate, snakeCase_eq_intercalate]
  constructor
  · intro h
    have hplain : ∀ name, ∀ word ∈ lowerWords name, '_' ∉ word := fun name word hword =>
      not_mem_of_isBreak (isBreak_of_mem_lowerWords hword) (by decide)
    have hnil : ∀ {name}, ['_'].intercalate (lowerWords name) = [] → lowerWords name = [] := by
      intro name hname
      exact eq_nil_of_intercalate_eq_nil (fun _ hword => ne_nil_of_mem_lowerWords hword) hname
    -- Splitting at underscores gives back the words, unless there are none.
    by_cases hfirst : lowerWords first = []
    · rw [hfirst, List.intercalate_nil] at h
      rw [hfirst, hnil h.symm]
    · by_cases hsecond : lowerWords second = []
      · rw [hsecond, List.intercalate_nil] at h
        exact absurd (hnil h) hfirst
      · have hsplit := congrArg (List.splitOn '_') h
        rw [List.splitOn_intercalate '_' (hplain first) hfirst,
          List.splitOn_intercalate '_' (hplain second) hsecond] at hsplit
        exact hsplit
  · exact congrArg _

/-- An upper camel-case name holds no breaks. -/
theorem isBreak_of_mem_upperCamelCase {name : List Char} :
    ∀ c ∈ upperCamelCase name, Unicode.isBreak c = false := by
  intro c hc
  obtain ⟨word, hword, hc⟩ := List.mem_flatMap.1 hc
  exact isBreak_of_mem_capitalizeWord (fun d hd => isBreak_of_mem_words hword hd) c hc

theorem toUppercase_ne_nil (c : Char) : Unicode.toUppercase c ≠ [] := by
  unfold Unicode.toUppercase
  split
  · simp
  · split
    · next codes hcodes =>
        have hall : ∀ entry ∈ Unicode.toUpperExpansions, entry.2 ≠ [] := by
          decide +kernel
        obtain ⟨before, after, hentry, _⟩ := List.lookup_eq_some_iff.1 hcodes
        rw [ne_eq, List.map_eq_nil_iff]
        refine hall (c.toNat, codes) ?_
        rw [hentry]
        exact List.mem_append_right _ List.mem_cons_self
    · simp

/-- An upper camel-case name does not begin with a lower-case letter of ASCII. -/
theorem isLower_of_head?_upperCamelCase {name : List Char} {c : Char}
    (hc : (upperCamelCase name).head? = some c) : c.isLower = false := by
  unfold upperCamelCase at hc
  cases hwords : words name with
  | nil =>
      rw [hwords] at hc
      cases hc
  | cons word rest =>
      have hword : word ≠ [] := ne_nil_of_mem_words (hwords ▸ List.mem_cons_self)
      obtain ⟨d, more, rfl⟩ := List.exists_cons_of_ne_nil hword
      obtain ⟨first, others, hcapital⟩ := List.exists_cons_of_ne_nil (toUppercase_ne_nil d)
      rw [hwords, List.flatMap_cons, capitalizeWord, hcapital] at hc
      cases hc
      exact Unicode.isLower_of_mem_toUppercase (hcapital ▸ List.mem_cons_self)

end CustomResource.Text
