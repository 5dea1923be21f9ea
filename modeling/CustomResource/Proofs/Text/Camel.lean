import CustomResource.Proofs.Text.Words
import Mathlib.Data.List.Basic

/-!
# Camel-case names

A camel-case name marks the beginning of a word by a capital, which a digit does not have.  An ASCII name in
camel case therefore tells its lower-case words up to digits: a word that begins with one cannot be told from
the word before it, see `lowerCamelCase_eq_lowerCamelCase_iff` and `upperCamelCase_eq_upperCamelCase_iff`.

Beyond ASCII there is no such rule.  An upper-case form may be several letters long and lower-case forms are
shared, so two names of different words may well be the same text.
-/

namespace CustomResource.Text

/-! ## Parts of a name -/

/-- The words of a name in lower camel case. -/
def camelWords (name : List Char) : List (List Char) :=
  match words name with
  | [] => []
  | first :: rest => lowerWord first :: rest.map capitalizeWord

theorem lowerCamelCase_eq_flatten (name : List Char) :
    lowerCamelCase name = (camelWords name).flatten := by
  unfold lowerCamelCase camelWords
  cases words name with
  | nil => rfl
  | cons first rest => exact congrArg (lowerWord first ++ ·) (List.flatMap_def)

/-- Whether a word begins with a digit. -/
def beginsWithDigit (word : List Char) : Bool :=
  word.head?.any Char.isDigit

/-- Words where each that begins with a digit is joined to the word before it. -/
def joinDigits : List (List Char) → List (List Char)
  | [] => []
  | word :: rest =>
      match joinDigits rest with
      | [] => [word]
      | next :: others =>
          if beginsWithDigit next then (word ++ next) :: others else word :: next :: others

/-- Whether a character is a lower-case letter or a digit of ASCII. -/
def isLowerPart (c : Char) : Bool :=
  Unicode.inRanges [(0x30, 0x39), (0x61, 0x7A)] c

/-- Words in lower case, of ASCII letters and digits. -/
def LowerParts (parts : List (List Char)) : Prop :=
  ∀ part ∈ parts, part ≠ [] ∧ ∀ c ∈ part, isLowerPart c = true

theorem LowerParts.tail {part : List Char} {parts : List (List Char)}
    (h : LowerParts (part :: parts)) : LowerParts parts :=
  fun other hother => h other (List.mem_cons_of_mem _ hother)

/-- Words in lower case that all begin with letters. -/
structure LetterParts (parts : List (List Char)) : Prop where
  lower : LowerParts parts
  letter : ∀ part ∈ parts, beginsWithDigit part = false

/-- Words are joined to words in lower case, of which only the first may begin with a digit. -/
theorem lowerParts_joinDigits {parts : List (List Char)} (h : LowerParts parts) :
    LowerParts (joinDigits parts) ∧
      ∀ part ∈ (joinDigits parts).tail, beginsWithDigit part = false := by
  induction parts with
  | nil => exact ⟨h, by simp [joinDigits]⟩
  | cons word rest ih =>
      -- The first of the joined words may still begin with a digit, and then it goes to this one.
      obtain ⟨hparts, htail⟩ := ih h.tail
      have hword := h word List.mem_cons_self
      rw [joinDigits]
      split
      · exact ⟨fun part hpart => List.mem_singleton.1 hpart ▸ hword, by simp⟩
      · next next others hjoined =>
          rw [hjoined] at hparts htail
          have hnext := hparts next List.mem_cons_self
          split
          · refine ⟨fun part hpart => ?_, htail⟩
            rcases List.mem_cons.1 hpart with rfl | hpart
            · refine ⟨List.append_ne_nil_of_left_ne_nil hword.1 next, fun c hc => ?_⟩
              rcases List.mem_append.1 hc with hc | hc
              · exact hword.2 c hc
              · exact hnext.2 c hc
            · exact hparts.tail part hpart
          · next hletter =>
              refine ⟨fun part hpart => ?_, fun part hpart => ?_⟩
              · rcases List.mem_cons.1 hpart with rfl | hpart
                · exact hword
                · exact hparts part hpart
              · rcases List.mem_cons.1 hpart with rfl | hpart
                · exact (Bool.not_eq_true _).mp hletter
                · exact htail part hpart

/-! ## Capitals -/

theorem toNat_lt_of_isLowerPart {c : Char} (h : isLowerPart c = true) : c.toNat < 128 := by
  simp only [isLowerPart, Unicode.inRanges, List.any_cons, List.any_nil, Bool.or_false,
    Bool.or_eq_true, Bool.and_eq_true, decide_eq_true_eq] at h
  omega

/-- A lower-case letter or digit is no capital, it is told by its capital, and only a digit has none. -/
theorem capital_of_isLowerPart {c : Char} (h : isLowerPart c = true) :
    c.isUpper = false ∧ c.toUpper.toLower = c ∧
      if c.isDigit then c.toUpper = c else c.toUpper.isUpper = true := by
  refine Unicode.forall_ascii (P := fun c => isLowerPart c = true →
    c.isUpper = false ∧ c.toUpper.toLower = c ∧
      if c.isDigit then c.toUpper = c else c.toUpper.isUpper = true) ?_ (toNat_lt_of_isLowerPart h) h
  decide +kernel

theorem isUpper_of_isLowerPart {c : Char} (h : isLowerPart c = true) : c.isUpper = false :=
  (capital_of_isLowerPart h).1

/-- A capital tells the letter it was made from. -/
theorem toLower_toUpper_of_isLowerPart {c : Char} (h : isLowerPart c = true) :
    c.toUpper.toLower = c :=
  (capital_of_isLowerPart h).2.1

/-- What begins a word has a capital, unless it is a digit, which stays. -/
theorem isUpper_toUpper_of_isLowerPart {c : Char} (h : isLowerPart c = true) :
    if c.isDigit then c.toUpper = c else c.toUpper.isUpper = true :=
  (capital_of_isLowerPart h).2.2

/-- A word with its first letter as an ASCII capital. -/
def capitalizePart : List Char → List Char
  | [] => []
  | c :: rest => c.toUpper :: rest

/-- Words as one text, where each after the first is capitalized. -/
def camelText : List (List Char) → List Char
  | [] => []
  | part :: rest => part ++ rest.flatMap capitalizePart

/-- A word that begins with a digit has no capital. -/
theorem capitalizePart_of_beginsWithDigit {part : List Char} (hpart : ∀ c ∈ part, isLowerPart c = true)
    (h : beginsWithDigit part = true) : capitalizePart part = part := by
  cases part with
  | nil => rfl
  | cons c rest =>
      have hcapital := isUpper_toUpper_of_isLowerPart (hpart c List.mem_cons_self)
      have hdigit : c.isDigit = true := h
      rw [hdigit, if_pos rfl] at hcapital
      rw [capitalizePart, hcapital]

/-- Joining words at digits leaves their capitals as they are. -/
theorem flatMap_capitalizePart_joinDigits {parts : List (List Char)} (h : LowerParts parts) :
    (joinDigits parts).flatMap capitalizePart = parts.flatMap capitalizePart := by
  induction parts with
  | nil => rfl
  | cons word rest ih =>
      have hrest := ih h.tail
      have hparts := (lowerParts_joinDigits h.tail).1
      rw [joinDigits, List.flatMap_cons, ← hrest]
      split
      · next hjoined =>
          rw [hjoined]
          rfl
      · next next others hjoined =>
          rw [hjoined] at hparts ⊢
          split
          · next hdigit =>
              obtain ⟨c, more, rfl⟩ := List.exists_cons_of_ne_nil (h word List.mem_cons_self).1
              have hnext := (hparts next List.mem_cons_self).2
              rw [List.flatMap_cons, List.flatMap_cons,
                capitalizePart_of_beginsWithDigit hnext hdigit, ← List.append_assoc]
              rfl
          · rw [List.flatMap_cons]

/-- Joining words at digits leaves their text as it is. -/
theorem camelText_joinDigits {parts : List (List Char)} (h : LowerParts parts) :
    camelText (joinDigits parts) = camelText parts := by
  cases parts with
  | nil => rfl
  | cons word rest =>
      have hrest := flatMap_capitalizePart_joinDigits h.tail
      have hparts := (lowerParts_joinDigits h.tail).1
      rw [joinDigits, camelText, ← hrest]
      split
      · next hjoined =>
          rw [hjoined]
          rfl
      · next next others hjoined =>
          rw [hjoined] at hparts ⊢
          split
          · next hdigit =>
              have hnext := (hparts next List.mem_cons_self).2
              rw [camelText, List.flatMap_cons, capitalizePart_of_beginsWithDigit hnext hdigit,
                List.append_assoc]
          · rw [camelText]

/-! ## Words told by their capitals -/

/-- A text tells its part before the first capital. -/
theorem append_inj_of_isUpper {first second firstRest secondRest : List Char}
    (hfirst : ∀ c ∈ first, c.isUpper = false) (hsecond : ∀ c ∈ second, c.isUpper = false)
    (hfirstRest : ∀ c ∈ firstRest.head?, c.isUpper = true)
    (hsecondRest : ∀ c ∈ secondRest.head?, c.isUpper = true)
    (h : first ++ firstRest = second ++ secondRest) : first = second ∧ firstRest = secondRest := by
  induction first generalizing second with
  | nil =>
      cases second with
      | nil => exact ⟨rfl, h⟩
      | cons d second =>
          rw [List.nil_append] at h
          rw [h] at hfirstRest
          have hcapital := hfirstRest d rfl
          rw [hsecond d List.mem_cons_self] at hcapital
          cases hcapital
  | cons c first ih =>
      cases second with
      | nil =>
          rw [List.nil_append] at h
          rw [← h] at hsecondRest
          have hcapital := hsecondRest c rfl
          rw [hfirst c List.mem_cons_self] at hcapital
          cases hcapital
      | cons d second =>
          obtain ⟨rfl, hrest⟩ := List.cons.inj h
          obtain ⟨rfl, hsame⟩ := ih (fun e he => hfirst e (List.mem_cons_of_mem _ he))
            (fun e he => hsecond e (List.mem_cons_of_mem _ he)) hrest
          exact ⟨rfl, hsame⟩

/-- Capitalized words begin with a capital. -/
theorem LetterParts.isUpper_of_mem_head? {parts : List (List Char)} (h : LetterParts parts) :
    ∀ c ∈ (parts.flatMap capitalizePart).head?, c.isUpper = true := by
  cases parts with
  | nil => simp
  | cons part rest =>
      obtain ⟨hne, hpart⟩ := h.lower part List.mem_cons_self
      obtain ⟨c, more, rfl⟩ := List.exists_cons_of_ne_nil hne
      have hletter : c.isDigit = false := h.letter _ List.mem_cons_self
      have hcapital := isUpper_toUpper_of_isLowerPart (hpart c List.mem_cons_self)
      rw [hletter, if_neg Bool.false_ne_true] at hcapital
      intro d hd
      cases hd
      exact hcapital

/-- A word is told by what follows it, if that is capitalized. -/
theorem append_flatMap_inj {word other : List Char} {parts others : List (List Char)}
    (hword : ∀ c ∈ word, isLowerPart c = true) (hother : ∀ c ∈ other, isLowerPart c = true)
    (hparts : LetterParts parts) (hothers : LetterParts others)
    (h : word ++ parts.flatMap capitalizePart = other ++ others.flatMap capitalizePart) :
    word = other ∧ parts.flatMap capitalizePart = others.flatMap capitalizePart :=
  append_inj_of_isUpper (fun c hc => isUpper_of_isLowerPart (hword c hc))
    (fun c hc => isUpper_of_isLowerPart (hother c hc)) hparts.isUpper_of_mem_head?
    hothers.isUpper_of_mem_head? h

/-- Words of which only the first may begin with a digit are told by their capitalized text. -/
theorem eq_of_flatMap_capitalizePart {first second : List (List Char)} (hfirst : LowerParts first)
    (hsecond : LowerParts second)
    (hfirstLetters : ∀ part ∈ first.tail, beginsWithDigit part = false)
    (hsecondLetters : ∀ part ∈ second.tail, beginsWithDigit part = false)
    (h : first.flatMap capitalizePart = second.flatMap capitalizePart) : first = second := by
  induction first generalizing second with
  | nil =>
      cases second with
      | nil => rfl
      | cons other others =>
          obtain ⟨d, more, rfl⟩ := List.exists_cons_of_ne_nil (hsecond other List.mem_cons_self).1
          cases h
  | cons word parts ih =>
      obtain ⟨hne, hword⟩ := hfirst word List.mem_cons_self
      obtain ⟨c, more, rfl⟩ := List.exists_cons_of_ne_nil hne
      cases second with
      | nil => cases h
      | cons other others =>
          obtain ⟨hne, hother⟩ := hsecond other List.mem_cons_self
          obtain ⟨d, rest, rfl⟩ := List.exists_cons_of_ne_nil hne
          -- The capitals tell the first letters, and all up to the next capital is the same.
          obtain ⟨hcapital, htext⟩ := List.cons.inj h
          have hletter : c = d := by
            rw [← toLower_toUpper_of_isLowerPart (hword c List.mem_cons_self), hcapital,
              toLower_toUpper_of_isLowerPart (hother d List.mem_cons_self)]
          obtain ⟨hrest, hparts⟩ := append_flatMap_inj
            (fun e he => hword e (List.mem_cons_of_mem _ he))
            (fun e he => hother e (List.mem_cons_of_mem _ he)) ⟨hfirst.tail, hfirstLetters⟩
            ⟨hsecond.tail, hsecondLetters⟩ htext
          rw [hletter, hrest, ih hfirst.tail hsecond.tail
            (fun part hpart => hfirstLetters part (List.mem_of_mem_tail hpart))
            (fun part hpart => hsecondLetters part (List.mem_of_mem_tail hpart)) hparts]

/-- Words of which only the first may begin with a digit are told by their text. -/
theorem eq_of_camelText {first second : List (List Char)} (hfirst : LowerParts first)
    (hsecond : LowerParts second)
    (hfirstLetters : ∀ part ∈ first.tail, beginsWithDigit part = false)
    (hsecondLetters : ∀ part ∈ second.tail, beginsWithDigit part = false)
    (h : camelText first = camelText second) : first = second := by
  cases first with
  | nil =>
      cases second with
      | nil => rfl
      | cons other others =>
          have hempty := (List.append_eq_nil_iff.1 h.symm).1
          exact absurd hempty (hsecond other List.mem_cons_self).1
  | cons word parts =>
      cases second with
      | nil =>
          have hempty := (List.append_eq_nil_iff.1 h).1
          exact absurd hempty (hfirst word List.mem_cons_self).1
      | cons other others =>
          have hparts : LetterParts parts := ⟨hfirst.tail, hfirstLetters⟩
          have hothers : LetterParts others := ⟨hsecond.tail, hsecondLetters⟩
          obtain ⟨hword, hrest⟩ := append_flatMap_inj (hfirst word List.mem_cons_self).2
            (hsecond other List.mem_cons_self).2 hparts hothers h
          rw [hword, eq_of_flatMap_capitalizePart hparts.lower hothers.lower
            (fun part hpart => hparts.letter part (List.mem_of_mem_tail hpart))
            (fun part hpart => hothers.letter part (List.mem_of_mem_tail hpart)) hrest]

/-! ## ASCII names -/

/-- Whether all characters are ASCII. -/
def isAscii (text : List Char) : Bool :=
  text.all fun c => decide (c.toNat < 128)

theorem toNat_lt_of_isAscii {text : List Char} (h : isAscii text = true) {c : Char} (hc : c ∈ text) :
    c.toNat < 128 :=
  of_decide_eq_true (List.all_eq_true.1 h c hc)

theorem toLowercase_of_lt {c : Char} (h : c.toNat < 128) : Unicode.toLowercase c = [c.toLower] :=
  if_pos h

theorem toUppercase_of_lt {c : Char} (h : c.toNat < 128) : Unicode.toUppercase c = [c.toUpper] :=
  if_pos h

/-- ASCII words are converted letter by letter. -/
theorem lowerWord_of_isAscii {word : List Char} (h : ∀ c ∈ word, c.toNat < 128) :
    lowerWord word = word.map Char.toLower := by
  fun_induction lowerWord word with
  | case1 => rfl
  | case2 =>
      have hsigma := h 'Σ' List.mem_cons_self
      exact absurd hsigma (by decide)
  | case3 c hc => exact toLowercase_of_lt (h c List.mem_cons_self)
  | case4 c rest hrest ih =>
      rw [toLowercase_of_lt (h c List.mem_cons_self),
        ih fun d hd => h d (List.mem_cons_of_mem _ hd), List.map_cons, List.singleton_append]

/-- Both cases of an ASCII character are ASCII, they agree on the capital, and the lower one of a letter or
digit is a part of words. -/
theorem case_of_lt {c : Char} (h : c.toNat < 128) :
    c.toLower.toNat < 128 ∧ c.toUpper.toNat < 128 ∧ c.toLower.toUpper = c.toUpper ∧
      (c.isAlphanum = true → isLowerPart c.toLower = true) := by
  refine Unicode.forall_ascii (P := fun c =>
    c.toLower.toNat < 128 ∧ c.toUpper.toNat < 128 ∧ c.toLower.toUpper = c.toUpper ∧
      (c.isAlphanum = true → isLowerPart c.toLower = true)) ?_ h
  decide +kernel

/-- An ASCII word is capitalized as its lower-case form is. -/
theorem capitalizeWord_of_isAscii {word : List Char} (h : ∀ c ∈ word, c.toNat < 128) :
    capitalizeWord word = capitalizePart (lowerWord word) := by
  rw [lowerWord_of_isAscii h]
  cases word with
  | nil => rfl
  | cons c rest =>
      have hc := h c List.mem_cons_self
      rw [capitalizeWord, toUppercase_of_lt hc,
        lowerWord_of_isAscii fun d hd => h d (List.mem_cons_of_mem _ hd), List.map_cons,
        capitalizePart, (case_of_lt hc).2.2.1, List.singleton_append]

theorem isLowerPart_toLower {c : Char} (hc : c.toNat < 128) (h : Unicode.isAlphanumeric c = true) :
    isLowerPart c.toLower = true := by
  have halphanum : c.isAlphanum = true := by
    rw [Unicode.isAlphanumeric, if_pos hc] at h
    exact h
  exact (case_of_lt hc).2.2.2 halphanum

theorem lt_of_mem_words {name word : List Char} (h : isAscii name = true) (hword : word ∈ words name) :
    ∀ c ∈ word, c.toNat < 128 :=
  fun _ hc => toNat_lt_of_isAscii h (mem_of_mem_words hword hc).2

/-- The lower-case words of an ASCII name consist of letters and digits of ASCII. -/
theorem lowerParts_lowerWords {name : List Char} (h : isAscii name = true) :
    LowerParts (lowerWords name) := by
  intro part hpart
  refine ⟨ne_nil_of_mem_lowerWords hpart, ?_⟩
  obtain ⟨word, hword, rfl⟩ := List.mem_map.1 hpart
  have hascii := lt_of_mem_words h hword
  rw [lowerWord_of_isAscii hascii]
  intro c hc
  obtain ⟨d, hd, rfl⟩ := List.mem_map.1 hc
  exact isLowerPart_toLower (hascii d hd) (mem_of_mem_words hword hd).1

/-- ASCII words make the capitalized text that their lower-case forms make. -/
theorem flatMap_capitalizeWord_of_isAscii {parts : List (List Char)}
    (h : ∀ word ∈ parts, ∀ c ∈ word, c.toNat < 128) :
    parts.flatMap capitalizeWord = (parts.map lowerWord).flatMap capitalizePart := by
  rw [List.flatMap_map]
  exact List.flatMap_congr fun word hword => capitalizeWord_of_isAscii (h word hword)

theorem lowerCamelCase_eq_camelText {name : List Char} (h : isAscii name = true) :
    lowerCamelCase name = camelText (lowerWords name) := by
  have hascii := fun word (hword : word ∈ words name) => lt_of_mem_words h hword
  unfold lowerCamelCase lowerWords
  cases hwords : words name with
  | nil => rfl
  | cons first rest =>
      rw [hwords] at hascii
      have hrest := flatMap_capitalizeWord_of_isAscii fun word hword =>
        hascii word (List.mem_cons_of_mem _ hword)
      exact congrArg (lowerWord first ++ ·) hrest

theorem upperCamelCase_eq_flatMap {name : List Char} (h : isAscii name = true) :
    upperCamelCase name = (lowerWords name).flatMap capitalizePart :=
  flatMap_capitalizeWord_of_isAscii fun _ hword => lt_of_mem_words h hword

/-- ASCII names have the same lower camel-case form exactly if they have the same lower-case words, where a
word that begins with a digit belongs to the word before it. -/
theorem lowerCamelCase_eq_lowerCamelCase_iff {first second : List Char} (hfirst : isAscii first = true)
    (hsecond : isAscii second = true) :
    lowerCamelCase first = lowerCamelCase second ↔
      joinDigits (lowerWords first) = joinDigits (lowerWords second) := by
  have hfirstParts := lowerParts_lowerWords hfirst
  have hsecondParts := lowerParts_lowerWords hsecond
  rw [lowerCamelCase_eq_camelText hfirst, lowerCamelCase_eq_camelText hsecond,
    ← camelText_joinDigits hfirstParts, ← camelText_joinDigits hsecondParts]
  constructor
  · obtain ⟨hjoined, hletters⟩ := lowerParts_joinDigits hfirstParts
    obtain ⟨hother, hotherLetters⟩ := lowerParts_joinDigits hsecondParts
    exact eq_of_camelText hjoined hother hletters hotherLetters
  · exact congrArg camelText

/-- The same holds of upper camel-case forms. -/
theorem upperCamelCase_eq_upperCamelCase_iff {first second : List Char} (hfirst : isAscii first = true)
    (hsecond : isAscii second = true) :
    upperCamelCase first = upperCamelCase second ↔
      joinDigits (lowerWords first) = joinDigits (lowerWords second) := by
  have hfirstParts := lowerParts_lowerWords hfirst
  have hsecondParts := lowerParts_lowerWords hsecond
  rw [upperCamelCase_eq_flatMap hfirst, upperCamelCase_eq_flatMap hsecond,
    ← flatMap_capitalizePart_joinDigits hfirstParts, ← flatMap_capitalizePart_joinDigits hsecondParts]
  constructor
  · obtain ⟨hjoined, hletters⟩ := lowerParts_joinDigits hfirstParts
    obtain ⟨hother, hotherLetters⟩ := lowerParts_joinDigits hsecondParts
    exact eq_of_flatMap_capitalizePart hjoined hother hletters hotherLetters
  · exact congrArg (List.flatMap capitalizePart)

/-- An underscore before a digit leaves no trace. -/
example : joinDigits (lowerWords "ipv_4_mask".toList) = joinDigits (lowerWords "ipv4Mask".toList) := by
  decide

end CustomResource.Text
