import CustomResource.Proofs.Unicode.Breaks
import CustomResource.Source.Identifier

/-!
# Reading back identifiers

An identifier is the word that a text spells, which is the text itself unless something separates tokens in
it: blanks, comments, brackets or a byte order mark.  For a text without such characters `identifier` is a
test, `eq_of_identifier`: it succeeds with the text or fails.
-/

namespace CustomResource.Source

/-! ## Separators -/

/-- A character that may end a token without being part of one: a blank, a bracket, the slash that begins
comments, and the byte order mark. -/
def isSeparator (c : Char) : Bool :=
  isBlank c || c = '/' || (openingDelimiter? c).isSome || (closingDelimiter? c).isSome ||
    c.toNat = 0xFEFF

theorem isBreak_of_isBlank {c : Char} (h : isBlank c = true) : Unicode.isBreak c = true := by
  simp only [Unicode.isBreak, Unicode.inRanges, Unicode.breakRanges, List.any_cons, List.any_nil,
    Bool.or_eq_true, Bool.and_eq_true, decide_eq_true_eq, Bool.or_false]
  simp only [isBlank, Unicode.isWhitespace, Unicode.inRanges, List.any_cons, List.any_nil,
    Bool.or_eq_true, decide_eq_true_eq, Bool.or_false] at h
  split at h
  · simp only [Bool.or_eq_true, Bool.and_eq_true, decide_eq_true_eq] at h
    omega
  · simp only [Bool.or_eq_true, Bool.and_eq_true, decide_eq_true_eq] at h
    omega

theorem isBreak_of_toNat {c : Char} {code : Nat} (h : c.toNat = code)
    (hcode : Unicode.isBreak (Char.ofNat code) = true) : Unicode.isBreak c = true := by
  rw [← h, Char.ofNat_toNat] at hcode
  exact hcode

theorem isBreak_of_openingDelimiter? {c : Char} (h : (openingDelimiter? c).isSome = true) :
    Unicode.isBreak c = true := by
  unfold openingDelimiter? at h
  split at h
  · next hc => rw [hc]; decide
  · split at h
    · next hc => rw [hc]; decide
    · split at h
      · next hc => exact isBreak_of_toNat hc (by decide)
      · cases h

theorem isBreak_of_closingDelimiter? {c : Char} (h : (closingDelimiter? c).isSome = true) :
    Unicode.isBreak c = true := by
  unfold closingDelimiter? at h
  split at h
  · next hc => rw [hc]; decide
  · split at h
    · next hc => rw [hc]; decide
    · split at h
      · next hc => exact isBreak_of_toNat hc (by decide)
      · cases h

/-- Every separator breaks words. -/
theorem isBreak_of_isSeparator {c : Char} (h : isSeparator c = true) : Unicode.isBreak c = true := by
  simp only [isSeparator, Bool.or_eq_true, decide_eq_true_eq] at h
  rcases h with (((hblank | hslash) | hopening) | hclosing) | hmark
  · exact isBreak_of_isBlank hblank
  · rw [hslash]
    decide
  · exact isBreak_of_openingDelimiter? hopening
  · exact isBreak_of_closingDelimiter? hclosing
  · exact isBreak_of_toNat hmark (by decide)

/-! ## Matching brackets -/

/-- The tokens that stand before all open brackets, in reverse. -/
def outermost : List (Delimiter × List Token) → List Token → List Token
  | [], before => before
  | [(_, tokens)], _ => tokens
  | _ :: next :: rest, before => outermost (next :: rest) before

/-- With a bracket open, what was read last does not matter. -/
theorem outermost_cons (first : Delimiter × List Token) (rest : List (Delimiter × List Token))
    (before other : List Token) : outermost (first :: rest) before = outermost (first :: rest) other := by
  induction rest generalizing first with
  | nil => rfl
  | cons next rest ih => exact ih next

theorem outermost_opening (delimiter : Delimiter) (outer : List (Delimiter × List Token))
    (before : List Token) : outermost ((delimiter, before) :: outer) [] = outermost outer before := by
  cases outer with
  | nil => rfl
  | cons first rest => exact outermost_cons first rest [] before

/-- Matched tokens begin with those that were read, and are no more only if nothing is left to read. -/
theorem exists_of_matchBrackets {lexemes : List Lexeme} :
    ∀ {outer : List (Delimiter × List Token)} {before tokens : List Token},
      matchBrackets outer before lexemes = some tokens →
      ∃ more, tokens = (outermost outer before).reverse ++ more ∧
        (more = [] → outer = [] ∧ lexemes = []) := by
  induction lexemes with
  | nil =>
      intro outer before tokens h
      simp only [matchBrackets] at h
      split at h
      · next hempty =>
          cases h
          rw [List.isEmpty_iff.1 hempty]
          exact ⟨[], by simp [outermost], fun _ => ⟨rfl, rfl⟩⟩
      · cases h
  | cons lexeme rest ih =>
      intro outer before tokens h
      -- A token is added to those outside all brackets, or some bracket stays open for the rest.
      have hadd : ∀ {token read}, matchBrackets [] (token :: read) rest = some tokens →
          ∃ more, tokens = read.reverse ++ more ∧ (more = [] → outer = [] ∧ lexeme :: rest = []) := by
        intro token read hrest
        obtain ⟨more, hmore, _⟩ := ih hrest
        exact ⟨token :: more, by simpa [outermost] using hmore, by simp⟩
      have hopen : ∀ {first opened read}, matchBrackets (first :: opened) read rest = some tokens →
          ∃ more, tokens = (outermost (first :: opened) read).reverse ++ more ∧
            (more = [] → outer = [] ∧ lexeme :: rest = []) := by
        intro first opened read hrest
        obtain ⟨more, hmore, hempty⟩ := ih hrest
        exact ⟨more, hmore, fun hnil => by cases (hempty hnil).1⟩
      cases lexeme with
      | leaf token =>
          simp only [matchBrackets] at h
          cases outer with
          | nil => exact hadd h
          | cons first opened =>
              rw [outermost_cons first opened before (token :: before)]
              exact hopen h
      | opening delimiter =>
          simp only [matchBrackets] at h
          rw [← outermost_opening delimiter outer before]
          exact hopen h
      | closing delimiter =>
          cases outer with
          | nil => cases h
          | cons first opened =>
              obtain ⟨matching, read⟩ := first
              simp only [matchBrackets] at h
              split at h
              · cases opened with
                | nil => exact hadd h
                | cons first opened =>
                    have hsame := outermost_cons first opened before
                      (.group delimiter before.reverse :: read)
                    rw [outermost, hsame]
                    exact hopen h
              · cases h

/-- A single token comes from a single lexeme. -/
theorem eq_of_matchBrackets_leaf {token word : Token} {rest : List Lexeme}
    (h : matchBrackets [] [] (.leaf token :: rest) = some [word]) : token = word ∧ rest = [] := by
  have hread : matchBrackets [] [token] rest = some [word] := h
  obtain ⟨more, hmore, hempty⟩ := exists_of_matchBrackets hread
  simp only [outermost, List.reverse_singleton, List.singleton_append, List.cons.injEq] at hmore
  exact ⟨hmore.1.symm, (hempty hmore.2.symm).2⟩

/-! ## Words -/

theorem takeIdentifier_append {text word rest : List Char}
    (h : takeIdentifier text = some (word, rest)) : word ++ rest = text := by
  cases text with
  | nil => cases h
  | cons first text =>
      simp only [takeIdentifier] at h
      split at h
      · cases h
        rw [List.cons_append, List.takeWhile_append_dropWhile]
      · cases h

/-- A word and what follows it make up the text. -/
theorem takeWord_append {text word rest : List Char} (h : takeWord text = some (word, rest)) :
    word ++ rest = text := by
  unfold takeWord at h
  split at h
  · split at h
    · next name after hname =>
        split at h
        · cases h
        · cases h
          simp [takeIdentifier_append hname]
    · cases h
  · exact takeIdentifier_append h

/-- A token of punctuation is no word. -/
theorem exists_punct_of_takePunctToken {text rest : List Char} {token : Token}
    (h : takePunctToken text = some (token, rest)) : ∃ c joint, token = .punct c joint := by
  simp only [takePunctToken, Option.bind_eq_bind, Option.bind_eq_some_iff] at h
  obtain ⟨⟨c, after⟩, _, h⟩ := h
  simp only at h
  split at h
  · simp only [Option.bind_eq_some_iff] at h
    obtain ⟨⟨_, following⟩, _, h⟩ := h
    simp only at h
    split at h
    · split at h
      · cases h
      · cases h
        exact ⟨c, true, rfl⟩
    · cases h
      exact ⟨c, true, rfl⟩
  · cases h
    exact ⟨c, _, rfl⟩

/-- A leaf that is a word is taken as one. -/
theorem takeWord_of_takeLeaf {text rest : List Char} {word : String}
    (h : takeLeaf text = some (.word word, rest)) :
    ∃ characters, takeWord text = some (characters, rest) ∧ word = String.ofList characters := by
  unfold takeLeaf at h
  split at h
  · cases h
  · cases hpunct : takePunctToken text with
    | some result =>
        rw [hpunct] at h
        cases h
        obtain ⟨c, joint, hsame⟩ := exists_punct_of_takePunctToken hpunct
        cases hsame
    | none =>
        simp only [hpunct] at h
        split at h
        · cases h
        · obtain ⟨⟨characters, after⟩, htake, hsame⟩ := Option.map_eq_some_iff.1 h
          cases hsame
          exact ⟨characters, htake, rfl⟩

/-! ## Texts without separators -/

section Solid

variable {c : Char} (hc : isSeparator c = false)
include hc

theorem ne_slash_of_isSeparator : c ≠ '/' := by
  rintro rfl
  exact absurd hc (by decide)

theorem isBlank_of_isSeparator : isBlank c = false := by
  unfold isSeparator at hc
  simp only [Bool.or_eq_false_iff] at hc
  exact hc.1.1.1.1

/-- Text that begins with no separator has no blanks to skip. -/
theorem skipBlanks_cons (fuel : Nat) (rest : List Char) : skipBlanks fuel (c :: rest) = c :: rest := by
  have hslash := ne_slash_of_isSeparator hc
  cases fuel with
  | zero => rfl
  | succ fuel =>
      have hline : beginsLineComment (c :: rest) = false := by
        simp [beginsLineComment, hslash.symm]
      have hblock : beginsBlockComment (c :: rest) = false := by
        simp [beginsBlockComment, hslash.symm]
      simp [skipBlanks, hline, hblock, isBlank_of_isSeparator hc]

/-- Text that begins with no separator begins with a leaf. -/
theorem takeLexemes_cons (rest : List Char) :
    takeLexemes (c :: rest) =
      (takeLeaf (c :: rest)).map fun (token, after) => ([.leaf token], after) := by
  have hslash := ne_slash_of_isSeparator hc
  have hdoc : takeDocComment (c :: rest) = none := by
    simp [takeDocComment, hslash.symm]
  have hopening : openingDelimiter? c = none := by
    unfold isSeparator at hc
    simp only [Bool.or_eq_false_iff] at hc
    simpa using hc.1.1.2
  have hclosing : closingDelimiter? c = none := by
    unfold isSeparator at hc
    simp only [Bool.or_eq_false_iff] at hc
    simpa using hc.1.2
  simp [takeLexemes, hdoc, hopening, hclosing]

/-- The lexemes of text that begins with no separator: a leaf, and those of what follows it. -/
theorem lexemes_cons {fuel : Nat} {rest : List Char} {found : List Lexeme}
    (h : lexemes fuel (c :: rest) = some found) :
    ∃ token after fewer more, takeLeaf (c :: rest) = some (token, after) ∧
      lexemes fewer after = some more ∧ found = .leaf token :: more := by
  unfold lexemes at h
  rw [skipBlanks_cons hc] at h
  cases fuel with
  | zero => cases h
  | succ fuel =>
      simp only [takeLexemes_cons hc, Option.bind_eq_bind, Option.bind_eq_some_iff] at h
      obtain ⟨⟨first, after⟩, hfirst, more, hmore, hfound⟩ := h
      obtain ⟨⟨token, rest⟩, hleaf, hsame⟩ := Option.map_eq_some_iff.1 hfirst
      cases hsame
      cases hfound
      exact ⟨token, rest, fuel, more, hleaf, hmore, rfl⟩

end Solid

theorem eq_of_identifierOfTokens {tokens : List Token} {name : String}
    (h : identifierOfTokens tokens = .ok name) : tokens = [.word name] := by
  unfold identifierOfTokens at h
  split at h
  · cases h
  · split at h
    · cases h
    · split at h
      · next hrest =>
          cases h
          rw [List.isEmpty_iff.1 hrest]
      · cases h
  · cases h

/-- Text without separators is the word it spells. -/
theorem eq_of_identifier {text name : String} (h : identifier text = .ok name)
    (htext : ∀ c ∈ text.toList, isSeparator c = false) : name = text := by
  unfold identifier at h
  split at h
  · cases h
  · next tokens htokens =>
      rw [eq_of_identifierOfTokens h] at htokens
      cases hcharacters : text.toList with
      | nil =>
          rw [tokens?, hcharacters] at htokens
          cases htokens
      | cons c rest =>
          rw [hcharacters] at htext
          have hfirst := htext c List.mem_cons_self
          have hmark : c.toNat ≠ 0xFEFF := by
            unfold isSeparator at hfirst
            simp only [Bool.or_eq_false_iff, decide_eq_false_iff_not] at hfirst
            exact hfirst.2
          simp only [tokens?, hcharacters, if_neg hmark, Option.bind_eq_bind,
            Option.bind_eq_some_iff] at htokens
          obtain ⟨found, hfound, hmatched⟩ := htokens
          obtain ⟨token, after, fewer, more, hleaf, hmore, rfl⟩ := lexemes_cons hfirst hfound
          obtain ⟨rfl, rfl⟩ := eq_of_matchBrackets_leaf hmatched
          obtain ⟨characters, hword, rfl⟩ := takeWord_of_takeLeaf hleaf
          have happend := takeWord_append hword
          -- What follows the word would begin with another leaf.
          cases after with
          | nil =>
              rw [List.append_nil] at happend
              rw [happend, ← hcharacters, String.ofList_toList]
          | cons next after =>
              have hnext : isSeparator next = false := by
                refine htext next ?_
                rw [← happend]
                exact List.mem_append_right _ List.mem_cons_self
              obtain ⟨_, _, _, _, _, _, hcontra⟩ := lexemes_cons hnext hmore
              cases hcontra

end CustomResource.Source
