import CustomResource.Proofs.Source.Identifier
import CustomResource.Proofs.Text.Plain
import Mathlib.Data.List.TakeWhile

/-!
# Plain words

A plain name that is no reserved word is an identifier.  No literal begins with it, as those that begin with a
letter go on with a quote or a hash, and nothing in it ends the word.
-/

namespace CustomResource.Source

open Text

/-! ## No literals -/

/-- Word parts are none of the characters that make literals, and identifiers go on with them. -/
theorem syntax_of_isWordPart {c : Char} (h : isWordPart c = true) :
    c ≠ '#' ∧ c ≠ '"' ∧ c.toNat ≠ 0x27 ∧ Unicode.isIdentifierContinue c = true := by
  refine Unicode.forall_ascii (P := fun c => isWordPart c = true →
    c ≠ '#' ∧ c ≠ '"' ∧ c.toNat ≠ 0x27 ∧ Unicode.isIdentifierContinue c = true) ?_
    (toNat_lt_of_isWordPart h) h
  decide +kernel

/-- Letters begin identifiers, and neither numbers nor punctuation. -/
theorem syntax_of_isWordStart {c : Char} (h : isWordStart c = true) :
    isSeparator c = false ∧ Unicode.isIdentifierStart c = true ∧ isDigit c = false ∧ c ≠ '_' ∧
      (hexValue? c).all (10 ≤ ·) = true ∧ "~!@#$%^&*-=+|;:,<.>/?\x27".toList.contains c = false := by
  refine Unicode.forall_ascii (P := fun c => isWordStart c = true →
    isSeparator c = false ∧ Unicode.isIdentifierStart c = true ∧ isDigit c = false ∧ c ≠ '_' ∧
      (hexValue? c).all (10 ≤ ·) = true ∧ "~!@#$%^&*-=+|;:,<.>/?\x27".toList.contains c = false) ?_
    (toNat_lt_of_isWordPart (case_of_isWordStart h).1) h
  decide +kernel

section

variable {rest : List Char} (hrest : ∀ d ∈ rest, isWordPart d = true)
include hrest

theorem readRaw_eq_none (quotation : Quotation) : readRaw quotation rest = none := by
  cases rest with
  | nil => rfl
  | cons d others =>
      obtain ⟨hhash, hquote, -⟩ := syntax_of_isWordPart (hrest d List.mem_cons_self)
      have hdrop : (d :: others).dropWhile (· == '#') = d :: others :=
        List.dropWhile_cons_of_neg (by simpa using hhash)
      rw [readRaw, hdrop]
      split
      · next heq => exact absurd (List.cons.inj heq).1 hquote
      · rfl

theorem afterQuote_eq_none : afterQuote rest = none := by
  cases rest with
  | nil => rfl
  | cons d others => exact if_neg (syntax_of_isWordPart (hrest d List.mem_cons_self)).2.2.1

end

section

variable {c : Char} {rest : List Char} (hc : isWordStart c = true)
  (hrest : ∀ d ∈ rest, isWordPart d = true)
include hc hrest

theorem readString_eq_none : readString (c :: rest) = none := by
  unfold readString
  split
  · next heq =>
      cases heq
      exact absurd hc (by decide)
  · next heq =>
      cases heq
      exact readRaw_eq_none hrest _
  · rfl

theorem readByteString_eq_none : readByteString (c :: rest) = none := by
  unfold readByteString
  split
  · next heq =>
      cases heq
      exact absurd (hrest '"' List.mem_cons_self) (by decide)
  · next heq =>
      cases heq
      exact readRaw_eq_none (fun d hd => hrest d (List.mem_cons_of_mem _ hd)) _
  · rfl

theorem readTerminatedString_eq_none : readTerminatedString (c :: rest) = none := by
  unfold readTerminatedString
  split
  · next heq =>
      cases heq
      exact absurd (hrest '"' List.mem_cons_self) (by decide)
  · next heq =>
      cases heq
      exact readRaw_eq_none (fun d hd => hrest d (List.mem_cons_of_mem _ hd)) _
  · rfl

theorem readByte_eq_none : readByte (c :: rest) = none := by
  unfold readByte
  split
  · next heq =>
      cases heq
      rw [afterQuote_eq_none hrest]
      rfl
  · rfl

theorem readCharacter_eq_none : readCharacter (c :: rest) = none := by
  have hall : ∀ d ∈ c :: rest, isWordPart d = true :=
    List.forall_mem_cons.2 ⟨(case_of_isWordStart hc).1, hrest⟩
  rw [readCharacter, afterQuote_eq_none hall]
  rfl

omit hrest in
theorem readFloat_eq_none : readFloat (c :: rest) = none := by
  have hdigit := (syntax_of_isWordStart hc).2.2.1
  simp [readFloat, readFloatDigits, hdigit]

omit hrest in
theorem readInteger_eq_none : readInteger (c :: rest) = none := by
  obtain ⟨-, -, hdigit, hunderscore, hvalue, -⟩ := syntax_of_isWordStart hc
  have hzero : c ≠ '0' := by
    rintro rfl
    exact absurd hdigit (by decide)
  have hdigits : readDigits 10 true (c :: rest) = none := by
    rw [readDigits, if_neg hunderscore]
    cases hhex : hexValue? c with
    | none => rfl
    | some digit =>
        have hlarge : ¬ digit < 10 := by
          rw [hhex] at hvalue
          simpa using hvalue
        simp [hlarge, hdigit]
  unfold readInteger
  simp [hzero, hdigits]

/-- No literal begins like a plain name. -/
theorem afterLiteral_eq_none : afterLiteral (c :: rest) = none := by
  simp [afterLiteral, readString_eq_none hc hrest, readByteString_eq_none hc hrest,
    readTerminatedString_eq_none hc hrest, readByte_eq_none hc hrest, readCharacter_eq_none hc hrest,
    readFloat_eq_none hc, readInteger_eq_none hc]

/-! ## One word -/

theorem takeWord_of_isPlain : takeWord (c :: rest) = some (c :: rest, []) := by
  have hcontinue : ∀ d ∈ rest, Unicode.isIdentifierContinue d = true :=
    fun d hd => (syntax_of_isWordPart (hrest d hd)).2.2.2
  have hidentifier : takeIdentifier (c :: rest) = some (c :: rest, []) := by
    rw [takeIdentifier, if_pos (syntax_of_isWordStart hc).2.1, List.takeWhile_eq_self_iff.2 hcontinue,
      List.dropWhile_eq_nil_iff.2 hcontinue]
  unfold takeWord
  split
  · next heq =>
      cases heq
      exact absurd (hrest '#' List.mem_cons_self) (by decide)
  · exact hidentifier

omit hrest in
theorem takePunctToken_eq_none : takePunctToken (c :: rest) = none := by
  obtain ⟨hseparator, -, -, -, -, hpunct⟩ := syntax_of_isWordStart hc
  have hslash := ne_slash_of_isSeparator hseparator
  have hnone : takePunct (c :: rest) = none := by
    simp only [takePunct, hpunct]
    simp
  simp [takePunctToken, hnone]

theorem quotedBeginnings_of_isPlain : quotedBeginnings.any (·.isPrefixOf (c :: rest)) = false := by
  have hquoted : ∀ beginning ∈ quotedBeginnings, beginning.all isWordPart = false := by decide
  rw [List.any_eq_false]
  intro beginning hbeginning hprefix
  have hparts : beginning.all isWordPart = true := by
    rw [List.all_eq_true]
    intro d hd
    rcases List.mem_cons.1 ((List.isPrefixOf_iff_prefix.1 hprefix).subset hd) with rfl | hmem
    · exact (case_of_isWordStart hc).1
    · exact hrest d hmem
  rw [hquoted beginning hbeginning] at hparts
  cases hparts

/-- A plain name is one word. -/
theorem takeLeaf_of_isPlain : takeLeaf (c :: rest) = some (.word (String.ofList (c :: rest)), []) := by
  simp [takeLeaf, afterLiteral_eq_none hc hrest, takePunctToken_eq_none hc,
    quotedBeginnings_of_isPlain hc hrest, takeWord_of_isPlain hc hrest]

theorem lexemes_of_isPlain (fuel : Nat) :
    lexemes (fuel + 1) (c :: rest) = some [.leaf (.word (String.ofList (c :: rest)))] := by
  have hseparator := (syntax_of_isWordStart hc).1
  have hend : lexemes fuel [] = some [] := by
    unfold lexemes
    rfl
  unfold lexemes
  rw [skipBlanks_cons hseparator]
  simp [takeLexemes_cons hseparator, takeLeaf_of_isPlain hc hrest, hend]

end

/-- A plain name that is no reserved word is an identifier. -/
theorem identifier_of_isPlain {text : String} (h : isPlain text.toList = true)
    (hreserved : text ∉ reservedWords) : identifier text = .ok text := by
  obtain ⟨⟨c, rest, hcharacters, hc⟩, hall⟩ := isPlain_iff.1 h
  rw [hcharacters] at hall
  have hrest := (List.forall_mem_cons.1 hall).2
  have hmark : c.toNat ≠ 0xFEFF := by
    have hascii := toNat_lt_of_isWordPart (hall c List.mem_cons_self)
    omega
  have htokens : tokens? text = some [.word text] := by
    simp only [tokens?, hcharacters, if_neg hmark]
    rw [List.length_cons, lexemes_of_isPlain hc hrest, ← hcharacters, String.ofList_toList]
    rfl
  rw [identifier, htokens]
  simp [identifierOfTokens, hreserved]

end CustomResource.Source
