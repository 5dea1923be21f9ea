import CustomResource.Source.Literal
import CustomResource.Text.Quoted
import Mathlib.Data.Nat.Digits.Defs

/-!
# Reading back string literals

The value of a string literal is the text it was written for: `stringValue?_literal`.  Every character is read
back by one step of the reader, whether it stands for itself or is escaped.  An escape by code point has at most
six digits, as many as the reader takes.
-/

namespace CustomResource.Source

open Text

/-! ## Code points -/

theorem hexValue?_digitChar {digit : Nat} (h : digit < 16) : hexValue? digit.digitChar = some digit := by
  revert digit
  decide

theorem charOfCode?_toNat (c : Char) : charOfCode? c.toNat = some c := by
  have hvalid : c.toNat.isValidChar := c.valid
  rw [charOfCode?, if_pos hvalid, Char.ofNat_toNat]

/-- The digits of a number are read as the number, if they are few enough. -/
theorem readCodePoint_hexDigits {n : Nat} (h : (hexDigits n).length ≤ 6) (rest : List Char) :
    readCodePoint 0 0 (hexDigits n ++ rest) = readCodePoint n (hexDigits n).length rest := by
  -- The last digit is split off, as the reader multiplies what is before it.
  induction n using Nat.strong_induction_on generalizing rest with
  | _ n ih =>
    by_cases hsmall : n < 16
    · rw [hexDigits, Nat.toDigits_of_lt_base hsmall, List.singleton_append, readCodePoint,
        hexValue?_digitChar hsmall]
      simp
    · have hdigits : hexDigits n = hexDigits (n / 16) ++ [(n % 16).digitChar] :=
        Nat.toDigits_of_base_le (by decide) (Nat.le_of_not_lt hsmall)
      rw [hdigits, List.length_append, List.length_singleton] at h ⊢
      rw [List.append_assoc, ih (n / 16) (by omega) (by omega), List.singleton_append, readCodePoint,
        hexValue?_digitChar (Nat.mod_lt n (by decide))]
      dsimp only
      rw [if_neg (by omega), Nat.div_add_mod]

theorem length_hexDigits_toNat_le (c : Char) : (hexDigits c.toNat).length ≤ 6 := by
  rw [hexDigits, Nat.length_toDigits_le_iff (by decide) (by decide)]
  have hvalid : c.toNat.isValidChar := c.valid
  have hbound : c.toNat < 0x110000 := by
    rcases hvalid with h | ⟨-, h⟩ <;> omega
  exact hbound.trans (by decide)

theorem readEscape_codePoint (c : Char) (rest : List Char) :
    readEscape .text ('u' :: Char.ofNat 0x7B :: (hexDigits c.toNat ++ Char.ofNat 0x7D :: rest)) =
      some (c, rest) := by
  have hsome : (hexDigits c.toNat).length ≠ 0 := by
    simp [hexDigits]
  have hclose : readCodePoint c.toNat (hexDigits c.toNat).length (Char.ofNat 0x7D :: rest) = some (c, rest) := by
    rw [readCodePoint, show hexValue? (Char.ofNat 0x7D) = none by decide]
    dsimp only
    rw [if_neg hsome, if_neg (by decide), if_pos (by decide), charOfCode?_toNat]
    rfl
  rw [readEscape, readCodePoint_hexDigits (length_hexDigits_toNat_le c), hclose]
  rfl

/-! ## Characters -/

/-- What NUL is written as: the short escape, or the long one where a digit follows. -/
def IsNulEscape (nul : List Char) : Prop :=
  nul = ['\\', '0'] ∨ nul = ['\\', 'x', '0', '0']

section

variable {nul : List Char} (c : Char) (fuel : Nat) (rest : List Char)

/-- An escape is read in one step. -/
theorem readCooked_escape {escape : List Char} (hline : escape.head? ≠ some '\n')
    (hreturn : escape.head? ≠ some '\r') (h : readEscape .text escape = some (c, rest)) :
    readCooked .text (fuel + 1) ('\\' :: escape) =
      (readCooked .text fuel rest).map fun (value, rest) => (c :: value, rest) := by
  rw [readCooked, if_neg (by decide), if_neg (by decide), if_pos rfl]
  · simp only [h, Option.bind_eq_bind, Option.bind_some]
    cases readCooked .text fuel rest <;> rfl
  -- The two cases that come first are lines that go on behind a backslash.
  · rintro _ rfl
    exact hline rfl
  · rintro _ rfl
    exact hreturn rfl

theorem readCooked_escapeChar (hnul : IsNulEscape nul) :
    readCooked .text (fuel + 1) (escapeChar nul c ++ rest) =
      (readCooked .text fuel rest).map fun (value, rest) => (c :: value, rest) := by
  fun_cases escapeChar nul c with
  | case1 hzero =>
      have hc : Char.ofNat 0 = c := by rw [← hzero, Char.ofNat_toNat]
      rcases hnul with rfl | rfl
      · exact readCooked_escape c fuel rest nofun nofun (by rw [← hc]; rfl)
      · exact readCooked_escape c fuel rest nofun nofun (by rw [← hc]; rfl)
  | case2 _ htab => exact readCooked_escape c fuel rest nofun nofun (by rw [htab]; rfl)
  | case3 _ _ hreturn => exact readCooked_escape c fuel rest nofun nofun (by rw [hreturn]; rfl)
  | case4 _ _ _ hline => exact readCooked_escape c fuel rest nofun nofun (by rw [hline]; rfl)
  | case5 _ _ _ _ hquote => exact readCooked_escape c fuel rest nofun nofun (by rw [hquote]; rfl)
  | case6 _ _ _ _ _ hslash => exact readCooked_escape c fuel rest nofun nofun (by rw [hslash]; rfl)
  | case7 =>
      rw [List.append_assoc, List.append_assoc]
      exact readCooked_escape c fuel rest nofun nofun (readEscape_codePoint c rest)
  | case8 _ _ hreturn _ hquote hslash _ =>
      conv_lhs => rw [List.singleton_append]; unfold readCooked
      rw [if_neg hquote, if_neg hreturn, if_neg hslash]
      exact if_pos rfl

end

/-! ## Literals -/

/-- What is written for the first character of a text, with what is written for the rest behind it. -/
theorem exists_escapeLiteral_cons (c : Char) (rest : List Char) :
    ∃ nul, IsNulEscape nul ∧ escapeLiteral (c :: rest) = escapeChar nul c ++ escapeLiteral rest := by
  refine ⟨_, ?_, rfl⟩
  split
  · split
    · exact Or.inr rfl
    · exact Or.inl rfl
  · exact Or.inl rfl

theorem escapeChar_ne_nil {nul : List Char} (hnul : IsNulEscape nul) (c : Char) : escapeChar nul c ≠ [] := by
  fun_cases escapeChar nul c with
  | case1 => rcases hnul with rfl | rfl <;> exact nofun
  | _ => exact nofun

theorem length_le_length_escapeLiteral (value : List Char) : value.length ≤ (escapeLiteral value).length := by
  induction value with
  | nil => exact Nat.zero_le _
  | cons c rest ih =>
      obtain ⟨nul, hnul, hcons⟩ := exists_escapeLiteral_cons c rest
      have hpos := List.length_pos_iff.2 (escapeChar_ne_nil hnul c)
      rw [hcons, List.length_append, List.length_cons]
      omega

/-- The body of a literal is read back up to its quote, with a step for each character and one for the quote. -/
theorem readCooked_escapeLiteral (value rest : List Char) {fuel : Nat} (h : value.length < fuel) :
    readCooked .text fuel (escapeLiteral value ++ '"' :: rest) = some (value, rest) := by
  induction value generalizing fuel with
  | nil =>
      obtain ⟨fuel, rfl⟩ := Nat.exists_eq_add_one_of_ne_zero (Nat.ne_of_gt h)
      rfl
  | cons c others ih =>
      obtain ⟨fuel, rfl⟩ := Nat.exists_eq_add_one_of_ne_zero (Nat.ne_of_gt (Nat.zero_lt_of_lt h))
      obtain ⟨nul, hnul, hcons⟩ := exists_escapeLiteral_cons c others
      rw [hcons, List.append_assoc, readCooked_escapeChar c fuel _ hnul, ih (Nat.lt_of_succ_lt_succ h)]
      rfl

/-- The value of a literal is the text that it was written for. -/
@[simp] theorem stringValue?_literal (value : String) : stringValue? (literal value) = some value := by
  have hfuel : value.toList.length < (escapeLiteral value.toList ++ ['"']).length := by
    have hlength := length_le_length_escapeLiteral value.toList
    rw [List.length_append, List.length_singleton]
    omega
  rw [stringValue?, literal, String.toList_ofList, List.cons_append, readString,
    readCooked_escapeLiteral value.toList [] hfuel]
  show some (String.ofList value.toList) = some value
  rw [String.ofList_toList]

end CustomResource.Source
