import CustomResource.Unicode.Alphanumeric
import CustomResource.Unicode.CaseMapping

/-!
# Characters that break words

Blanks, brackets, punctuation and control characters break words: none of them is a letter or a digit, and no
conversion of case yields one.  Both are facts about tables, and a table of ranges is kept apart from another
by comparing ends, see `apart`.
-/

namespace CustomResource.Unicode

/-! ## Ranges -/

/-- Whether no range of one table meets a range of another. -/
def apart (first second : List (Nat × Nat)) : Bool :=
  first.all fun range => second.all fun other => range.2 < other.1 || other.2 < range.1

theorem not_inRanges_of_apart {first second : List (Nat × Nat)} (h : apart first second = true)
    {c : Char} (hc : inRanges first c = true) : inRanges second c = false := by
  rw [← Bool.not_eq_true]
  intro hother
  simp only [inRanges, List.any_eq_true, Bool.and_eq_true, decide_eq_true_eq] at hc hother
  obtain ⟨range, hrange, hlow, hhigh⟩ := hc
  obtain ⟨other, hmem, hother⟩ := hother
  have hapart := List.all_eq_true.1 (List.all_eq_true.1 h range hrange) other hmem
  simp only [Bool.or_eq_true, decide_eq_true_eq] at hapart
  omega

/-- The ranges of the images of a case mapping. -/
def images (ranges : List (Nat × Nat × Nat × Nat)) : List (Nat × Nat) :=
  ranges.map fun (first, last, _, image) => (image, image + (last - first))

/-- A number that is no character stands for the first character. -/
theorem toNat_ofNat_eq_or (n : Nat) : (Char.ofNat n).toNat = n ∨ (Char.ofNat n).toNat = 0 := by
  by_cases hvalid : n.isValidChar
  · rw [Char.ofNat, dif_pos hvalid]
    exact Or.inl rfl
  · rw [Char.ofNat, dif_neg hvalid]
    exact Or.inr rfl

/-- A case mapping leads into its images, to the first character, or nowhere. -/
theorem mapThrough_cases (ranges : List (Nat × Nat × Nat × Nat)) (c : Char) :
    mapThrough ranges c = c ∨ inRanges (images ranges) (mapThrough ranges c) = true ∨
      (mapThrough ranges c).toNat = 0 := by
  unfold mapThrough
  simp only
  split
  · next first last step image hfound =>
      have hmem := List.mem_of_find?_eq_some hfound
      have hrange := List.find?_some hfound
      simp only [Bool.and_eq_true, decide_eq_true_eq] at hrange
      -- Steps play no part: the image of a range holds those of all its members.
      rcases toNat_ofNat_eq_or (image + (c.toNat - first)) with hvalid | hinvalid
      · refine Or.inr (Or.inl ?_)
        simp only [inRanges, List.any_eq_true, Bool.and_eq_true, decide_eq_true_eq]
        refine ⟨(image, image + (last - first)), List.mem_map.2 ⟨_, hmem, rfl⟩, ?_⟩
        rw [hvalid]
        omega
      · exact Or.inr (Or.inr hinvalid)
  · exact Or.inl rfl

/-! ## Breaks -/

/-- Control characters, blanks, brackets and punctuation.  The first character, which stands for numbers that
are no characters, is not among them. -/
def breakRanges : List (Nat × Nat) :=
  [(0x01, 0x2F), (0x3A, 0x40), (0x5B, 0x60), (0x7B, 0x7F), (0x85, 0x85), (0xA0, 0xA0), (0x1680, 0x1680),
    (0x2000, 0x200A), (0x200E, 0x200F), (0x2028, 0x2029), (0x202F, 0x202F), (0x205F, 0x205F),
    (0x3000, 0x3000), (0xFEFF, 0xFEFF)]

/-- Whether a character breaks words. -/
def isBreak (c : Char) : Bool :=
  inRanges breakRanges c

theorem isBreak_of_toNat_eq_zero {c : Char} (h : c.toNat = 0) : isBreak c = false := by
  simp [isBreak, inRanges, breakRanges, h]

/-- What holds of all ASCII characters by inspection. -/
theorem forall_ascii {P : Char → Prop} (h : ∀ n : Fin 128, P (Char.ofNat n)) {c : Char}
    (hc : c.toNat < 128) : P c := by
  have hchar := h ⟨c.toNat, hc⟩
  rwa [Char.ofNat_toNat] at hchar

/-- Letters and digits break no words. -/
theorem isBreak_of_isAlphanumeric {c : Char} (h : isAlphanumeric c = true) : isBreak c = false := by
  unfold isAlphanumeric at h
  split at h
  · next hascii =>
      refine forall_ascii (P := fun c => c.isAlphanum = true → isBreak c = false) ?_ hascii h
      decide +kernel
  · exact not_inRanges_of_apart (by decide +kernel : apart alphanumericRanges breakRanges = true) h

theorem isBreak_mapThrough {ranges : List (Nat × Nat × Nat × Nat)}
    (h : apart (images ranges) breakRanges = true) {c : Char} (hc : isBreak c = false) :
    isBreak (mapThrough ranges c) = false := by
  rcases mapThrough_cases ranges c with hsame | himage | hzero
  · rw [hsame]
    exact hc
  · exact not_inRanges_of_apart h himage
  · exact isBreak_of_toNat_eq_zero hzero

/-- Lower case adds no breaks. -/
theorem isBreak_of_mem_toLowercase {c d : Char} (hc : isBreak c = false) (hd : d ∈ toLowercase c) :
    isBreak d = false := by
  unfold toLowercase at hd
  split at hd
  · next hascii =>
      rw [List.mem_singleton.1 hd]
      refine forall_ascii (P := fun c => isBreak c = false → isBreak c.toLower = false) ?_ hascii hc
      decide +kernel
  · split at hd
    · rw [List.mem_cons, List.mem_singleton] at hd
      rcases hd with rfl | rfl
      · decide
      · decide
    · rw [List.mem_singleton.1 hd]
      exact isBreak_mapThrough
        (by decide +kernel : apart (images toLowerRanges) breakRanges = true) hc

/-- Upper case adds no breaks. -/
theorem isBreak_of_mem_toUppercase {c d : Char} (hc : isBreak c = false) (hd : d ∈ toUppercase c) :
    isBreak d = false := by
  unfold toUppercase at hd
  split at hd
  · next hascii =>
      rw [List.mem_singleton.1 hd]
      refine forall_ascii (P := fun c => isBreak c = false → isBreak c.toUpper = false) ?_ hascii hc
      decide +kernel
  · split at hd
    · next codes hcodes =>
        have hall : ∀ entry ∈ toUpperExpansions, ∀ code ∈ entry.2,
            isBreak (Char.ofNat code) = false := by
          decide +kernel
        obtain ⟨code, hcode, rfl⟩ := List.mem_map.1 hd
        obtain ⟨before, after, hentry, _⟩ := List.lookup_eq_some_iff.1 hcodes
        refine hall (c.toNat, codes) ?_ code hcode
        rw [hentry]
        exact List.mem_append_right _ List.mem_cons_self
    · rw [List.mem_singleton.1 hd]
      exact isBreak_mapThrough
        (by decide +kernel : apart (images toUpperRanges) breakRanges = true) hc

/-! ## Capitals -/

/-- The upper-case form of a character holds no lower-case letter of ASCII. -/
theorem isLower_of_mem_toUppercase {c d : Char} (hd : d ∈ toUppercase c) : d.isLower = false := by
  have hrange : ∀ e : Char, inRanges [(0x61, 0x7A)] e = false → e.isLower = false := by
    intro e he
    simp only [inRanges, List.any_cons, List.any_nil, Bool.or_false, Bool.and_eq_false_iff,
      decide_eq_false_iff_not] at he
    have hlower : e.isLower = (decide (e.val ≥ 'a'.val) && decide (e.val ≤ 'z'.val)) := rfl
    rw [← Bool.not_eq_true, hlower, Bool.and_eq_true, decide_eq_true_eq, decide_eq_true_eq]
    rintro ⟨hlow, hhigh⟩
    have hlow : 0x61 ≤ e.toNat := hlow
    have hhigh : e.toNat ≤ 0x7A := hhigh
    omega
  unfold toUppercase at hd
  split at hd
  · next hascii =>
      rw [List.mem_singleton.1 hd]
      refine forall_ascii (P := fun c => c.toUpper.isLower = false) ?_ hascii
      decide +kernel
  · next hascii =>
      split at hd
      · next codes hcodes =>
          have hall : ∀ entry ∈ toUpperExpansions, ∀ code ∈ entry.2,
              (Char.ofNat code).isLower = false := by
            decide +kernel
          obtain ⟨code, hcode, rfl⟩ := List.mem_map.1 hd
          obtain ⟨before, after, hentry, _⟩ := List.lookup_eq_some_iff.1 hcodes
          refine hall (c.toNat, codes) ?_ code hcode
          rw [hentry]
          exact List.mem_append_right _ List.mem_cons_self
      · rw [List.mem_singleton.1 hd]
        refine hrange _ ?_
        rcases mapThrough_cases toUpperRanges c with hsame | himage | hzero
        · rw [hsame]
          simp only [inRanges, List.any_cons, List.any_nil, Bool.or_false, Bool.and_eq_false_iff,
            decide_eq_false_iff_not]
          omega
        · exact not_inRanges_of_apart
            (by decide +kernel : apart (images toUpperRanges) [(0x61, 0x7A)] = true) himage
        · simp [inRanges, hzero]

end CustomResource.Unicode
