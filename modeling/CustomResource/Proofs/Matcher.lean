import CustomResource.Matcher
import CustomResource.Proofs.Path

/-!
# What matchers select

A matcher compares its dot-separated segments with those of a path.  `Matcher.Selects` says which paths the
text of a matcher selects, without reading it from left to right, and `accepts_ofText_iff` says that a matcher
that has been read accepts exactly those.

A matcher that begins with a dot selects everything below what it selects: the fields of a message and the types
declared inside it, see `Selects.append` and `QualifiedName.path_join`.
-/

namespace CustomResource

namespace Matcher

/-! ## Segments -/

/-- The dot-separated segments of a text.  There is always one, and any of them may be empty. -/
structure HasSegments (text : String) (segments : List String) : Prop where
  text_eq : text = pathText segments
  ne_nil : segments ≠ []
  dotless : ∀ segment ∈ segments, '.' ∉ segment.toList

/-- The parts of a text are its segments, and it has no others. -/
theorem hasSegments_iff {text : String} {segments : List String} :
    HasSegments text segments ↔ parts text.toList = segments := by
  constructor
  · rintro ⟨rfl, hne, hdotless⟩
    have hmap : segments.map String.toList ≠ [] := by simpa using hne
    have hparts : ∀ part ∈ segments.map String.toList, '.' ∉ part := by simpa using hdotless
    rw [parts, toList_pathText, List.splitOn_intercalate '.' hparts hmap, List.map_map]
    simp [Function.comp_def]
  · rintro rfl
    refine ⟨?_, ?_, ?_⟩
    · rw [← String.toList_inj, toList_pathText, parts, List.map_map]
      simp [Function.comp_def, List.intercalate_splitOn]
    · simp [parts, List.splitOn_eq_splitOnP, List.splitOnP_ne_nil]
    · intro segment hsegment
      obtain ⟨part, hpart, rfl⟩ := List.mem_map.1 hsegment
      simpa using QualifiedName.not_mem_of_mem_splitOn hpart

/-! ## Selection -/

/-- The paths that the text of a matcher selects.  A lone dot selects every path.  A dot before other text asks
for a path that begins with the segments of that text, and a text without a dot in front for a path that ends
with its own.  The empty text selects nothing. -/
inductive Selects : String → List String → Prop
  | everything (path : List String) : Selects "." path
  | leading {text : String} {segments path : List String} (htext : text ≠ "")
      (hsegments : HasSegments text segments) (hpath : segments <+: path) : Selects ("." ++ text) path
  | trailing {text : String} {segments path : List String} (htext : text ≠ "")
      (hdot : text.toList.head? ≠ some '.') (hsegments : HasSegments text segments)
      (hpath : segments <:+ path) : Selects text path

theorem ofText_leading {text : String} (h : text ≠ "") :
    ofText ("." ++ text) = .leading (parts text.toList) := by
  have hlist : text.toList ≠ [] := by simpa using h
  obtain ⟨first, rest, hcharacters⟩ := List.exists_cons_of_ne_nil hlist
  have hdotted : ("." ++ text).toList = '.' :: first :: rest := by
    rw [String.toList_append, hcharacters]
    rfl
  rw [ofText, hdotted, hcharacters]
  rfl

theorem ofText_trailing {text : String} (h : text ≠ "") (hdot : text.toList.head? ≠ some '.') :
    ofText text = .trailing (parts text.toList) := by
  unfold ofText
  split
  · next hnil => exact absurd (String.toList_eq_nil_iff.1 hnil) h
  · next hlone =>
      rw [hlone] at hdot
      exact absurd rfl hdot
  · next rest _ hcharacters =>
      rw [hcharacters] at hdot
      exact absurd rfl hdot
  · rfl

/-- Text that begins with a dot is a dot and other text. -/
theorem eq_dot_append {text : String} (h : text.toList.head? = some '.') :
    ∃ rest, text = "." ++ rest := by
  obtain ⟨rest, hcharacters⟩ := List.head?_eq_some_iff.1 h
  refine ⟨String.ofList rest, ?_⟩
  rw [← String.toList_inj, hcharacters, String.toList_append, String.toList_ofList]
  simp

/-- A matcher accepts exactly the paths that its text selects. -/
theorem accepts_ofText_iff {text : String} {path : List String} :
    (ofText text).accepts path = true ↔ Selects text path := by
  constructor
  · intro h
    by_cases hempty : text = ""
    · subst hempty
      cases h
    · by_cases hdot : text.toList.head? = some '.'
      · obtain ⟨rest, rfl⟩ := eq_dot_append hdot
        by_cases hrest : rest = ""
        · subst hrest
          exact .everything path
        · rw [ofText_leading hrest] at h
          exact .leading hrest (hasSegments_iff.2 rfl) (List.isPrefixOf_iff_prefix.1 h)
      · rw [ofText_trailing hempty hdot] at h
        exact .trailing hempty hdot (hasSegments_iff.2 rfl) (List.isSuffixOf_iff_suffix.1 h)
  · intro h
    cases h with
    | everything => rfl
    | leading htext hsegments hpath =>
        rw [ofText_leading htext, hasSegments_iff.1 hsegments]
        exact List.isPrefixOf_iff_prefix.2 hpath
    | trailing htext hdot hsegments hpath =>
        rw [ofText_trailing htext hdot, hasSegments_iff.1 hsegments]
        exact List.isSuffixOf_iff_suffix.2 hpath

instance (text : String) (path : List String) : Decidable (Selects text path) :=
  decidable_of_iff _ accepts_ofText_iff

example : Selects ".a.b" ["a", "b", "C"] ∧ Selects "b.C" ["a", "b", "C"] ∧ ¬ Selects "C" ["a", "b", "BC"] := by
  decide

/-! ## Below a path -/

/-- What a matcher with a dot in front selects, it selects with more segments behind. -/
theorem Selects.append {text : String} {path : List String} (h : Selects ("." ++ text) path)
    (more : List String) : Selects ("." ++ text) (path ++ more) := by
  rw [← accepts_ofText_iff] at h ⊢
  by_cases htext : text = ""
  · subst htext
    rfl
  · rw [ofText_leading htext] at h ⊢
    have hpath : parts text.toList <+: path := List.isPrefixOf_iff_prefix.1 h
    exact List.isPrefixOf_iff_prefix.2 (hpath.trans (List.prefix_append path more))

end Matcher

end CustomResource
