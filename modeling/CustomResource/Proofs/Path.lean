import CustomResource.Proofs.QualifiedName
import CustomResource.Proofs.Text.Words

/-!
# Names as paths

A full name is the text of a path: the segments of a package, the names of the messages around a declaration
and its own name, joined by dots.  As long as no segment is empty or holds a dot, the text tells the path
(`pathText_inj`), joining a name puts it at the end of the path (`text_join`), and a reference to the text
means it, however many dots stand before it (`text_ofReference_dots`).

Of the segments all this holds without a condition: dots only divide them (`segments_append_dot`), so a name
made from any parts has the segments of its parts in a row (`path_ofParts`, `path_join`).
-/

namespace CustomResource

/-- A name that can be a segment of a path. -/
def IsSegment (name : String) : Prop :=
  name ≠ "" ∧ '.' ∉ name.toList

instance : DecidablePred IsSegment :=
  fun _ => inferInstanceAs (Decidable (_ ∧ _))

/-- The text of a path: its segments, joined by dots. -/
def pathText (path : List String) : String :=
  ".".intercalate path

/-- The path of a package: its non-empty segments. -/
def packagePath (package : String) : List String :=
  (QualifiedName.segments package.toList).map String.ofList

namespace QualifiedName

/-! ## Segments -/

theorem not_mem_of_mem_splitOn {text part : List Char} (h : part ∈ text.splitOn '.') : '.' ∉ part := by
  intro hdot
  rw [List.splitOn_eq_splitOnP] at h
  have hplain := (Text.mem_of_mem_splitOnP h '.' hdot).1
  rw [beq_self_eq_true] at hplain
  cases hplain

theorem mem_segments {text segment : List Char} (h : segment ∈ segments text) :
    segment ≠ [] ∧ '.' ∉ segment := by
  obtain ⟨hmem, hne⟩ := List.mem_filter.1 h
  exact ⟨by simpa using hne, not_mem_of_mem_splitOn hmem⟩

/-- Segments are read back from their joined text. -/
theorem segments_intercalate {parts : List (List Char)}
    (h : ∀ part ∈ parts, part ≠ [] ∧ '.' ∉ part) : segments (['.'].intercalate parts) = parts := by
  cases parts with
  | nil => rfl
  | cons first rest =>
      rw [segments, List.splitOn_intercalate '.' (fun part hpart => (h part hpart).2)
        (List.cons_ne_nil _ _), List.filter_eq_self]
      intro part hpart
      simpa using (h part hpart).1

/-- A dot between two texts keeps their segments apart. -/
theorem segments_append_dot (first second : List Char) :
    segments (first ++ '.' :: second) = segments first ++ segments second := by
  have hsplit : (first ++ '.' :: second).splitOn '.' = first.splitOn '.' ++ second.splitOn '.' := by
    simp only [List.splitOn_eq_splitOnP]
    exact List.splitOnP_append_cons first second (beq_self_eq_true '.')
  rw [segments, hsplit, List.filter_append]
  rfl

theorem segments_cons_dot (text : List Char) : segments ('.' :: text) = segments text :=
  segments_append_dot [] text

theorem segments_concat_dot (text : List Char) : segments (text ++ ['.']) = segments text :=
  (segments_append_dot text []).trans (List.append_nil _)

/-- The segments of joined parts are those of the parts in a row. -/
theorem segments_intercalate_eq_flatMap (parts : List (List Char)) :
    segments (['.'].intercalate parts) = parts.flatMap segments := by
  induction parts with
  | nil => rfl
  | cons first rest ih =>
      cases rest with
      | nil => rw [List.intercalate_singleton, List.flatMap_singleton]
      | cons second others =>
          rw [List.intercalate_cons_cons, List.append_assoc, List.singleton_append, segments_append_dot, ih,
            ← List.flatMap_cons]

/-- Dots at the ends of a text make no segments. -/
theorem segments_trimDots (text : List Char) : segments (trimDots text) = segments text := by
  have hfront : ∀ text : List Char, segments (text.dropWhile (· == '.')) = segments text := by
    intro text
    induction text with
    | nil => rfl
    | cons c rest ih =>
        by_cases hc : c = '.'
        · rw [hc, segments_cons_dot, List.dropWhile_cons_of_pos (by simp), ih]
        · rw [List.dropWhile_cons_of_neg (by simpa using hc)]
  have hback : ∀ text : List Char, segments (text.rdropWhile (· == '.')) = segments text := by
    intro text
    induction text using List.reverseRecOn with
    | nil => rfl
    | append_singleton rest c ih =>
        by_cases hc : c = '.'
        · rw [hc, segments_concat_dot, List.rdropWhile_concat_pos _ _ _ (by simp), ih]
        · rw [List.rdropWhile_concat_neg _ _ _ (by simpa using hc)]
  rw [trimDots_eq_rdropWhile, hback, hfront]

/-- Text without segments consists of dots. -/
theorem eq_dot_of_segments_eq_nil {text : List Char} (h : segments text = []) : ∀ c ∈ text, c = '.' := by
  have hpieces : (text.splitOnP (· == '.')).flatten = [] := by
    rw [List.flatten_eq_nil_iff]
    intro piece hpiece
    rw [segments, List.splitOn_eq_splitOnP, List.filter_eq_nil_iff] at h
    simpa using h piece hpiece
  rw [Text.flatten_splitOnP, List.filter_eq_nil_iff] at hpieces
  intro c hc
  simpa using hpieces c hc

end QualifiedName

open QualifiedName

theorem isSegment_of_mem_packagePath {package name : String} (h : name ∈ packagePath package) :
    IsSegment name := by
  obtain ⟨segment, hsegment, rfl⟩ := List.mem_map.1 h
  obtain ⟨hne, hdot⟩ := mem_segments hsegment
  refine ⟨fun hempty => hne ?_, by rwa [String.toList_ofList]⟩
  rw [← String.toList_ofList (l := segment), hempty]
  rfl

/-! ## Texts -/

section

variable {path : List String}

theorem toList_pathText (path : List String) :
    (pathText path).toList = ['.'].intercalate (path.map String.toList) :=
  String.toList_intercalate

theorem parts_of_path (h : ∀ name ∈ path, IsSegment name) :
    ∀ part ∈ path.map String.toList, part ≠ [] ∧ '.' ∉ part := by
  intro part hpart
  obtain ⟨name, hname, rfl⟩ := List.mem_map.1 hpart
  refine ⟨fun hnil => (h name hname).1 ?_, (h name hname).2⟩
  rw [← String.toList_inj, hnil]
  rfl

/-- A path of segments is read back from its text. -/
theorem packagePath_pathText (h : ∀ name ∈ path, IsSegment name) : packagePath (pathText path) = path := by
  rw [packagePath, toList_pathText, segments_intercalate (parts_of_path h), List.map_map]
  simp [Function.comp_def]

/-- Paths of segments are told by their texts. -/
theorem pathText_inj {other : List String} (h : ∀ name ∈ path, IsSegment name)
    (hother : ∀ name ∈ other, IsSegment name) : pathText path = pathText other ↔ path = other := by
  refine ⟨fun hsame => ?_, congrArg pathText⟩
  rw [← packagePath_pathText h, hsame, packagePath_pathText hother]

/-! ## Joining

Declared names need not be segments.  Joining counts whatever dots they hold and drops empty names until the
first that is not. -/

/-- Text that begins with a name that is not empty is not empty. -/
theorem pathText_ne_empty {first : String} {rest : List String} (h : first ≠ "") :
    pathText (first :: rest) ≠ "" := by
  rw [ne_eq, ← String.toList_eq_nil_iff] at h ⊢
  rw [toList_pathText, List.map_cons]
  cases rest with
  | nil => simpa using h
  | cons second others => simp [List.intercalate_cons_cons]

/-- Joining a name puts it at the end of the path. -/
theorem text_join {scope : QualifiedName} (hscope : scope.text = pathText path)
    (hfirst : ∀ first ∈ path.head?, first ≠ "") (name : String) :
    (scope.join name).text = pathText (path ++ [name]) := by
  cases path with
  | nil =>
      have htext : scope.text = "" := hscope
      rw [join, if_pos htext, List.nil_append, pathText, String.intercalate_singleton]
  | cons first rest =>
      have htext : scope.text ≠ "" := by
        rw [hscope]
        exact pathText_ne_empty (hfirst first rfl)
      rw [join, if_neg htext, hscope, pathText, pathText,
        String.intercalate_append_of_ne_nil (List.cons_ne_nil _ _) (List.cons_ne_nil _ _),
        String.intercalate_singleton]

/-- The name that joining all names of a path makes. -/
def QualifiedName.joinAll (path : List String) : QualifiedName :=
  path.foldl QualifiedName.join ⟨""⟩

@[simp] theorem QualifiedName.joinAll_concat (path : List String) (name : String) :
    joinAll (path ++ [name]) = (joinAll path).join name := by
  rw [joinAll, List.foldl_append]
  rfl

/-- What is left without the empty names in front begins with a name that is not empty. -/
theorem ne_empty_of_head?_dropWhile (path : List String) :
    ∀ first ∈ (path.dropWhile (· == "")).head?, first ≠ "" := by
  intro first hfirst
  have hnot := List.head?_dropWhile_not (· == "") path
  rw [Option.mem_def.1 hfirst] at hnot
  simpa using hnot

/-- Empty names leave no trace until the first that is not empty. -/
theorem text_joinAll (path : List String) :
    (joinAll path).text = pathText (path.dropWhile (· == "")) := by
  induction path using List.reverseRecOn with
  | nil => rfl
  | append_singleton path name ih =>
      rw [joinAll_concat, text_join ih (ne_empty_of_head?_dropWhile path), List.dropWhile_append]
      -- If all names so far are empty, the new one is dropped as well if it is empty.
      cases hnames : path.dropWhile (· == "") with
      | nil =>
          by_cases hname : name = ""
          · subst hname
            rfl
          · simp [hname]
      | cons first rest => simp

/-- A path of segments is joined to its text. -/
theorem text_joinAll_of_isSegment (h : ∀ name ∈ path, IsSegment name) :
    (joinAll path).text = pathText path := by
  rw [text_joinAll]
  cases path with
  | nil => rfl
  | cons first rest =>
      have hfirst : first ≠ "" := (h first List.mem_cons_self).1
      rw [List.dropWhile_cons_of_neg (by simpa using hfirst)]

end

namespace QualifiedName

/-! ## References -/

/-- Text without dots at its ends stays as it is. -/
theorem trimDots_eq_self {text : List Char} (hhead : text.head? ≠ some '.')
    (hlast : text.getLast? ≠ some '.') : trimDots text = text := by
  cases text with
  | nil => rfl
  | cons first rest =>
      have hfirst : first ≠ '.' := fun hdot => hhead (congrArg some hdot)
      rw [trimDots_eq_rdropWhile, List.dropWhile_cons_of_neg (by simpa using hfirst),
        List.rdropWhile_eq_self_iff]
      intro hne
      rw [List.getLast?_eq_getLast_of_ne_nil hne] at hlast
      simpa using hlast

/-- Trimming leaves exactly those texts as they are that have no dot at either end. -/
theorem trimDots_eq_self_iff {text : List Char} :
    trimDots text = text ↔ text.head? ≠ some '.' ∧ text.getLast? ≠ some '.' := by
  refine ⟨fun hsame => ?_, fun h => trimDots_eq_self h.1 h.2⟩
  -- Neither of the two steps can have removed anything, as neither of them adds anything.
  have hfront : text.dropWhile (· == '.') = text := by
    have hsuffix := List.dropWhile_suffix (l := text) (· == '.')
    have hprefix := List.rdropWhile_prefix (· == '.') (text.dropWhile (· == '.'))
    rw [← trimDots_eq_rdropWhile, hsame] at hprefix
    exact hsuffix.eq_of_length (le_antisymm hsuffix.length_le hprefix.length_le)
  rw [trimDots_eq_rdropWhile, hfront, List.rdropWhile_eq_self_iff] at hsame
  constructor
  · intro hhead
    cases text with
    | nil => cases hhead
    | cons first rest =>
        cases hhead
        rw [List.dropWhile_eq_self_iff] at hfront
        exact hfront (Nat.succ_pos _) rfl
  · intro hlast
    have hne : text ≠ [] := List.ne_nil_of_mem (List.mem_of_getLast? hlast)
    rw [List.getLast?_eq_getLast_of_ne_nil hne, Option.some.injEq] at hlast
    exact hsame hne (beq_iff_eq.2 hlast)

theorem trimDots_eq_self_of_not_mem {text : List Char} (h : '.' ∉ text) : trimDots text = text :=
  trimDots_eq_self (fun hhead => h (List.mem_of_mem_head? hhead)) fun hlast =>
    h (List.mem_of_getLast? hlast)

theorem trimDots_replicate_append (count : Nat) (text : List Char) :
    trimDots (List.replicate count '.' ++ text) = trimDots text := by
  rw [trimDots, List.dropWhile_append_of_pos, trimDots]
  intro c hc
  rw [(List.mem_replicate.1 hc).2]
  rfl

theorem trimDots_append_replicate (text : List Char) (count : Nat) :
    trimDots (text ++ List.replicate count '.') = trimDots text := by
  have hdots : ∀ c ∈ List.replicate count '.', (c == '.') = true := by
    intro c hc
    rw [(List.mem_replicate.1 hc).2]
    rfl
  rw [trimDots, trimDots, List.dropWhile_append]
  split
  · next hempty => rw [List.isEmpty_iff.1 hempty, List.dropWhile_eq_nil_iff.2 hdots]
  · rw [List.reverse_append, List.dropWhile_append_of_pos]
    intro c hc
    exact hdots c (List.mem_reverse.1 hc)

/-- Where no part begins or ends with a dot, neither does their joined text. -/
theorem trimDots_intercalate {parts : List (List Char)} (h : ∀ part ∈ parts, part ≠ [] ∧ trimDots part = part) :
    trimDots (['.'].intercalate parts) = ['.'].intercalate parts := by
  refine trimDots_eq_self ?_ ?_
  · cases parts with
    | nil => simp
    | cons first rest =>
        obtain ⟨hne, htrimmed⟩ := h first List.mem_cons_self
        rw [Text.head?_intercalate_cons hne]
        exact (trimDots_eq_self_iff.1 htrimmed).1
  · rcases List.eq_nil_or_concat parts with rfl | ⟨others, last, rfl⟩
    · simp
    · rw [List.concat_eq_append] at h ⊢
      obtain ⟨hne, htrimmed⟩ := h last List.mem_concat_self
      rw [Text.getLast?_intercalate_concat hne]
      exact (trimDots_eq_self_iff.1 htrimmed).2

/-- A name is what a reference to its text means exactly if the text has no dot at either end. -/
theorem text_ofReference_eq_self_iff {text : String} :
    (ofReference text).text = text ↔ text.toList.head? ≠ some '.' ∧ text.toList.getLast? ≠ some '.' := by
  rw [← String.toList_inj, toList_ofReference_text, trimDots_eq_self_iff]

/-- The path of what a text means as a reference is its path as a package. -/
theorem path_ofReference (reference : String) : (ofReference reference).path = packagePath reference := by
  rw [path, toList_ofReference_text, segments_trimDots]
  rfl

/-- A name that is not empty has a segment, since it does not consist of dots. -/
theorem lastSegment_mem_path {reference : String} (h : (ofReference reference).text ≠ "") :
    (ofReference reference).lastSegment ∈ (ofReference reference).path := by
  rw [lastSegment]
  cases hlast : (ofReference reference).path.getLast? with
  | some last => exact List.mem_of_getLast? hlast
  | none =>
      have hsegments : segments (ofReference reference).text.toList = [] := by
        rwa [List.getLast?_eq_none_iff, path, List.map_eq_nil_iff] at hlast
      obtain ⟨c, rest, hcharacters⟩ := List.exists_cons_of_ne_nil fun hnil =>
        h (String.toList_eq_nil_iff.1 hnil)
      have hdot := eq_dot_of_segments_eq_nil hsegments c (hcharacters ▸ List.mem_cons_self)
      have hself : (ofReference (ofReference reference).text).text = (ofReference reference).text := by
        rw [ofReference_text]
      refine absurd ?_ (text_ofReference_eq_self_iff.1 hself).1
      rw [hcharacters, List.head?_cons, hdot]

/-- Dots before the text of a path do not change what it means. -/
theorem text_ofReference_dots {path : List String} (h : ∀ name ∈ path, IsSegment name) (count : Nat) :
    (ofReference (String.ofList (List.replicate count '.') ++ pathText path)).text = pathText path := by
  rw [← String.toList_inj, toList_ofReference_text, String.toList_append, String.toList_ofList,
    trimDots_replicate_append, toList_pathText, trimDots_intercalate]
  intro part hpart
  obtain ⟨hne, hdot⟩ := parts_of_path h part hpart
  exact ⟨hne, trimDots_eq_self_of_not_mem hdot⟩

/-- Dots around a reference do not change what it means. -/
theorem ofReference_dots (reference : String) (before after : Nat) :
    ofReference (String.ofList (List.replicate before '.') ++ reference ++
      String.ofList (List.replicate after '.')) = ofReference reference := by
  rw [← text_inj, ← String.toList_inj, toList_ofReference_text, toList_ofReference_text, String.toList_append,
    String.toList_append, String.toList_ofList, String.toList_ofList, trimDots_append_replicate,
    trimDots_replicate_append]

/-! ## Parts -/

theorem toList_ofParts_text (package : String) (scopes : List String) (name : String) :
    (ofParts package scopes name).text.toList =
      ['.'].intercalate (((package.toList.splitOn '.' ++ scopes.map String.toList ++ [name.toList]).map
        trimDots).filter (!·.isEmpty)) :=
  String.toList_ofList

/-- Parts that are trimmed, and dropped if nothing is left, keep their segments. -/
theorem flatMap_segments_trimDots (parts : List (List Char)) :
    ((parts.map trimDots).filter (!·.isEmpty)).flatMap segments = parts.flatMap segments := by
  induction parts with
  | nil => rfl
  | cons part rest ih =>
      rw [List.map_cons, List.flatMap_cons, ← segments_trimDots part, ← ih]
      cases htrimmed : trimDots part with
      | nil => rfl
      | cons c more => rw [List.filter_cons_of_pos (by simp), List.flatMap_cons]

/-- A name has the segments of its parts in a row. -/
theorem path_ofParts (package : String) (scopes : List String) (name : String) :
    (ofParts package scopes name).path =
      packagePath package ++ scopes.flatMap packagePath ++ packagePath name := by
  have hpackage : (package.toList.splitOn '.').flatMap segments = segments package.toList := by
    rw [← segments_intercalate_eq_flatMap, List.intercalate_splitOn]
  rw [path, toList_ofParts_text, segments_intercalate_eq_flatMap, flatMap_segments_trimDots,
    List.flatMap_append, List.flatMap_append, hpackage, List.flatMap_singleton, List.flatMap_map,
    List.map_append, List.map_append, List.map_flatMap]
  rfl

/-- The text of a name made from parts has no dot at either end. -/
theorem trimDots_text_ofParts (package : String) (scopes : List String) (name : String) :
    trimDots (ofParts package scopes name).text.toList = (ofParts package scopes name).text.toList := by
  rw [toList_ofParts_text]
  refine trimDots_intercalate fun part hpart => ?_
  obtain ⟨hmem, hne⟩ := List.mem_filter.1 hpart
  obtain ⟨plain, -, rfl⟩ := List.mem_map.1 hmem
  exact ⟨by simpa using hne, trimDots_trimDots plain⟩

/-- Joining puts the segments of what is joined at the end of the path. -/
theorem path_join (name : QualifiedName) (rest : String) :
    (name.join rest).path = name.path ++ packagePath rest := by
  unfold join
  split
  · next hempty =>
      rw [path, path, hempty]
      rfl
  · have htext : (name.text ++ "." ++ rest).toList = name.text.toList ++ '.' :: rest.toList := by
      simp
    rw [path, htext, segments_append_dot, List.map_append]
    rfl

/-- The path of a name that is joined from a path has the segments of all its names in a row. -/
theorem path_joinAll (names : List String) : (joinAll names).path = names.flatMap packagePath := by
  induction names using List.reverseRecOn with
  | nil => rfl
  | append_singleton names name ih =>
      rw [joinAll_concat, path_join, ih, List.flatMap_append, List.flatMap_singleton]

/-- The scope of a package is its path. -/
theorem text_ofParts_package (package : String) :
    (ofParts package [] "").text = pathText (packagePath package) := by
  have htrim : ∀ part ∈ package.toList.splitOn '.', trimDots part = part :=
    fun part hpart => trimDots_eq_self_of_not_mem (not_mem_of_mem_splitOn hpart)
  have hparts : (package.toList.splitOn '.' ++ ([] : List String).map String.toList ++
      ["".toList]).map trimDots = package.toList.splitOn '.' ++ [[]] := by
    rw [List.map_nil, List.append_nil, List.map_append, List.map_congr_left htrim, List.map_id']
    rfl
  rw [← String.toList_inj, toList_pathText, ofParts]
  simp only [hparts, joinDots, String.toList_ofList, packagePath, segments, List.map_map,
    List.filter_append]
  simp [Function.comp_def]

end QualifiedName

end CustomResource
