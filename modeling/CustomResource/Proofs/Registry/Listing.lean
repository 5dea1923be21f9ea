import CustomResource.Proofs.Generation.Precedence
import CustomResource.Proofs.Registry.Lookup

/-!
# Listed messages

A registry lists a message under the name that joining its path makes, and a lookup trims the dots at the ends
of what it is given.  So a message is found under its listed name, or under any text, exactly if this name has
no dot at either end.  With the names of the path at hand that is a condition on two of them, see
`IsReferable`.
-/

namespace CustomResource

open Descriptor QualifiedName

/-! ## Paths that can be referred to -/

/-- The first name of a path that is not empty does not begin with a dot, and if there is one, the last name
is not empty either and does not end with a dot. -/
def IsReferable (path : List String) : Prop :=
  let names := path.dropWhile (· == "")
  (∀ first ∈ names.head?, first.toList.head? ≠ some '.') ∧
    ∀ last ∈ names.getLast?, last ≠ "" ∧ last.toList.getLast? ≠ some '.'

instance : DecidablePred IsReferable :=
  fun _ => inferInstanceAs (Decidable (_ ∧ _))

section

variable {names : List String}

/-- A text that begins with a name begins as the name does. -/
theorem head?_pathText {first : String} {rest : List String} (h : first ≠ "") :
    (pathText (first :: rest)).toList.head? = first.toList.head? := by
  have hchars : first.toList ≠ [] := by rwa [ne_eq, String.toList_eq_nil_iff]
  rw [toList_pathText, List.map_cons, Text.head?_intercalate_cons hchars]

/-- A text ends as its last name does, or with the dot before it if this name is empty. -/
theorem getLast?_pathText (hnames : names ≠ []) (last : String) :
    (pathText (names ++ [last])).toList.getLast? =
      if last = "" then some '.' else last.toList.getLast? := by
  by_cases hlast : last = ""
  · have htext : pathText (names ++ [last]) = pathText names ++ "." := by
      rw [hlast, pathText, pathText, String.intercalate_append_of_ne_nil hnames (List.cons_ne_nil _ _),
        String.intercalate_singleton, String.append_empty]
    rw [if_pos hlast, htext, String.toList_append]
    exact List.getLast?_concat
  · have hchars : last.toList ≠ [] := by rwa [ne_eq, String.toList_eq_nil_iff]
    rw [if_neg hlast, toList_pathText, List.map_append]
    exact Text.getLast?_intercalate_concat hchars _

end

/-- The name of a path is what a reference to its text means exactly if the path can be referred to. -/
theorem text_ofReference_joinAll_iff (path : List String) :
    (ofReference (joinAll path).text).text = (joinAll path).text ↔ IsReferable path := by
  rw [text_ofReference_eq_self_iff, text_joinAll, IsReferable]
  have hfirst := ne_empty_of_head?_dropWhile path
  generalize path.dropWhile (· == "") = names at hfirst ⊢
  refine and_congr ?_ ?_
  · cases names with
    | nil => simp [pathText]
    | cons first rest => simp [head?_pathText (hfirst first rfl)]
  · rcases List.eq_nil_or_concat names with rfl | ⟨others, last, rfl⟩
    · simp [pathText]
    · rw [List.concat_eq_append] at hfirst ⊢
      cases others with
      | nil =>
          have hlast : last ≠ "" := hfirst last rfl
          simp [pathText, hlast]
      | cons first rest =>
          rw [getLast?_pathText (List.cons_ne_nil _ _), List.getLast?_concat]
          by_cases hlast : last = "" <;> simp [hlast]

/-- Names between the first and the last do not matter. -/
example : IsReferable ["", "t", ".M.", "", "A"] ∧ ¬ IsReferable ["", ".M"] ∧ ¬ IsReferable ["t", ""] := by
  decide

/-! ## Registered messages -/

namespace Registry.Replayed

/-- What is registered for a message, one of its visits declares under the name that its path is joined to. -/
theorem exists_visit {registry : Registry} (h : registry.Replayed) {message : MessageType}
    (hmessage : registry.types.Registered (.message message)) :
    ∃ visit ∈ registry.files.flatMap (·.messageVisits),
      (joinAll visit.path).text = message.fullName ∧ visit.entry = message.entry := by
  have hentry : registry.types.messages[message.fullName]? = some message.entry := hmessage
  rw [h.types_eq, TypeTable.getElem?_messages_add, Declarations.ofFiles_eq_ofJoined] at hentry
  have hlast : lastNamed? message.fullName ((registry.files.flatMap (·.messageVisits)).map fun visit =>
      ((joinAll visit.path).text, visit.entry)) = some message.entry := by
    rwa [show ({} : TypeTable).messages[message.fullName]? = none from Std.ExtTreeMap.getElem?_empty,
      Option.or_none] at hentry
  exact exists_visit_of_lastNamed? hlast

end Registry.Replayed

namespace TypeTable

variable {types : TypeTable} {message : MessageType}

/-- What a lookup finds has the name that the reference means. -/
theorem fullName_of_message? {reference : String} (h : types.message? reference = some message) :
    message.fullName = (ofReference reference).text := by
  obtain ⟨entry, -, rfl⟩ := Option.map_eq_some_iff.1 h
  rfl

/-- A registered message is found by its full name exactly if this is the name that it means as a reference. -/
theorem message?_fullName_iff (h : types.Registered (.message message)) :
    types.message? message.fullName = some message ↔
      (ofReference message.fullName).text = message.fullName := by
  have hentry : types.messages[message.fullName]? = some message.entry := h
  refine ⟨fun hfound => (fullName_of_message? hfound).symm, fun hname => ?_⟩
  simp only [message?]
  rw [hname, hentry]
  rfl

theorem typeUrl?_fullName_iff (h : types.Registered (.message message)) :
    types.typeUrl? message.fullName = some ("type.googleapis.com/" ++ message.fullName) ↔
      (ofReference message.fullName).text = message.fullName := by
  constructor
  · intro hurl
    obtain ⟨found, hfound, htext⟩ := Option.map_eq_some_iff.1 hurl
    rw [← fullName_of_message? hfound]
    exact (String.append_right_inj _).1 htext
  · intro hname
    rw [typeUrl?, (message?_fullName_iff h).2 hname]
    rfl

end TypeTable

/-- Fill a registry by any sequence of additions, with any names in them.  A message that it lists has the name
that joining the path of one of its visits makes.  It is found under this name, and its URL is that of this
name, exactly if the path can be referred to; otherwise no text at all finds the message. -/
theorem listed_found_iff_isReferable (additions : List Registry.Addition) :
    let registry := Registry.ofAdditions additions
    ∀ message ∈ registry.types.listedMessages,
      ∃ visit ∈ registry.files.flatMap (·.messageVisits),
        (joinAll visit.path).text = message.fullName ∧ visit.entry = message.entry ∧
        (registry.types.message? message.fullName = some message ↔ IsReferable visit.path) ∧
        ((∃ reference, registry.types.message? reference = some message) ↔ IsReferable visit.path) ∧
        (registry.types.typeUrl? message.fullName = some ("type.googleapis.com/" ++ message.fullName) ↔
          IsReferable visit.path) ∧
        (ofReference message.fullName = ⟨message.fullName⟩ ↔ IsReferable visit.path) ∧
        (IsReferable visit.path → ∀ config name,
          generate config registry.types message.fullName ≠ .error (.notFound name)) := by
  intro registry message hlisted
  have hregistered := (mem_listedMessages_iff.1 hlisted).1
  obtain ⟨visit, hvisit, hname, hentry⟩ :=
    (Registry.replayed_ofAdditions additions).exists_visit hregistered
  -- All answers depend on what the listed name means as a reference.
  have hmeans : (ofReference message.fullName).text = message.fullName ↔ IsReferable visit.path := by
    rw [← hname]
    exact text_ofReference_joinAll_iff visit.path
  have hfound := (TypeTable.message?_fullName_iff hregistered).trans hmeans
  refine ⟨visit, hvisit, hname, hentry, hfound, ⟨?_, fun h => ⟨_, hfound.2 h⟩⟩,
    (TypeTable.typeUrl?_fullName_iff hregistered).trans hmeans, ?_, ?_⟩
  · -- A lookup finds only names that its reference means, and these mean themselves.
    rintro ⟨reference, hreference⟩
    rw [← hmeans, TypeTable.fullName_of_message? hreference, ofReference_text]
  · rw [← hmeans, ← text_inj]
  · intro hreferable config name
    have hfails : FailsOnlyWith (fun error => error ≠ .notFound name)
        (generate config registry.types message.fullName) := by
      refine failsOnlyWith_generate (hfound.2 hreferable) ?_ ?_ ?_ ?_ ?_ <;> simp
    exact fun herror => hfails _ herror rfl

/-- The path through a message in a package with superfluous dots can be referred to. -/
theorem dottedPackageFile_listed_found :
    let types := (Registry.ofAdditions [.file dottedPackageFile]).types
    let inner : MessageType := ⟨"t.v1.Outer.Inner", ⟨some "Inner", [], none, [], ".t..v1", .proto2⟩⟩
    inner ∈ types.listedMessages ∧ types.message? "t.v1.Outer.Inner" = some inner := by
  intro types inner
  have hentry : types.messages["t.v1.Outer.Inner"]? = some inner.entry := by decide +kernel
  have hlisted : inner ∈ types.listedMessages := mem_listedMessages_iff.2 ⟨hentry, rfl⟩
  have hpaths : ∀ visit ∈ [dottedPackageFile].flatMap (·.messageVisits), IsReferable visit.path := by
    decide +kernel
  obtain ⟨visit, hvisit, -, -, hfound, -⟩ :=
    listed_found_iff_isReferable [.file dottedPackageFile] inner hlisted
  exact ⟨hlisted, hfound.2 (hpaths visit hvisit)⟩

/-- A message whose name begins with a dot, outside of any package. -/
def leadingDotFile : File where
  messages := [{ name := some ".A" }]

/-- A message may be listed under a name that is not found, and nothing is generated for it. -/
theorem exists_listed_not_found :
    ∃ (additions : List Registry.Addition) (message : MessageType),
      let types := (Registry.ofAdditions additions).types
      message ∈ types.listedMessages ∧ types.message? message.fullName = none ∧
        types.typeUrl? message.fullName = none ∧
        generate {} types message.fullName = .error (.notFound message.fullName) := by
  let message : MessageType := ⟨".A", ⟨some ".A", [], none, [], "", .proto2⟩⟩
  refine ⟨[.file leadingDotFile], message, ?_⟩
  intro types
  have hentry : types.messages[".A"]? = some message.entry := by decide +kernel
  have hnone : types.message? ".A" = none := by decide +kernel
  refine ⟨mem_listedMessages_iff.2 ⟨hentry, rfl⟩, hnone, ?_, ?_⟩
  · rw [TypeTable.typeUrl?, hnone]
    rfl
  · rw [generate, generatePlan_of_message?_eq_none hnone]
    rfl

end CustomResource
