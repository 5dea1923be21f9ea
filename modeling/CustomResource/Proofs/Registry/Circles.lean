import CustomResource.Proofs.Path
import CustomResource.Proofs.Registry.Containment
import Mathlib.Algebra.Order.BigOperators.Group.List
import Mathlib.Algebra.Order.Group.Nat
import Mathlib.Data.List.Chain

/-!
# Searches that circle

A search for a type follows the values of map entries, and nothing keeps it from meeting an entry again.
`TypeTable.Answers` is the search without a bound.  An answer that takes some number of entries to find takes
that many different ones, so the number of messages is a bound that loses none (`anyAnswer_size_eq_some_iff`),
and a search without an answer within it goes on for ever.  Whether this can happen is a property of the
descriptors: some field leads to an entry whose repeated values lead back to it, see `TypeTable.Circles`.
-/

namespace CustomResource

open Descriptor Relation

/-! ## Answers for lists -/

section

variable {α : Type} {test more : α → Option Bool} {list : List α}

/-- More answers for the members are more answers for the list. -/
theorem anyAnswer_mono (h : ∀ a ∈ list, ∀ answer, test a = some answer → more a = some answer)
    {answer : Bool} (hanswer : anyAnswer test list = some answer) : anyAnswer more list = some answer := by
  induction list with
  | nil => exact hanswer
  | cons first rest ih =>
      have hrest := ih fun a ha => h a (List.mem_cons_of_mem _ ha)
      have hfirst := h first List.mem_cons_self
      rw [anyAnswer] at hanswer ⊢
      cases htest : test first with
      | none => simp [htest] at hanswer
      | some found =>
          rw [hfirst found htest]
          rw [htest] at hanswer
          cases found with
          | true => exact hanswer
          | false => exact hrest hanswer

/-- A list without an answer has a member without one. -/
theorem exists_of_anyAnswer_eq_none (h : anyAnswer test list = none) : ∃ a ∈ list, test a = none := by
  by_contra hall
  simp only [not_exists, not_and] at hall
  have hanswer : (anyAnswer test list).isSome = true :=
    anyAnswer_isSome fun a ha => Option.isSome_iff_ne_none.2 (hall a ha)
  rw [h] at hanswer
  cases hanswer

/-- A member without an answer is only passed over if another member passes the test. -/
theorem anyAnswer_eq_none {a : α} (ha : a ∈ list) (hnone : test a = none)
    (hall : ∀ b ∈ list, test b ≠ some true) : anyAnswer test list = none := by
  induction list with
  | nil => cases ha
  | cons first rest ih =>
      rw [anyAnswer]
      cases htest : test first with
      | none => rfl
      | some answer =>
          cases answer with
          | true => exact absurd htest (hall first List.mem_cons_self)
          | false =>
              rcases List.mem_cons.1 ha with rfl | ha
              · rw [htest] at hnone
                cases hnone
              · exact ih ha fun b hb => hall b (List.mem_cons_of_mem _ hb)

/-- If a list gets its answer only with more answers for the members, some member does. -/
theorem exists_of_anyAnswer_isSome
    (h : ∀ a ∈ list, ∀ answer, test a = some answer → more a = some answer)
    (hnone : anyAnswer test list = none) (hsome : (anyAnswer more list).isSome = true) :
    ∃ a ∈ list, test a = none ∧ (more a).isSome = true := by
  induction list with
  | nil => cases hnone
  | cons first rest ih =>
      rw [anyAnswer] at hnone hsome
      cases htest : test first with
      | none =>
          refine ⟨first, List.mem_cons_self, htest, ?_⟩
          by_contra hmore
          rw [Bool.not_eq_true, Option.isSome_eq_false_iff, Option.isNone_iff_eq_none] at hmore
          rw [hmore] at hsome
          cases hsome
      | some answer =>
          rw [h first List.mem_cons_self answer htest] at hsome
          rw [htest] at hnone
          cases answer with
          | true => cases hnone
          | false =>
              obtain ⟨a, ha, hfound⟩ := ih (fun a ha => h a (List.mem_cons_of_mem _ ha)) hnone hsome
              exact ⟨a, List.mem_cons_of_mem _ ha, hfound⟩

theorem filterM_isSome_iff : (list.filterM test).isSome = true ↔ ∀ a ∈ list, (test a).isSome = true := by
  refine ⟨fun h => ?_, fun h => by rw [filterM_eq_some h]; rfl⟩
  have haux : ∀ kept : List α, (List.filterAuxM test list kept).isSome = true →
      ∀ a ∈ list, (test a).isSome = true := by
    clear h
    induction list with
    | nil => simp
    | cons first rest ih =>
        intro kept h
        rw [List.filterAuxM] at h
        cases htest : test first with
        | none => simp [htest] at h
        | some answer =>
            simp only [htest] at h
            refine List.forall_mem_cons.2 ⟨by rw [htest]; rfl, ih _ h⟩
  refine haux [] ?_
  rw [List.filterM] at h
  cases hfilter : List.filterAuxM test list [] with
  | none => simp [hfilter] at h
  | some kept => rfl

end

/-! ## Steps of a search -/

/-- The name that the reference of a field means. -/
def Descriptor.Field.namedName? (field : Field) : Option QualifiedName :=
  field.typeName.map QualifiedName.ofReference

/-- The fields that a map entry takes its values from. -/
def MessageType.valueFields (entry : MessageType) : List Field :=
  entry.entry.fields.filter (·.number.getD 0 == 2)

namespace TypeTable

/-- The map entry that a repeated field means. -/
def entryOf? (types : TypeTable) (field : Field) : Option MessageType :=
  (field.typeName.bind types.message?).filter fun entry =>
    field.cardinality = .repeated ∧ entry.isMapEntry = true

variable {types : TypeTable} {wanted : QualifiedName} {field : Field} {entry : MessageType}

theorem entryOf?_eq_some_iff : types.entryOf? field = some entry ↔
    field.typeName.bind types.message? = some entry ∧ field.cardinality = .repeated ∧
      entry.isMapEntry = true := by
  rw [entryOf?, Option.filter_eq_some_iff, decide_eq_true_iff]

theorem registered_of_entryOf? (h : types.entryOf? field = some entry) : types.Registered (.message entry) := by
  obtain ⟨reference, -, hmessage⟩ := Option.bind_eq_some_iff.1 (entryOf?_eq_some_iff.1 h).1
  exact registered_of_message? hmessage

/-- One step of the search. -/
theorem refersTo?_step (types : TypeTable) (wanted : QualifiedName) (depth : Nat) (field : Field) :
    types.refersTo? wanted depth field =
      if field.namedName? = some wanted then some true
      else
        match types.entryOf? field, depth with
        | none, _ => some false
        | some _, 0 => none
        | some entry, depth + 1 => anyAnswer (types.refersTo? wanted depth) entry.valueFields := by
  rw [refersTo?_eq, Field.namedName?]
  cases hname : field.typeName with
  | none => simp [entryOf?, hname]
  | some reference =>
      by_cases hwanted : QualifiedName.ofReference reference = wanted
      · simp [hwanted]
      · cases hmessage : types.message? reference with
        | none => simp [entryOf?, hname, hwanted, hmessage]
        | some message =>
            have hentry : types.entryOf? field =
                if field.cardinality = .repeated ∧ message.isMapEntry = true then some message else none := by
              simp [entryOf?, hname, hmessage, Option.filter_some]
            by_cases hmap : field.cardinality = .repeated ∧ message.isMapEntry = true
            · rw [if_pos hmap] at hentry
              cases depth <;> simp [hwanted, hmessage, hmap, hentry, MessageType.valueFields]
            · rw [if_neg hmap] at hentry
              simp [hwanted, hmessage, hmap, hentry]

theorem refersTo?_of_named (h : field.namedName? = some wanted) (depth : Nat) :
    types.refersTo? wanted depth field = some true := by
  rw [refersTo?_step, if_pos h]

theorem refersTo?_of_no_entry (h : field.namedName? ≠ some wanted) (hentry : types.entryOf? field = none)
    (depth : Nat) : types.refersTo? wanted depth field = some false := by
  rw [refersTo?_step, if_neg h, hentry]

theorem refersTo?_zero (h : field.namedName? ≠ some wanted) (hentry : types.entryOf? field = some entry) :
    types.refersTo? wanted 0 field = none := by
  rw [refersTo?_step, if_neg h, hentry]

theorem refersTo?_succ (h : field.namedName? ≠ some wanted) (hentry : types.entryOf? field = some entry)
    (depth : Nat) : types.refersTo? wanted (depth + 1) field =
      anyAnswer (types.refersTo? wanted depth) entry.valueFields := by
  rw [refersTo?_step, if_neg h, hentry]

/-- A search without an answer passes through an entry. -/
theorem exists_entryOf?_of_refersTo?_eq_none {depth : Nat} (h : types.refersTo? wanted depth field = none) :
    field.namedName? ≠ some wanted ∧ ∃ entry, types.entryOf? field = some entry := by
  have hname : field.namedName? ≠ some wanted := by
    intro hname
    rw [refersTo?_of_named hname] at h
    cases h
  refine ⟨hname, Option.ne_none_iff_exists'.1 fun hentry => ?_⟩
  rw [refersTo?_of_no_entry hname hentry] at h
  cases h

/-- An answer stays when the search may pass through one more entry. -/
theorem refersTo?_mono {depth : Nat} {answer : Bool} (h : types.refersTo? wanted depth field = some answer) :
    types.refersTo? wanted (depth + 1) field = some answer := by
  induction depth generalizing field answer with
  | zero =>
      by_cases hname : field.namedName? = some wanted
      · rwa [refersTo?_of_named hname] at h ⊢
      · cases hentry : types.entryOf? field with
        | none => rwa [refersTo?_of_no_entry hname hentry] at h ⊢
        | some entry =>
            rw [refersTo?_zero hname hentry] at h
            cases h
  | succ depth ih =>
      by_cases hname : field.namedName? = some wanted
      · rwa [refersTo?_of_named hname] at h ⊢
      · cases hentry : types.entryOf? field with
        | none => rwa [refersTo?_of_no_entry hname hentry] at h ⊢
        | some entry =>
            rw [refersTo?_succ hname hentry] at h ⊢
            exact anyAnswer_mono (fun value _ _ hvalue => ih hvalue) h

theorem refersTo?_mono_le {depth more : Nat} (hle : depth ≤ more) {answer : Bool}
    (h : types.refersTo? wanted depth field = some answer) :
    types.refersTo? wanted more field = some answer := by
  induction more, hle using Nat.le_induction with
  | base => exact h
  | succ more _ ih => exact refersTo?_mono ih

/-! ## Searches without a bound -/

/-- The search of fields, one after the other and into entries without a bound, comes to an answer. -/
inductive Answers (types : TypeTable) (wanted : QualifiedName) : List Field → Bool → Prop
  | nil : types.Answers wanted [] false
  /-- The field means the name. -/
  | named {first : Field} {rest : List Field} : first.namedName? = some wanted →
      types.Answers wanted (first :: rest) true
  /-- The field means no entry. -/
  | plain {first : Field} {rest : List Field} {answer : Bool} : first.namedName? ≠ some wanted →
      types.entryOf? first = none → types.Answers wanted rest answer →
      types.Answers wanted (first :: rest) answer
  /-- A value of the entry refers to the name. -/
  | found {first : Field} {rest : List Field} {entry : MessageType} : first.namedName? ≠ some wanted →
      types.entryOf? first = some entry → types.Answers wanted entry.valueFields true →
      types.Answers wanted (first :: rest) true
  /-- No value of the entry refers to the name. -/
  | missed {first : Field} {rest : List Field} {entry : MessageType} {answer : Bool} :
      first.namedName? ≠ some wanted → types.entryOf? first = some entry →
      types.Answers wanted entry.valueFields false → types.Answers wanted rest answer →
      types.Answers wanted (first :: rest) answer

theorem anyAnswer_refersTo?_mono {depth more : Nat} (hle : depth ≤ more) {fields : List Field} {answer : Bool}
    (h : anyAnswer (types.refersTo? wanted depth) fields = some answer) :
    anyAnswer (types.refersTo? wanted more) fields = some answer :=
  anyAnswer_mono (fun _ _ _ hfield => refersTo?_mono_le hle hfield) h

/-- What a search with a bound answers, the search answers. -/
theorem answers_of_anyAnswer {depth : Nat} {fields : List Field} {answer : Bool}
    (h : anyAnswer (types.refersTo? wanted depth) fields = some answer) :
    types.Answers wanted fields answer := by
  induction depth using Nat.strong_induction_on generalizing fields answer with
  | _ depth ihdepth =>
    induction fields generalizing answer with
    | nil =>
        cases h
        exact .nil
    | cons first rest ih =>
        rw [anyAnswer] at h
        by_cases hname : first.namedName? = some wanted
        · rw [refersTo?_of_named hname] at h
          cases h
          exact .named hname
        · cases hentry : types.entryOf? first with
          | none =>
              rw [refersTo?_of_no_entry hname hentry] at h
              exact .plain hname hentry (ih h)
          | some entry =>
              cases depth with
              | zero => simp [refersTo?_zero hname hentry] at h
              | succ depth =>
                  rw [refersTo?_succ hname hentry] at h
                  cases hvalues : anyAnswer (types.refersTo? wanted depth) entry.valueFields with
                  | none => simp [hvalues] at h
                  | some found =>
                      have hanswers := ihdepth depth (Nat.lt_succ_self depth) hvalues
                      rw [hvalues] at h
                      cases found with
                      | true =>
                          cases h
                          exact .found hname hentry hanswers
                      | false => exact .missed hname hentry hanswers (ih h)

/-- An answer of the search is found within some number of entries. -/
theorem Answers.exists_depth {fields : List Field} {answer : Bool} (h : types.Answers wanted fields answer) :
    ∃ depth, anyAnswer (types.refersTo? wanted depth) fields = some answer := by
  induction h with
  | nil => exact ⟨0, rfl⟩
  | named hname => exact ⟨0, by rw [anyAnswer, refersTo?_of_named hname]⟩
  | plain hname hentry _ ih =>
      obtain ⟨depth, hdepth⟩ := ih
      exact ⟨depth, by rwa [anyAnswer, refersTo?_of_no_entry hname hentry]⟩
  | found hname hentry _ ih =>
      obtain ⟨depth, hdepth⟩ := ih
      exact ⟨depth + 1, by rw [anyAnswer, refersTo?_succ hname hentry, hdepth]⟩
  | missed hname hentry _ _ ihvalues ih =>
      obtain ⟨depth, hdepth⟩ := ihvalues
      obtain ⟨more, hmore⟩ := ih
      refine ⟨max depth more + 1, ?_⟩
      rw [anyAnswer, refersTo?_succ hname hentry, anyAnswer_refersTo?_mono (le_max_left depth more) hdepth]
      exact anyAnswer_refersTo?_mono ((le_max_right depth more).trans (Nat.le_succ _)) hmore

/-! ## How deep a search can go -/

/-- Different messages of a table have different names, so there are no more than the table holds. -/
theorem length_le_size {messages : List MessageType} (hnodup : messages.Nodup)
    (h : ∀ message ∈ messages, types.Registered (.message message)) :
    messages.length ≤ types.messages.size := by
  have hnames : (messages.map (·.fullName)).Nodup := by
    refine hnodup.map_on fun first hfirst second hsecond hname => ?_
    have hentry : types.messages[first.fullName]? = some first.entry := h first hfirst
    rw [hname, show types.messages[second.fullName]? = some second.entry from h second hsecond,
      Option.some.injEq] at hentry
    exact congrArg₂ MessageType.mk hname hentry.symm
  have hkeys : ∀ name ∈ messages.map (·.fullName), name ∈ types.messages.keys := by
    intro name hname
    obtain ⟨message, hmessage, rfl⟩ := List.mem_map.1 hname
    have hentry : types.messages[message.fullName]? = some message.entry := h message hmessage
    exact Std.ExtTreeMap.mem_keys.2 (Std.ExtTreeMap.mem_iff_isSome_getElem?.2 (Option.isSome_of_eq_some hentry))
  have hlength := (hnames.subperm hkeys).length_le
  rwa [List.length_map, Std.ExtTreeMap.length_keys] at hlength

/-- The values of an entry have an answer within a number of further entries. -/
def Settles (types : TypeTable) (wanted : QualifiedName) (depth : Nat) (entry : MessageType) : Prop :=
  (anyAnswer (types.refersTo? wanted depth) entry.valueFields).isSome = true

theorem Settles.succ {depth : Nat} (h : types.Settles wanted depth entry) :
    types.Settles wanted (depth + 1) entry := by
  obtain ⟨answer, hanswer⟩ := Option.isSome_iff_exists.1 h
  exact Option.isSome_of_eq_some (anyAnswer_refersTo?_mono (Nat.le_succ depth) hanswer)

/-- A search that needs more entries than some number passes through that many, and none of them twice: each
needs more than the next. -/
theorem exists_entries_of_late_answer {depth : Nat} (hnone : types.refersTo? wanted depth field = none)
    (hsome : (types.refersTo? wanted (depth + 1) field).isSome = true) :
    ∃ entries : List MessageType, entries.length = depth + 1 ∧ entries.Nodup ∧
      ∀ entry ∈ entries, types.Registered (.message entry) ∧ types.Settles wanted depth entry := by
  induction depth generalizing field with
  | zero =>
      obtain ⟨hname, entry, hentry⟩ := exists_entryOf?_of_refersTo?_eq_none hnone
      rw [refersTo?_succ hname hentry] at hsome
      exact ⟨[entry], rfl, List.nodup_singleton entry,
        List.forall_mem_singleton.2 ⟨registered_of_entryOf? hentry, hsome⟩⟩
  | succ depth ih =>
      obtain ⟨hname, entry, hentry⟩ := exists_entryOf?_of_refersTo?_eq_none hnone
      rw [refersTo?_succ hname hentry] at hnone hsome
      obtain ⟨value, -, hvalue, hlater⟩ :=
        exists_of_anyAnswer_isSome (fun _ _ _ => refersTo?_mono) hnone hsome
      obtain ⟨entries, hlength, hnodup, hentries⟩ := ih hvalue hlater
      refine ⟨entry :: entries, by rw [List.length_cons, hlength], List.nodup_cons.2 ⟨?_, hnodup⟩, ?_⟩
      · intro hmem
        have hsettles : (anyAnswer (types.refersTo? wanted depth) entry.valueFields).isSome = true :=
          (hentries entry hmem).2
        rw [hnone] at hsettles
        cases hsettles
      · refine List.forall_mem_cons.2 ⟨⟨registered_of_entryOf? hentry, hsome⟩, fun other hother => ?_⟩
        exact ⟨(hentries other hother).1, (hentries other hother).2.succ⟩

/-- A search that comes to an answer passes through no more entries than there are messages. -/
theorem refersTo?_size_of_later {depth : Nat} {answer : Bool}
    (h : types.refersTo? wanted depth field = some answer) :
    types.refersTo? wanted types.messages.size field = some answer := by
  by_cases hle : depth ≤ types.messages.size
  · exact refersTo?_mono_le hle h
  · cases hnone : types.refersTo? wanted types.messages.size field with
    | none =>
        -- Without an answer at the number of messages there is none at any larger number.
        have hnever : ∀ more, types.refersTo? wanted (types.messages.size + more) field = none := by
          intro more
          induction more with
          | zero => exact hnone
          | succ more ih =>
              by_contra hsome
              obtain ⟨entries, hlength, hnodup, hentries⟩ :=
                exists_entries_of_late_answer ih (Option.isSome_iff_ne_none.2 hsome)
              have hbound := length_le_size hnodup fun entry hentry => (hentries entry hentry).1
              omega
        have hdepth : types.messages.size + (depth - types.messages.size) = depth := by omega
        rw [← hdepth, hnever] at h
        cases h
    | some found =>
        have hmore := refersTo?_mono_le (not_le.1 hle).le hnone
        rwa [h, eq_comm] at hmore

/-- The bound of a search loses no answer. -/
theorem anyAnswer_size_eq_some_iff {fields : List Field} {answer : Bool} :
    anyAnswer (types.refersTo? wanted types.messages.size) fields = some answer ↔
      types.Answers wanted fields answer := by
  refine ⟨answers_of_anyAnswer, fun h => ?_⟩
  obtain ⟨depth, hdepth⟩ := h.exists_depth
  exact anyAnswer_mono (fun _ _ _ hfield => refersTo?_size_of_later hfield) hdepth

/-! ## Circles -/

/-- The values of an entry lead to another. -/
def EntryLeads (types : TypeTable) (entry other : MessageType) : Prop :=
  ∃ value ∈ entry.valueFields, types.entryOf? value = some other

/-- A field leads to an entry that leads back to itself. -/
def Circles (types : TypeTable) (field : Field) : Prop :=
  ∃ entry, types.entryOf? field = some entry ∧
    ∃ other, ReflTransGen types.EntryLeads entry other ∧ TransGen types.EntryLeads other other

/-- A search that finds no answer within a number of entries passes through one more. -/
theorem exists_chain_of_refersTo?_eq_none {depth : Nat} (h : types.refersTo? wanted depth field = none) :
    ∃ entry rest, types.entryOf? field = some entry ∧ rest.length = depth ∧
      List.IsChain types.EntryLeads (entry :: rest) ∧
      ∀ other ∈ entry :: rest, types.Registered (.message other) := by
  obtain ⟨hname, entry, hentry⟩ := exists_entryOf?_of_refersTo?_eq_none h
  have hregistered := registered_of_entryOf? hentry
  induction depth generalizing field entry with
  | zero => exact ⟨entry, [], hentry, rfl, List.isChain_singleton entry, by simpa using hregistered⟩
  | succ depth ih =>
      rw [refersTo?_succ hname hentry] at h
      obtain ⟨value, hvalue, hnone⟩ := exists_of_anyAnswer_eq_none h
      obtain ⟨hname, other, hother⟩ := exists_entryOf?_of_refersTo?_eq_none hnone
      obtain ⟨next, rest, hnext, hlength, hchain, hall⟩ :=
        ih hnone hname other hother (registered_of_entryOf? hother)
      refine ⟨entry, next :: rest, hentry, by rw [List.length_cons, hlength], ?_, ?_⟩
      · exact List.isChain_cons_cons.2 ⟨⟨value, hvalue, hnext⟩, hchain⟩
      · exact List.forall_mem_cons.2 ⟨hregistered, hall⟩

/-- Without a circle the search of a field has an answer, whatever is searched. -/
theorem refersTo?_isSome_of_not_circles (h : ¬ types.Circles field) (wanted : QualifiedName) :
    (types.refersTo? wanted types.messages.size field).isSome = true := by
  rw [Option.isSome_iff_ne_none]
  intro hnone
  obtain ⟨entry, rest, hentry, hlength, hchain, hregistered⟩ := exists_chain_of_refersTo?_eq_none hnone
  have hpairwise : (entry :: rest).Pairwise (TransGen types.EntryLeads) :=
    List.isChain_iff_pairwise.1 (hchain.imp fun _ _ => TransGen.single)
  -- No entry comes twice, as it would lead back to itself; but there are too many for that.
  have hnodup : (entry :: rest).Nodup := by
    refine hpairwise.imp_of_mem fun {first second} hfirst _ hleads hsame => ?_
    subst hsame
    refine h ⟨entry, hentry, first, ?_, hleads⟩
    rcases List.mem_cons.1 hfirst with rfl | hfirst
    · exact .refl
    · exact ((List.pairwise_cons.1 hpairwise).1 first hfirst).to_reflTransGen
  have hbound := length_le_size hnodup hregistered
  rw [List.length_cons, hlength] at hbound
  omega

/-- Fields without circles have an answer. -/
theorem exists_answers_of_not_circles {fields : List Field} (h : ∀ field ∈ fields, ¬ types.Circles field)
    (wanted : QualifiedName) : ∃ answer, types.Answers wanted fields answer := by
  have hsome : (anyAnswer (types.refersTo? wanted types.messages.size) fields).isSome = true :=
    anyAnswer_isSome fun field hfield => refersTo?_isSome_of_not_circles (h field hfield) wanted
  obtain ⟨answer, hanswer⟩ := Option.isSome_iff_exists.1 hsome
  exact ⟨answer, answers_of_anyAnswer hanswer⟩

/-- A circle goes on behind its first entry. -/
theorem Circles.exists_value (h : types.Circles field) :
    ∃ entry, types.entryOf? field = some entry ∧ ∃ value ∈ entry.valueFields, types.Circles value := by
  obtain ⟨entry, hentry, other, hleads, hback⟩ := h
  refine ⟨entry, hentry, ?_⟩
  rcases hleads.cases_head with rfl | ⟨next, ⟨value, hvalue, hnext⟩, hrest⟩
  · obtain ⟨next, ⟨value, hvalue, hnext⟩, hrest⟩ := TransGen.head'_iff.1 hback
    exact ⟨value, hvalue, next, hnext, entry, hrest, hback⟩
  · exact ⟨value, hvalue, next, hnext, other, hrest, hback⟩

end TypeTable

/-! ## Names that no field means -/

/-- There are more names than any list holds. -/
theorem QualifiedName.exists_not_mem (names : List QualifiedName) :
    ∃ reference, ofReference reference ∉ names := by
  have hlong : ∃ text : List Char, '.' ∉ text ∧
      ∀ name ∈ names, name.text.toList.length < text.length := by
    refine ⟨List.replicate ((names.map (·.text.toList.length)).sum + 1) 'a', by simp, fun name hname => ?_⟩
    rw [List.length_replicate]
    exact Nat.lt_succ_of_le (List.le_sum_of_mem (List.mem_map_of_mem hname))
  obtain ⟨text, hplain, hlonger⟩ := hlong
  refine ⟨String.ofList text, fun hmem => ?_⟩
  have htext : (ofReference (String.ofList text)).text.toList = text := by
    rw [toList_ofReference_text, String.toList_ofList, trimDots_eq_self_of_not_mem hplain]
  have hless := hlonger _ hmem
  rw [htext] at hless
  exact Nat.lt_irrefl _ hless

namespace TypeTable

variable {types : TypeTable} {wanted : QualifiedName} {field : Field} {entry : MessageType}

/-- A registered message has the field. -/
def HasField (types : TypeTable) (field : Field) : Prop :=
  ∃ message, types.Registered (.message message) ∧ field ∈ message.entry.fields

theorem hasField_of_mem_valueFields (hentry : types.entryOf? field = some entry) {value : Field}
    (hvalue : value ∈ entry.valueFields) : types.HasField value :=
  ⟨entry, registered_of_entryOf? hentry, List.mem_of_mem_filter hvalue⟩

/-- No field of a registered message means the name. -/
def NamedNowhere (types : TypeTable) (name : QualifiedName) : Prop :=
  ∀ field, types.HasField field → field.namedName? ≠ some name

theorem exists_namedNowhere (types : TypeTable) :
    ∃ reference, types.NamedNowhere (QualifiedName.ofReference reference) := by
  obtain ⟨reference, hreference⟩ := QualifiedName.exists_not_mem
    (types.messages.toList.flatMap fun named => named.2.fields.filterMap (·.namedName?))
  refine ⟨reference, ?_⟩
  rintro field ⟨message, hregistered, hfield⟩ hname
  refine hreference (List.mem_flatMap.2 ⟨(message.fullName, message.entry), ?_, ?_⟩)
  · exact Std.ExtTreeMap.mem_toList_iff_getElem?_eq_some.2 hregistered
  · exact List.mem_filterMap.2 ⟨field, hfield, hname⟩

/-- A search for a name that no field means finds nothing. -/
theorem Answers.eq_false (hwanted : types.NamedNowhere wanted) {fields : List Field} {answer : Bool}
    (h : types.Answers wanted fields answer) (hfields : ∀ field ∈ fields, types.HasField field) :
    answer = false := by
  induction h with
  | nil => rfl
  | named hname => exact absurd hname (hwanted _ (hfields _ List.mem_cons_self))
  | plain _ _ _ ih => exact ih fun field hfield => hfields field (List.mem_cons_of_mem _ hfield)
  | found _ hentry _ ih => exact ih fun value hvalue => hasField_of_mem_valueFields hentry hvalue
  | missed _ _ _ _ _ ih => exact ih fun field hfield => hfields field (List.mem_cons_of_mem _ hfield)

theorem refersTo?_ne_some_true (hwanted : types.NamedNowhere wanted) (hfield : types.HasField field)
    (depth : Nat) : types.refersTo? wanted depth field ≠ some true := by
  intro htrue
  have hanswer : anyAnswer (types.refersTo? wanted depth) [field] = some true := by
    rw [anyAnswer_singleton, htrue]
  cases (answers_of_anyAnswer hanswer).eq_false hwanted (List.forall_mem_singleton.2 hfield)

/-- The search for such a name never leaves a circle. -/
theorem refersTo?_eq_none_of_circles (hwanted : types.NamedNowhere wanted) (hfield : types.HasField field)
    (h : types.Circles field) (depth : Nat) : types.refersTo? wanted depth field = none := by
  have hname := hwanted field hfield
  obtain ⟨entry, hentry, value, hvalue, hcircles⟩ := h.exists_value
  induction depth generalizing field entry value with
  | zero => exact refersTo?_zero hname hentry
  | succ depth ih =>
      have hhas := hasField_of_mem_valueFields hentry hvalue
      obtain ⟨next, hnext, inner, hinner, hrest⟩ := hcircles.exists_value
      rw [refersTo?_succ hname hentry]
      refine anyAnswer_eq_none hvalue (ih hhas hcircles (hwanted value hhas) next hnext inner hinner hrest) ?_
      exact fun other hother =>
        refersTo?_ne_some_true hwanted (hasField_of_mem_valueFields hentry hother) depth

/-! ## Searches of all messages -/

/-- The search for the messages that contain a type ends exactly if that of every listed message does. -/
theorem messagesContaining?_isSome_iff_answers (types : TypeTable) (reference : String) :
    (types.messagesContaining? reference).isSome = true ↔ ∀ message ∈ types.listedMessages,
      ∃ answer, types.Answers (QualifiedName.ofReference reference) message.entry.fields answer := by
  have hsome : (types.messagesContaining? reference).isSome = true ↔
      (types.listedMessages.filterM (types.contains? (QualifiedName.ofReference reference))).isSome = true := by
    rw [messagesContaining?]
    cases types.listedMessages.filterM (types.contains? (QualifiedName.ofReference reference)) <;> rfl
  rw [hsome, filterM_isSome_iff]
  simp only [contains?, Option.isSome_iff_exists, anyAnswer_size_eq_some_iff]

/-- All searches end exactly if no field of a listed message leads to a circle. -/
theorem forall_messagesContaining?_isSome_iff (types : TypeTable) :
    (∀ reference, (types.messagesContaining? reference).isSome = true) ↔
      ∀ message ∈ types.listedMessages, ∀ field ∈ message.entry.fields, ¬ types.Circles field := by
  simp only [messagesContaining?_isSome_iff_answers]
  constructor
  · intro hends message hmessage field hfield hcircles
    -- A name that no field means is searched for in all fields, the one that leads to a circle included.
    obtain ⟨reference, hreference⟩ := types.exists_namedNowhere
    have hhas : ∀ other ∈ message.entry.fields, types.HasField other :=
      fun other hother => ⟨message, (mem_listedMessages_iff.1 hmessage).1, hother⟩
    have hnone := refersTo?_eq_none_of_circles hreference (hhas field hfield) hcircles types.messages.size
    obtain ⟨answer, hanswer⟩ := hends reference message hmessage
    rw [← anyAnswer_size_eq_some_iff, anyAnswer_eq_none hfield hnone fun other hother =>
      refersTo?_ne_some_true hreference (hhas other hother) _] at hanswer
    cases hanswer
  · exact fun hplain reference message hmessage => exists_answers_of_not_circles (hplain message hmessage) _

/-- Where the values of entries are singular, no entry leads to another. -/
theorem not_circles_of_singular
    (h : ∀ entry, types.Registered (.message entry) → entry.isMapEntry = true →
      ∀ value ∈ entry.valueFields, value.cardinality = .singular) (field : Field) :
    ¬ types.Circles field := by
  intro hcircles
  obtain ⟨entry, hentry, value, hvalue, hrest⟩ := hcircles.exists_value
  have hsingular := h entry (registered_of_entryOf? hentry) (entryOf?_eq_some_iff.1 hentry).2.2 value hvalue
  obtain ⟨next, hnext, -⟩ := hrest
  have hrepeated : value.cardinality = .repeated := (entryOf?_eq_some_iff.1 hnext).2.1
  rw [hsingular] at hrepeated
  cases hrepeated

/-- Search any table for the messages that contain a type.  The search has a result exactly if, without a bound,
the search of the fields of every listed message comes to an answer; a search that does not goes on for ever.
All searches have a result exactly if no field of a listed message leads to a map entry whose repeated values
lead back to it.  It is enough that the values of entries are singular, as linking leaves them. -/
theorem messagesContaining?_isSome_iff (types : TypeTable) :
    (∀ reference, (types.messagesContaining? reference).isSome = true ↔
      ∀ message ∈ types.listedMessages,
        ∃ answer, types.Answers (QualifiedName.ofReference reference) message.entry.fields answer) ∧
    ((∀ reference, (types.messagesContaining? reference).isSome = true) ↔
      ∀ message ∈ types.listedMessages, ∀ field ∈ message.entry.fields, ¬ types.Circles field) ∧
    ((∀ entry, types.Registered (.message entry) → entry.isMapEntry = true →
        ∀ value ∈ entry.valueFields, value.cardinality = .singular) →
      ∀ reference, (types.messagesContaining? reference).isSome = true) := by
  refine ⟨messagesContaining?_isSome_iff_answers types, forall_messagesContaining?_isSome_iff types, ?_⟩
  intro hsingular
  exact (forall_messagesContaining?_isSome_iff types).2 fun _ _ field _ =>
    not_circles_of_singular hsingular field

end TypeTable

/-- The values of an entry are singular where descriptors are linked. -/
theorem MessageType.Linked.singular_valueFields {types : TypeTable} {entry : MessageType}
    (h : entry.Linked types) (hentry : entry.isMapEntry = true) :
    ∀ value ∈ entry.valueFields, value.cardinality = .singular := by
  intro value hvalue
  obtain ⟨hmem, hnumber⟩ := List.mem_filter.1 hvalue
  have hfield : ⟨entry, value⟩ ∈ entry.fields.filter (·.number == 2) :=
    List.mem_filter.2 ⟨List.mem_map_of_mem hmem, hnumber⟩
  have hcardinality : value.cardinality ∈ (entry.fields.filter (·.number == 2)).map (·.cardinality) :=
    List.mem_map_of_mem hfield
  rw [h.values hentry] at hcardinality
  exact List.mem_singleton.1 hcardinality

/-- Messages that lead to each other through maps do not make searches circle. -/
theorem cyclicTypes_searches_end (reference : String) :
    (cyclicTypes.messagesContaining? reference).isSome = true :=
  (TypeTable.messagesContaining?_isSome_iff cyclicTypes).2.2
    (fun entry hentry => (cyclicTypes_linked entry hentry).singular_valueFields) reference

/-- A map entry whose values are any number of the entry itself. -/
def circlingFile : File where
  package := some "t"
  messages := [
    { name := some "M"
      fields := [
        { name := some "f", number := some 1, label := some 3, type := some 11, typeName := some ".t.M.E" }]
      messages := [
        { name := some "E"
          options := some { mapEntry := some true }
          fields := [
            { name := some "value", number := some 2, label := some 3, type := some 11
              typeName := some ".t.M.E" }] }] }]

/-- A search may go on for ever, for a name that need not be registered. -/
theorem exists_search_without_answer :
    ∃ (files : FileSet) (reference : String),
      let types := (Registry.ofFiles files).types
      types.messagesContaining? reference = none ∧
        ∃ message ∈ types.listedMessages,
          (∀ answer, ¬ types.Answers (QualifiedName.ofReference reference) message.entry.fields answer) ∧
          ∃ field ∈ message.entry.fields, types.Circles field := by
  refine ⟨[circlingFile], "t.X", ?_⟩
  intro types
  have hnone : types.messagesContaining? "t.X" = none := by decide +kernel
  refine ⟨hnone, ?_⟩
  have hstuck : ¬ ∀ message ∈ types.listedMessages,
      ∃ answer, types.Answers (QualifiedName.ofReference "t.X") message.entry.fields answer := by
    rw [← TypeTable.messagesContaining?_isSome_iff_answers, hnone]
    exact Bool.false_ne_true
  simp only [not_forall] at hstuck
  obtain ⟨message, hmessage, hanswers⟩ := hstuck
  refine ⟨message, hmessage, fun answer hanswer => hanswers ⟨answer, hanswer⟩, ?_⟩
  by_contra hcircles
  exact hanswers (TypeTable.exists_answers_of_not_circles (fun field hfield hcircle =>
    hcircles ⟨field, hfield, hcircle⟩) _)

end CustomResource
