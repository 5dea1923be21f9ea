import CustomResource.Proofs.Generation.Coverage
import CustomResource.Proofs.QualifiedName
import CustomResource.Registry.Containment

/-!
# Containment and generation

Which messages contain a type is searched by the texts of references, without regard to kinds.  Generation
resolves kinds first and then requests the types that they refer to.  On linked descriptors the two agree,
since a search passes through one map entry at most, and there it takes the field that generation takes the
values from, see `refersTo?_eq_leadsTo?`.  So a search always has an answer, and it lists a message exactly if
mapping its fields requests the type, `mem_messagesContaining_iff_requested`.
-/

namespace CustomResource

open Descriptor

/-! ## Answers -/

@[simp] theorem anyAnswer_singleton {α : Type} (test : α → Option Bool) (a : α) :
    anyAnswer test [a] = test a := by
  rw [anyAnswer]
  cases test a with
  | none => rfl
  | some answer => cases answer <;> rfl

theorem anyAnswer_eq_some {α : Type} {test : α → Option Bool} {holds : α → Bool} {list : List α}
    (h : ∀ a ∈ list, test a = some (holds a)) : anyAnswer test list = some (list.any holds) := by
  induction list with
  | nil => rfl
  | cons a rest ih =>
      have hrest := ih fun b hb => h b (List.mem_cons_of_mem _ hb)
      rw [anyAnswer, h a List.mem_cons_self, List.any_cons]
      cases holds a with
      | true => rfl
      | false => exact hrest

theorem anyAnswer_isSome {α : Type} {test : α → Option Bool} {list : List α}
    (h : ∀ a ∈ list, (test a).isSome = true) : (anyAnswer test list).isSome = true := by
  have htest : ∀ a ∈ list, test a = some ((test a).getD false) := by
    intro a ha
    obtain ⟨answer, hanswer⟩ := Option.isSome_iff_exists.1 (h a ha)
    simp [hanswer]
  rw [anyAnswer_eq_some htest]
  rfl

theorem filterM_eq_some {α : Type} {test : α → Option Bool} {list : List α}
    (h : ∀ a ∈ list, (test a).isSome = true) :
    list.filterM test = some (list.filter fun a => test a == some true) := by
  have haux : ∀ kept : List α, List.filterAuxM test list kept =
      some ((list.filter fun a => test a == some true).reverse ++ kept) := by
    induction list with
    | nil => exact fun _ => rfl
    | cons a rest ih =>
        intro kept
        have hrest := ih fun b hb => h b (List.mem_cons_of_mem _ hb)
        obtain ⟨answer, hanswer⟩ := Option.isSome_iff_exists.1 (h a List.mem_cons_self)
        cases answer <;> simp [List.filterAuxM, hanswer, hrest]
  simp [List.filterM, haux]

/-! ## Linked descriptors -/

namespace MessageField

/-- The message that the reference of a field means, whatever type the field states. -/
def namedMessage? (types : TypeTable) (field : MessageField) : Option MessageType :=
  field.declaration.typeName.bind types.message?

/-- Whether the reference of a field means a map entry. -/
def namesEntry (types : TypeTable) (field : MessageField) : Bool :=
  (field.namedMessage? types).any (·.isMapEntry)

end MessageField

/-- A message as linking leaves it: its scalar fields refer to nothing, only repeated fields that state the
message type or none refer to map entries, and if it is an entry itself, it has one field of values, which is
singular and therefore refers to no entry in turn. -/
structure MessageType.Linked (types : TypeTable) (message : MessageType) : Prop where
  scalar : ∀ field ∈ message.fields, field.isScalar = true → field.declaration.typeName = none
  referred : ∀ field ∈ message.fields, field.namesEntry types = true →
    field.cardinality = .repeated ∧
      (field.declaration.type = none ∨ field.declaration.type.bind FieldType.ofCode? = some .message)
  values : message.isMapEntry = true →
    (message.fields.filter (·.number == 2)).map (·.cardinality) = [.singular]

instance (types : TypeTable) (message : MessageType) : Decidable (message.Linked types) :=
  decidable_of_iff
    ((∀ field ∈ message.fields, field.isScalar = true → field.declaration.typeName = none) ∧
      (∀ field ∈ message.fields, field.namesEntry types = true →
        field.cardinality = .repeated ∧ (field.declaration.type = none ∨
          field.declaration.type.bind FieldType.ofCode? = some .message)) ∧
      (message.isMapEntry = true →
        (message.fields.filter (·.number == 2)).map (·.cardinality) = [.singular]))
    ⟨fun h => ⟨h.1, h.2.1, h.2.2⟩, fun h => ⟨h.scalar, h.referred, h.values⟩⟩

/-- Descriptors as linking leaves them.  It does not matter whether messages and enums share names. -/
def TypeTable.Linked (types : TypeTable) : Prop :=
  ∀ message, types.Registered (.message message) → message.Linked types

/-- A name that may be asked for: no map entry has it. -/
def TypeTable.NamesNoEntry (types : TypeTable) (name : String) : Prop :=
  ∀ message, types.message? name = some message → message.isMapEntry = false

theorem TypeTable.NamesNoEntry.text_ofReference {types : TypeTable} {name : String}
    (h : types.NamesNoEntry name) : types.NamesNoEntry (QualifiedName.ofReference name).text := by
  rwa [NamesNoEntry, message?_text_ofReference]

/-! ## Searching a field -/

section

variable {types : TypeTable} {wanted : QualifiedName}

/-- One step of the search. -/
theorem refersTo?_eq (types : TypeTable) (wanted : QualifiedName) (depth : Nat) (field : Field) :
    types.refersTo? wanted depth field =
      match field.typeName with
      | none => some false
      | some reference =>
          if QualifiedName.ofReference reference = wanted then some true
          else
            match types.message? (QualifiedName.ofReference reference).text with
            | none => some false
            | some entry =>
                if field.cardinality = .repeated ∧ entry.isMapEntry then
                  match depth with
                  | 0 => none
                  | depth + 1 =>
                      anyAnswer (types.refersTo? wanted depth)
                        (entry.entry.fields.filter (·.number.getD 0 == 2))
                else some false := by
  -- The equation that the definition comes with is slow to derive; both cases of the depth unfold to it.
  cases depth with
  | zero =>
      delta TypeTable.refersTo?
      rfl
  | succ depth =>
      delta TypeTable.refersTo?
      rfl

/-- Whether the reference of a field means a name. -/
def MessageField.refersDirectly (wanted : QualifiedName) (field : MessageField) : Bool :=
  field.declaration.typeName.any fun reference => QualifiedName.ofReference reference = wanted

/-- The search ends at a field that is no map. -/
theorem refersTo?_of_not_map {field : MessageField}
    (h : ¬ (field.cardinality = .repeated ∧ field.namesEntry types = true)) (depth : Nat) :
    types.refersTo? wanted depth field.declaration = some (field.refersDirectly wanted) := by
  rw [refersTo?_eq]
  cases hname : field.declaration.typeName with
  | none => simp [MessageField.refersDirectly, hname]
  | some reference =>
      by_cases hwanted : QualifiedName.ofReference reference = wanted
      · simp [MessageField.refersDirectly, hname, hwanted]
      · simp only [MessageField.namesEntry, MessageField.namedMessage?, hname, Option.bind_some] at h
        cases hmessage : types.message? reference with
        | none => simp [MessageField.refersDirectly, hname, hwanted, hmessage]
        | some message =>
            rw [hmessage, Option.any_some] at h
            have hplain : ¬ (field.declaration.cardinality = .repeated ∧ message.isMapEntry = true) := h
            simp [MessageField.refersDirectly, hname, hwanted, hmessage, hplain]

theorem registered_of_namedMessage? {field : MessageField} {message : MessageType}
    (h : field.namedMessage? types = some message) : types.Registered (.message message) := by
  obtain ⟨reference, _, hmessage⟩ := Option.bind_eq_some_iff.1 h
  exact TypeTable.registered_of_message? hmessage

/-- The search of a map field ends at the values of its entry. -/
theorem refersTo?_of_map (hlinked : types.Linked) {field : MessageField} {entry : MessageType}
    (hrepeated : field.cardinality = .repeated) (hname : field.namedMessage? types = some entry)
    (hentry : entry.isMapEntry = true) (hwanted : types.NamesNoEntry wanted.text) (depth : Nat) :
    ∃ value ∈ entry.fields, entry.fieldNumbered? 2 = some value ∧
      types.refersTo? wanted (depth + 1) field.declaration = some (value.refersDirectly wanted) := by
  have hregistered := registered_of_namedMessage? hname
  obtain ⟨reference, hreference, hmessage⟩ := Option.bind_eq_some_iff.1 hname
  obtain ⟨value, hvalues, hsingular⟩ :=
    List.map_eq_singleton_iff.1 ((hlinked entry hregistered).values hentry)
  have hmem : value ∈ entry.fields := by
    refine List.mem_of_mem_filter (p := (·.number == 2)) ?_
    rw [hvalues]
    exact List.mem_singleton_self value
  refine ⟨value, hmem, ?_, ?_⟩
  · rw [MessageType.fieldNumbered?, ← List.head?_filter, hvalues]
    rfl
  · -- Map entries are not asked for, so the search does not end at the field itself.
    have hdirect : QualifiedName.ofReference reference ≠ wanted := by
      rintro rfl
      have hplain := hwanted entry (by rw [TypeTable.message?_text_ofReference, hmessage])
      rw [hentry] at hplain
      cases hplain
    have hfields : entry.entry.fields.filter (·.number.getD 0 == 2) = [value.declaration] := by
      have hdeclarations := congrArg (List.map MessageField.declaration) hvalues
      rw [MessageType.fields, List.filter_map, List.map_map] at hdeclarations
      simpa [Function.comp_def, MessageField.number] using hdeclarations
    have hmap : field.declaration.cardinality = .repeated ∧ entry.isMapEntry = true := ⟨hrepeated, hentry⟩
    rw [refersTo?_eq]
    simp only [hreference, if_neg hdirect, TypeTable.message?_text_ofReference, hmessage, if_pos hmap,
      hfields, anyAnswer_singleton]
    exact refersTo?_of_not_map (fun h => by rw [h.1] at hsingular; cases hsingular) depth

/-- The name that a field refers to is that of the type its kind refers to. -/
theorem refersDirectly_of_kind {field : MessageField} {kind : Kind} (h : field.kind types = .ok kind)
    (hscalar : field.isScalar = true → field.declaration.typeName = none) :
    field.refersDirectly wanted = kind.declared?.any fun type => type.fullName == wanted.text := by
  rcases MessageField.scalar_or_names_of_kind h with ⟨hplain, hnone⟩ |
    ⟨name, type, hname, htype, hnames⟩
  · rw [MessageField.refersDirectly, hscalar hplain, hnone]
    rfl
  · have hfullName := (TypeTable.names_iff.1 hnames).2
    rw [MessageField.refersDirectly, hname, htype, Option.any_some, Option.any_some, hfullName,
      Bool.eq_iff_iff, decide_eq_true_iff, beq_iff_eq, QualifiedName.text_inj]

theorem kind_eq_message {field : MessageField} {message : MessageType} {kind : Kind}
    (hname : field.namedMessage? types = some message)
    (htype : field.declaration.type = none ∨
      field.declaration.type.bind FieldType.ofCode? = some .message)
    (hkind : field.kind types = .ok kind) : kind = .message message := by
  obtain ⟨reference, hreference, hmessage⟩ := Option.bind_eq_some_iff.1 hname
  rcases htype with htype | htype
  · simp only [MessageField.kind, htype, MessageField.unlinkedKind, bind_eq_ok_iff] at hkind
    obtain ⟨name, hname, hkind⟩ := hkind
    rw [MessageField.eq_some_of_typeName hname, Option.some.injEq] at hreference
    rw [hreference, hmessage] at hkind
    cases hkind
    rfl
  · obtain ⟨code, hcode, hmeaning⟩ := Option.bind_eq_some_iff.1 htype
    simp only [MessageField.kind, hcode, hmeaning, map_eq_ok_iff] at hkind
    obtain ⟨referred, hreferred, rfl⟩ := hkind
    obtain ⟨name, hname, hnames⟩ := MessageField.names_of_referredMessage hreferred
    rw [hname, Option.some.injEq] at hreference
    rw [← hreference] at hmessage
    exact congrArg Kind.message (Option.some.inj (hnames.symm.trans hmessage))

/-- A field that has a kind but no entry is no map. -/
theorem not_map_of_mapEntry? {message : MessageType} (hlinked : message.Linked types)
    {field : MessageField} (hfield : field ∈ message.fields) {kind : Kind}
    (hentry : field.mapEntry? types = .ok none) (hkind : field.kind types = .ok kind) :
    ¬ (field.cardinality = .repeated ∧ field.namesEntry types = true) := by
  rintro ⟨hrepeated, hnames⟩
  obtain ⟨entry, hname, hisEntry⟩ := (Option.any_eq_true _ _).1 hnames
  have hmessage := kind_eq_message hname (hlinked.referred field hfield hnames).2 hkind
  subst hmessage
  have hsingular : field.cardinality ≠ .singular := by
    rw [hrepeated]
    exact Cardinality.noConfusion
  rw [MessageField.mapEntry?, if_neg hsingular, bind_eq_ok_iff] at hentry
  obtain ⟨found, hfound, hentry⟩ := hentry
  rw [hkind, Except.ok.injEq] at hfound
  subst hfound
  simp only [hisEntry, if_true, functor_map_eq_ok_iff, reduceCtorEq, and_false, exists_false] at hentry

theorem exists_of_mapEntry? {field : MessageField} {entry : MapEntry}
    (h : field.mapEntry? types = .ok (some entry)) :
    ∃ message, field.cardinality = .repeated ∧ field.namedMessage? types = some message ∧
      message.isMapEntry = true ∧ message.mapEntry = .ok entry := by
  unfold MessageField.mapEntry? at h
  split at h
  · cases h
  · next hcardinality =>
      have hrepeated : field.cardinality = .repeated := by
        cases hcase : field.cardinality with
        | singular => exact absurd hcase hcardinality
        | repeated => rfl
      obtain ⟨kind, hkind, h⟩ := bind_eq_ok_iff.1 h
      cases kind with
      | message message =>
          simp only at h
          split at h
          · next hisEntry =>
              obtain ⟨result, hresult, hsame⟩ := functor_map_eq_ok_iff.1 h
              cases hsame
              rcases MessageField.scalar_or_names_of_kind hkind with ⟨_, hnone⟩ |
                ⟨name, type, hname, htype, hnames⟩
              · cases hnone
              · cases htype
                refine ⟨message, hrepeated, ?_, hisEntry, hresult⟩
                rw [MessageField.namedMessage?, hname]
                exact hnames
          · cases h
      | scalar _ => cases h
      | group _ => cases h
      | enum _ => cases h

theorem fieldNumbered?_of_mapEntry {message : MessageType} {entry : MapEntry}
    (h : message.mapEntry = .ok entry) : message.fieldNumbered? 2 = some entry.value := by
  unfold MessageType.mapEntry at h
  split at h
  · next key value _ hvalue =>
      split at h
      · cases h
        exact hvalue
      · cases h
  · cases h

/-- The search of a field finds what the field leads to. -/
theorem refersTo?_eq_leadsTo? (hlinked : types.Linked) {message : MessageType}
    (hmessage : types.Registered (.message message)) {field : MessageField}
    (hfield : field ∈ message.fields) {kind : Kind} (hkind : field.valueKind types = .ok kind)
    (hwanted : types.NamesNoEntry wanted.text) (depth : Nat) :
    types.refersTo? wanted (depth + 1) field.declaration =
      some ((field.leadsTo? types).any fun type => type.fullName == wanted.text) := by
  have hleads : field.leadsTo? types = kind.declared? := by
    rw [MessageField.leadsTo?, hkind]
  rw [MessageField.valueKind, bind_eq_ok_iff] at hkind
  obtain ⟨entry, hentry, hkind⟩ := hkind
  cases entry with
  | none =>
      have hplain := not_map_of_mapEntry? (hlinked message hmessage) hfield hentry hkind
      have hscalar := (hlinked message hmessage).scalar field hfield
      rw [refersTo?_of_not_map hplain, refersDirectly_of_kind hkind hscalar, hleads]
  | some entry =>
      obtain ⟨entryMessage, hrepeated, hname, hisEntry, hentry⟩ := exists_of_mapEntry? hentry
      have hregistered := registered_of_namedMessage? hname
      obtain ⟨value, hmem, hnumbered, hsearch⟩ :=
        refersTo?_of_map hlinked hrepeated hname hisEntry hwanted depth
      rw [fieldNumbered?_of_mapEntry hentry, Option.some.injEq] at hnumbered
      subst hnumbered
      have hscalar := (hlinked entryMessage hregistered).scalar entry.value hmem
      rw [hsearch, refersDirectly_of_kind hkind hscalar, hleads]

/-- The search of a field has an answer. -/
theorem refersTo?_isSome (hlinked : types.Linked) (field : MessageField)
    (hwanted : types.NamesNoEntry wanted.text) (depth : Nat) :
    (types.refersTo? wanted (depth + 1) field.declaration).isSome = true := by
  by_cases hmap : field.cardinality = .repeated ∧ field.namesEntry types = true
  · obtain ⟨entry, hname, hentry⟩ := (Option.any_eq_true _ _).1 hmap.2
    obtain ⟨value, _, _, hsearch⟩ := refersTo?_of_map hlinked hmap.1 hname hentry hwanted depth
    rw [hsearch, Option.isSome_some]
  · rw [refersTo?_of_not_map hmap, Option.isSome_some]

/-! ## Searching all messages -/

theorem exists_size_eq_succ {message : MessageType} (h : types.Registered (.message message)) :
    ∃ depth, types.messages.size = depth + 1 := by
  refine Nat.exists_eq_succ_of_ne_zero fun hzero => ?_
  rw [← Std.ExtTreeMap.eq_empty_iff_size_eq_zero] at hzero
  rw [TypeTable.Registered, hzero] at h
  simp at h

/-- A message of fields that have kinds contains what its fields lead to. -/
theorem contains?_eq_successors (hlinked : types.Linked) {message : MessageType}
    (hmessage : types.Registered (.message message))
    (hkinds : ∀ field ∈ message.fields, ∃ kind, field.valueKind types = .ok kind)
    (hwanted : types.NamesNoEntry wanted.text) :
    types.contains? wanted message =
      some ((types.successors (.message message)).any fun type => type.fullName == wanted.text) := by
  obtain ⟨depth, hdepth⟩ := exists_size_eq_succ hmessage
  have hsearch : ∀ declaration ∈ message.entry.fields,
      types.refersTo? wanted (depth + 1) declaration =
        some (((⟨message, declaration⟩ : MessageField).leadsTo? types).any
          fun type => type.fullName == wanted.text) := by
    intro declaration hdeclaration
    have hfield : ⟨message, declaration⟩ ∈ message.fields := List.mem_map_of_mem hdeclaration
    obtain ⟨kind, hkind⟩ := hkinds _ hfield
    exact refersTo?_eq_leadsTo? hlinked hmessage hfield hkind hwanted depth
  rw [TypeTable.contains?, hdepth, anyAnswer_eq_some hsearch, TypeTable.successors, MessageType.fields,
    List.any_filterMap, List.any_map]
  rfl

theorem contains?_isSome (hlinked : types.Linked) {message : MessageType}
    (hmessage : types.Registered (.message message)) (hwanted : types.NamesNoEntry wanted.text) :
    (types.contains? wanted message).isSome = true := by
  obtain ⟨depth, hdepth⟩ := exists_size_eq_succ hmessage
  rw [TypeTable.contains?, hdepth]
  exact anyAnswer_isSome fun declaration _ =>
    refersTo?_isSome hlinked ⟨message, declaration⟩ hwanted depth

theorem mem_listedMessages_iff {message : MessageType} :
    message ∈ types.listedMessages ↔ types.Registered (.message message) ∧ message.isMapEntry = false := by
  rw [TypeTable.listedMessages, List.mem_filter, Bool.not_eq_true']
  refine and_congr_left fun _ => ?_
  constructor
  · intro hmem
    obtain ⟨⟨name, entry⟩, hpair, rfl⟩ := List.mem_map.1 hmem
    exact Std.ExtTreeMap.mem_toList_iff_getElem?_eq_some.1 hpair
  · intro hregistered
    exact List.mem_map.2 ⟨(message.fullName, message.entry),
      Std.ExtTreeMap.mem_toList_iff_getElem?_eq_some.2 hregistered, rfl⟩

/-- The search has an answer, and lists the messages that contain the type. -/
theorem messagesContaining?_eq_some (hlinked : types.Linked) {typeName : String}
    (hwanted : types.NamesNoEntry typeName) :
    types.messagesContaining? typeName =
      some ((types.listedMessages.filter fun message =>
        types.contains? (QualifiedName.ofReference typeName) message == some true).map (·.fullName)) := by
  have hanswers : ∀ message ∈ types.listedMessages,
      (types.contains? (QualifiedName.ofReference typeName) message).isSome = true := by
    intro message hmessage
    exact contains?_isSome hlinked (mem_listedMessages_iff.1 hmessage).1 hwanted.text_ofReference
  rw [TypeTable.messagesContaining?, filterM_eq_some hanswers]
  rfl

/-- Full names tell listed messages apart. -/
theorem mem_map_fullName_iff {message : MessageType} (hmessage : message ∈ types.listedMessages)
    (holds : MessageType → Bool) :
    message.fullName ∈ (types.listedMessages.filter holds).map (·.fullName) ↔ holds message = true := by
  constructor
  · intro hmem
    obtain ⟨other, hother, hname⟩ := List.mem_map.1 hmem
    obtain ⟨hlisted, hholds⟩ := List.mem_filter.1 hother
    have hentry : types.messages[other.fullName]? = some other.entry := (mem_listedMessages_iff.1 hlisted).1
    rw [hname, (mem_listedMessages_iff.1 hmessage).1, Option.some.injEq] at hentry
    have hsame : message = other := by
      cases message
      cases other
      exact congrArg₂ MessageType.mk hname.symm hentry
    rwa [hsame]
  · intro hholds
    exact List.mem_map_of_mem (List.mem_filter.2 ⟨hmessage, hholds⟩)

end

/-- Take linked descriptors, a message that is no map entry and whose fields can all be mapped, and any name but
that of a map entry.  The search for the name has an answer, and it lists the message exactly if mapping one of
the fields refers to the type of that name.  Where the message is declared, the planner is asked for that type
exactly if the message is listed. -/
theorem mem_messagesContaining_iff_requested {types : TypeTable} (hlinked : types.Linked)
    {info : ResourceInfo} {message : MessageType} (hmessage : types.Registered (.message message))
    (hplain : message.isMapEntry = false)
    (hmaps : ∀ field ∈ message.fields, ∃ mapping, mapField types info field = .ok mapping)
    {typeName : String} (hwanted : types.NamesNoEntry typeName) :
    ∃ names, types.messagesContaining? typeName = some names ∧
      (message.fullName ∈ names ↔
        ∃ field ∈ message.fields, ∃ mapping type, mapField types info field = .ok mapping ∧
          mapping.declared? = some type ∧ types.Names typeName type) ∧
      ∀ planner declaration,
        ((declareStep types info () (.message message)).run planner).2.map Prod.snd = .ok declaration →
          (message.fullName ∈ names ↔ ∃ type, types.Names typeName type ∧
            (type.fullName, type) ∈
              ((declareStep types info () (.message message)).requests planner).map Request.entry) := by
  have hkinds : ∀ field ∈ message.fields, ∃ kind, field.valueKind types = .ok kind := by
    intro field hfield
    obtain ⟨mapping, hmapping⟩ := hmaps field hfield
    obtain ⟨kind, _, hkind, _⟩ := exists_mappingOf_of_mapField hmapping
    exact ⟨kind, hkind⟩
  have hcontains := contains?_eq_successors hlinked hmessage hkinds hwanted.text_ofReference
  have hlisted := mem_listedMessages_iff.2 ⟨hmessage, hplain⟩
  have hsuccessors : message.fullName ∈ (types.listedMessages.filter fun message =>
      types.contains? (QualifiedName.ofReference typeName) message == some true).map (·.fullName) ↔
        ∃ type, type ∈ types.successors (.message message) ∧ types.Names typeName type := by
    rw [mem_map_fullName_iff hlisted, hcontains, beq_iff_eq, Option.some.injEq, List.any_eq_true]
    refine exists_congr fun type => and_congr_right fun htype => ?_
    rw [beq_iff_eq, TypeTable.names_iff]
    exact (and_iff_right (TypeTable.registered_of_mem_successors htype)).symm
  refine ⟨_, messagesContaining?_eq_some hlinked hwanted, ?_, ?_⟩
  · rw [hsuccessors]
    constructor
    · rintro ⟨type, htype, hnames⟩
      obtain ⟨field, hfield, hleads⟩ := List.mem_filterMap.1 htype
      obtain ⟨mapping, hmapping⟩ := hmaps field hfield
      exact ⟨field, hfield, mapping, type, hmapping, (declared?_of_mapField hmapping).trans hleads, hnames⟩
    · rintro ⟨field, hfield, mapping, type, hmapping, htype, hnames⟩
      rw [declared?_of_mapField hmapping] at htype
      exact ⟨type, List.mem_filterMap.2 ⟨field, hfield, htype⟩, hnames⟩
  · intro planner declaration hrun
    rw [hsuccessors, (run_declareStep hrun).2]
    constructor
    · rintro ⟨type, htype, hnames⟩
      exact ⟨type, hnames, List.mem_map_of_mem htype⟩
    · rintro ⟨type, hnames, hrequest⟩
      obtain ⟨next, hnext, hsame⟩ := List.mem_map.1 hrequest
      exact ⟨type, (Prod.mk.inj hsame).2 ▸ hnext, hnames⟩

theorem cyclicTypes_linked : cyclicTypes.Linked := by
  have hall : ∀ pair ∈ cyclicTypes.messages.toList,
      (⟨pair.1, pair.2⟩ : MessageType).Linked cyclicTypes := by
    decide +kernel
  intro message hmessage
  exact hall (message.fullName, message.entry)
    (Std.ExtTreeMap.mem_toList_iff_getElem?_eq_some.2 hmessage)

/-- The cyclic message contains itself as the values of a map. -/
theorem cyclicTypes_containing_root :
    ∃ message, cyclicTypes.Linked ∧ cyclicTypes.message? "t.M" = some message ∧
      message.isMapEntry = false ∧
      (∀ field ∈ message.fields,
        ∃ mapping, mapField cyclicTypes (.ofRoot {} message) field = .ok mapping) ∧
      cyclicTypes.NamesNoEntry ".t.M" ∧
      cyclicTypes.messagesContaining? ".t.M" = some ["t.M", "t.N"] ∧
      ∃ field ∈ message.fields, ∃ mapping type,
        mapField cyclicTypes (.ofRoot {} message) field = .ok mapping ∧
          mapping.declared? = some type ∧ cyclicTypes.Names ".t.M" type := by
  have hfacts : (cyclicTypes.message? "t.M").map (fun message =>
      (message.isMapEntry, message.fullName, message.fields.all fun field =>
        (mapField cyclicTypes (.ofRoot {} message) field).toOption.isSome)) =
          some (false, "t.M", true) := by
    decide +kernel
  obtain ⟨message, hmessage, hpair⟩ := Option.map_eq_some_iff.1 hfacts
  simp only [Prod.mk.injEq, List.all_eq_true] at hpair
  obtain ⟨hplain, hname, hfields⟩ := hpair
  have hmaps : ∀ field ∈ message.fields,
      ∃ mapping, mapField cyclicTypes (.ofRoot {} message) field = .ok mapping := by
    intro field hfield
    have hmapped := hfields field hfield
    cases hmapping : mapField cyclicTypes (.ofRoot {} message) field with
    | error error =>
        rw [hmapping] at hmapped
        cases hmapped
    | ok mapping => exact ⟨mapping, rfl⟩
  have hwanted : cyclicTypes.NamesNoEntry ".t.M" := by
    have hsame : cyclicTypes.message? ".t.M" = cyclicTypes.message? "t.M" := by
      decide +kernel
    intro other hother
    rw [hsame, hmessage, Option.some.injEq] at hother
    exact hother ▸ hplain
  have hlisted : cyclicTypes.messagesContaining? ".t.M" = some ["t.M", "t.N"] := by
    decide +kernel
  obtain ⟨names, hnames, hiff, _⟩ := mem_messagesContaining_iff_requested cyclicTypes_linked
    (TypeTable.registered_of_message? hmessage) hplain hmaps hwanted
  rw [hlisted, Option.some.injEq] at hnames
  refine ⟨message, cyclicTypes_linked, hmessage, hplain, hmaps, hwanted, hlisted, hiff.1 ?_⟩
  rw [← hnames, hname]
  exact List.mem_cons_self

end CustomResource
