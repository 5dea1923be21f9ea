import CustomResource.Proofs.Generation.StructFields
import CustomResource.Proofs.Matcher

/-!
# Where configured attributes are placed

A configuration places attributes on types and on fields.  Taken out of it, they leave a configuration of which a
run makes the same plan, and `generate_places_configured_attributes` says what they add to the source of the plan:
behind the attributes that a declaration has without them stand those whose matchers select its type, behind the
attributes of each field of a struct those whose matchers select the field, all in the order of configuration.
Nothing else changes, so variants and the types of the envelope carry none.
-/

namespace CustomResource

open Source

/-! ## Selected attributes -/

/-- The configured attributes whose matchers select a path, in the order of configuration. -/
def attributesAt (configured : List (String × String)) (path : List String) : List Attribute :=
  (configured.filter fun entry => Matcher.Selects entry.1 path).flatMap fun entry =>
    (attributes? entry.2).getD []

theorem exists_of_readAttributes {entry : String × String} {read : Matcher × List Attribute}
    (h : readAttributes entry = .ok read) :
    ∃ attributes, attributes? entry.2 = some attributes ∧ read = (.ofText entry.1, attributes) := by
  unfold readAttributes at h
  split at h
  · next attributes hattributes =>
      cases h
      exact ⟨attributes, hattributes, rfl⟩
  · cases h

/-- The attributes that are read with accepting matchers are those whose texts select the path. -/
theorem flatMap_filter_accepts {configured : List (String × String)} {path : List String} :
    ∀ {read : List (Matcher × List Attribute)}, configured.mapM readAttributes = .ok read →
      (read.filter fun entry => entry.1.accepts path).flatMap (·.2) = attributesAt configured path := by
  induction configured with
  | nil =>
      intro read h
      rw [List.mapM_nil, pure_eq_ok_iff] at h
      subst h
      rfl
  | cons entry rest ih =>
      intro read h
      obtain ⟨first, more, hfirst, hrest, rfl⟩ := mapM_cons_eq_ok_iff.1 h
      obtain ⟨attributes, hattributes, rfl⟩ := exists_of_readAttributes hfirst
      have hmore := ih hrest
      unfold attributesAt at hmore ⊢
      by_cases hselects : Matcher.Selects entry.1 path
      · have haccepts : (Matcher.ofText entry.1).accepts path = true := Matcher.accepts_ofText_iff.2 hselects
        simp [haccepts, hselects, hattributes, hmore]
      · have haccepts : (Matcher.ofText entry.1).accepts path = false := by
          rwa [← Bool.not_eq_true, Matcher.accepts_ofText_iff]
        simp [haccepts, hselects, hmore]

/-- What a configuration has when it is read. -/
theorem steps_of_presentation {config : Config} {presentation : Presentation}
    (h : config.presentation = .ok presentation) :
    config.derives.mapM readDerive = .ok presentation.derives ∧
      config.typeAttributes.mapM readAttributes = .ok presentation.typeAttributes ∧
      config.fieldAttributes.mapM readAttributes = .ok presentation.fieldAttributes ∧
      config.mapType = presentation.mapType ∧ config.bytesType = presentation.bytesType := by
  simp only [Config.presentation, bind_eq_ok_iff, pure_eq_ok_iff] at h
  obtain ⟨derives, hderives, typeAttributes, htypes, fieldAttributes, hfields, rfl⟩ := h
  exact ⟨hderives, htypes, hfields, rfl, rfl⟩

theorem attributesOfType_eq {config : Config} {presentation : Presentation}
    (h : config.presentation = .ok presentation) (name : String) :
    presentation.attributesOfType name = attributesAt config.typeAttributes (QualifiedName.path ⟨name⟩) :=
  flatMap_filter_accepts (steps_of_presentation h).2.1

theorem attributesOfField_eq {config : Config} {presentation : Presentation}
    (h : config.presentation = .ok presentation) (messageName fieldName : String) :
    presentation.attributesOfField messageName fieldName =
      attributesAt config.fieldAttributes (QualifiedName.path ⟨messageName⟩ ++ [fieldName]) :=
  flatMap_filter_accepts (steps_of_presentation h).2.2.1

/-! ## Taking attributes out -/

/-- The configuration without its attributes. -/
def Config.withoutAttributes (config : Config) : Config :=
  { config with typeAttributes := [], fieldAttributes := [] }

/-- The presentation without its attributes. -/
def Presentation.withoutAttributes (presentation : Presentation) : Presentation :=
  { presentation with typeAttributes := [], fieldAttributes := [] }

theorem presentation_withoutAttributes {config : Config} {presentation : Presentation}
    (h : config.presentation = .ok presentation) :
    config.withoutAttributes.presentation = .ok presentation.withoutAttributes := by
  obtain ⟨hderives, -, -, hmapType, hbytesType⟩ := steps_of_presentation h
  have hempty : ([] : List (String × String)).mapM readAttributes = .ok [] := rfl
  simp only [Config.presentation, Config.withoutAttributes, bind_eq_ok_iff, pure_eq_ok_iff]
  refine ⟨_, hderives, _, hempty, _, hempty, ?_⟩
  rw [hmapType, hbytesType]
  rfl

/-- A run makes the same plan without the attributes of its configuration. -/
theorem generatePlan_withoutAttributes {config : Config} {types : TypeTable} {typeName : String}
    {plan : ResourcePlan} {presentation : Presentation}
    (h : generatePlan config types typeName = .ok (plan, presentation)) :
    generatePlan config.withoutAttributes types typeName = .ok (plan, presentation.withoutAttributes) := by
  rw [generatePlan_eq_ok_iff] at h ⊢
  obtain ⟨⟨root, hprepared⟩, hdistinct⟩ := h
  -- Nothing but the presentation is made from the attributes.
  exact ⟨⟨root, { hprepared with read := presentation_withoutAttributes hprepared.read }⟩, hdistinct⟩

/-! ## Adding attributes -/

/-- A field of a struct with attributes behind its own. -/
def Source.StructField.withMore (field : StructField) (more : List Attribute) : StructField :=
  { field with attributes := field.attributes ++ more }

/-- An item with attributes behind its own and behind those of its fields, one list for each.  Variants stay as
they are. -/
def Source.Item.withMore (item : Item) (own : List Attribute) (ofFields : List (List Attribute)) : Item where
  attributes := item.attributes ++ own
  name := item.name
  members :=
    match item.members with
    | .fields list => .fields (List.zipWith StructField.withMore list ofFields)
    | .variants list => .variants list

/-- The fields of a type that its struct holds, in order of declaration.  Enums have none. -/
def DeclaredType.writtenFields (types : TypeTable) (type : DeclaredType) : List MessageField :=
  match type with
  | message type => type.fields.filter fun field => field.isRepresented types
  | enum _ => []

theorem owner_of_mem_fields {message : MessageType} {field : MessageField} (h : field ∈ message.fields) :
    field.owner = message := by
  obtain ⟨_, _, rfl⟩ := List.mem_map.1 h
  rfl

/-- The fields that a declared message holds are those that its type has in a struct. -/
theorem map_field_of_declare {types : TypeTable} {info : ResourceInfo} {type : DeclaredType}
    {declaration : MessageDeclaration} (h : declare types info type = .ok (.message declaration)) :
    (declaration.fields.filterMap (·.mapped?)).map (·.field) =
      (DeclaredType.message declaration.type).writtenFields types := by
  have hfields := congrArg (List.map fun names => names.1) (emitted_of_declare h)
  simp only [List.map_map, Function.comp_def, List.map_id'] at hfields
  exact hfields

/-- The fields of a written type have the identifiers that their names give. -/
theorem map_name_of_declare {types : TypeTable} {info : ResourceInfo} {type : DeclaredType}
    {declaration : Declaration} (h : declare types info type = .ok declaration)
    {presentation : Presentation} {list : List StructField}
    (hmembers : (declaration.item presentation).members = .fields list) :
    list.map (·.name) = (type.writtenFields types).map fun field => Naming.snake field.name := by
  obtain ⟨rfl, -⟩ := type_and_identifier_of_declare h
  cases declaration with
  | enum declaration => cases hmembers
  | message declaration =>
      rw [members_item, Members.fields.injEq] at hmembers
      rw [← hmembers, List.map_map]
      exact identifiers_of_declare h

/-- Configured attributes stand behind those that a field has anyway. -/
theorem MappedField.structField_eq_withMore (presentation : Presentation) (field : MappedField) :
    field.structField presentation =
      (field.structField presentation.withoutAttributes).withMore
        (presentation.attributesOfField field.field.owner.fullName field.field.name) := by
  have hnone : presentation.withoutAttributes.attributesOfField field.field.owner.fullName field.field.name =
      [] := rfl
  simp only [MappedField.structField, StructField.withMore, hnone, List.append_nil]
  rfl

/-- The fields of a declared message are written as without configured attributes, with those behind that their
own paths are given. -/
theorem map_structField_eq_zipWith {types : TypeTable} {info : ResourceInfo} {type : DeclaredType}
    {declaration : MessageDeclaration} (presentation : Presentation)
    (h : declare types info type = .ok (.message declaration)) :
    let kept := declaration.fields.filterMap (·.mapped?)
    kept.map (·.structField presentation) =
      List.zipWith StructField.withMore (kept.map (·.structField presentation.withoutAttributes))
        (((DeclaredType.message declaration.type).writtenFields types).map fun field =>
          presentation.attributesOfField declaration.type.fullName field.name) := by
  intro kept
  have hfields := map_field_of_declare h
  have hmore : ∀ field ∈ kept, field.structField presentation =
      (field.structField presentation.withoutAttributes).withMore
        (presentation.attributesOfField declaration.type.fullName field.field.name) := by
    intro field hfield
    have hmem := List.mem_map_of_mem (f := fun field : MappedField => field.field) hfield
    rw [hfields] at hmem
    rw [field.structField_eq_withMore, owner_of_mem_fields (List.mem_of_mem_filter hmem)]
  rw [List.map_congr_left hmore, ← hfields, List.map_map, List.zipWith_map, List.zipWith_self]
  rfl

/-- Configured attributes stand behind those that a declaration and its fields have anyway. -/
theorem item_eq_withMore {types : TypeTable} {info : ResourceInfo} {type : DeclaredType}
    {declaration : Declaration} (presentation : Presentation)
    (h : declare types info type = .ok declaration) :
    declaration.item presentation =
      (declaration.item presentation.withoutAttributes).withMore
        (presentation.attributesOfType type.fullName)
        ((type.writtenFields types).map fun field =>
          presentation.attributesOfField type.fullName field.name) := by
  obtain ⟨htype, -⟩ := type_and_identifier_of_declare h
  subst htype
  -- Without its attributes a presentation has nothing to put behind.
  have hnone : ∀ name, presentation.withoutAttributes.attributesOfType name = [] := fun _ => rfl
  cases declaration with
  | enum declaration =>
      simp only [Declaration.item, EnumDeclaration.item, Item.withMore, hnone, List.append_nil]
      rfl
  | message declaration =>
      have hfields := map_structField_eq_zipWith presentation h
      simp only [Declaration.item, MessageDeclaration.item, Item.withMore, hnone, List.append_nil, hfields]
      rfl

/-! ## Runs -/

/-- Take the attributes out of the configuration of a run that succeeds.  The same plan is made without them, so
they are what the source of the plan has more: every declaration has, behind the attributes it has anyway, the
configured ones that are selected by the full name of its type, and each field of a struct those that are selected
by that name with the name of the field behind.  The types of the envelope have no more than before.  What begins
with a dot and selects a type selects its fields, the types declared inside and their fields as well. -/
theorem generate_places_configured_attributes {config : Config} {types : TypeTable} {typeName text : String}
    (h : generate config types typeName = .ok text) :
    (∀ configured ∈ config.typeAttributes ++ config.fieldAttributes, (attributes? configured.2).isSome) ∧
    (∃ (plan : ResourcePlan) (presentation plain : Presentation),
      generatePlan config types typeName = .ok (plan, presentation) ∧
      text = fileText config.format (plan.source presentation) ∧
      generatePlan config.withoutAttributes types typeName = .ok (plan, plain) ∧
      (plan.source plain).items =
        plan.envelope.items plan.info ++ plan.declarations.map (·.output.item plain) ∧
      (∀ planned ∈ plan.declarations, ∀ list, (planned.output.item plain).members = .fields list →
        list.map (·.name) =
          (planned.output.type.writtenFields types).map fun field => Naming.snake field.name) ∧
      (plan.source presentation).items =
        plan.envelope.items plan.info ++ plan.declarations.map fun planned =>
          let path := QualifiedName.path ⟨planned.output.type.fullName⟩
          (planned.output.item plain).withMore (attributesAt config.typeAttributes path)
            ((planned.output.type.writtenFields types).map fun field =>
              attributesAt config.fieldAttributes (path ++ [field.name]))) ∧
    ∀ (matcher : String) (name : QualifiedName) (inner field : String),
      Matcher.Selects ("." ++ matcher) name.path →
        Matcher.Selects ("." ++ matcher) (name.path ++ [field]) ∧
        Matcher.Selects ("." ++ matcher) (name.join inner).path ∧
        Matcher.Selects ("." ++ matcher) ((name.join inner).path ++ [field]) := by
  obtain ⟨plan, presentation, hplan, htext⟩ := generate_eq_ok_iff.1 h
  obtain ⟨⟨_, hprepared⟩, -⟩ := generatePlan_eq_ok_iff.1 hplan
  obtain ⟨_, -, hfor⟩ := exists_for_of_generatePlan hplan
  have hread := hprepared.read
  refine ⟨?_, ⟨plan, presentation, presentation.withoutAttributes, hplan, htext,
    generatePlan_withoutAttributes hplan, rfl, ?_, ?_⟩, ?_⟩
  · -- A configuration that has been read has no text that cannot be.
    have hreadable : config.unreadable? = none := by
      rw [← Option.map_eq_none_iff (f := Error.invalidAttribute), ← failure?_presentation, hread]
      rfl
    exact (unreadable?_eq_none_iff.1 hreadable).2
  · intro planned hplanned list hmembers
    exact map_name_of_declare (hfor.declares planned hplanned).2 hmembers
  · refine congrArg (plan.envelope.items plan.info ++ ·) (List.map_congr_left fun planned hplanned => ?_)
    rw [item_eq_withMore presentation (hfor.declares planned hplanned).2, attributesOfType_eq hread]
    simp only [attributesOfField_eq hread]
  · intro matcher name inner field hselects
    rw [QualifiedName.path_join]
    exact ⟨hselects.append _, hselects.append _, (hselects.append _).append _⟩

/-- A message with another declared inside it, each with a field of one name. -/
def nestedFile : Descriptor.File where
  package := some "t"
  messages := [
    { name := some "M"
      fields := [
        { name := some "name", number := some 1, type := some 9 },
        { name := some "inner", number := some 2, type := some 11, typeName := some ".t.M.Inner" }]
      messages := [
        { name := some "Inner", fields := [{ name := some "name", number := some 1, type := some 9 }] }] }]

/-- The types of the nested messages. -/
def nestedTypes : TypeTable :=
  (Registry.ofFiles [nestedFile]).types

/-- A configuration of attributes whose matchers select from both ends, one of them by a part of a segment. -/
def nestedConfig : Config where
  typeAttributes := [("Inner", "#[first]"), (".t.M", "#[second]"), ("nner", "#[third]")]
  fieldAttributes := [(".t.M.Inner", "#[fourth]"), ("M.name", "#[fifth]"), ("ame", "#[sixth]")]

/-- The inner message has the attributes of both ends in order, and a part of a segment selects nothing. -/
theorem nestedTypes_have_configured_attributes :
    ∃ (text : String) (plan : ResourcePlan) (presentation plain : Presentation)
      (first second : Planned Declaration), generate nestedConfig nestedTypes "t.M" = .ok text ∧
      text = fileText true (plan.source presentation) ∧
      (plan.source presentation).items = plan.envelope.items plan.info ++
        [(first.output.item plain).withMore (attributesAt nestedConfig.typeAttributes ["t", "M"])
            [attributesAt nestedConfig.fieldAttributes ["t", "M", "name"],
              attributesAt nestedConfig.fieldAttributes ["t", "M", "inner"]],
          (second.output.item plain).withMore (attributesAt nestedConfig.typeAttributes ["t", "M", "Inner"])
            [attributesAt nestedConfig.fieldAttributes ["t", "M", "Inner", "name"]]] ∧
      [["t", "M"], ["t", "M", "Inner"]].map (fun path =>
        (attributesAt nestedConfig.typeAttributes path).map (·.path.segments)) =
          [[["second"]], [["first"], ["second"]]] ∧
      [["t", "M", "name"], ["t", "M", "inner"], ["t", "M", "Inner", "name"]].map (fun path =>
        (attributesAt nestedConfig.fieldAttributes path).map (·.path.segments)) =
          [[["fifth"]], [], [["fourth"]]] := by
  obtain ⟨⟨plan, presentation⟩, hplan, hdeclared⟩ :
      ∃ result, generatePlan nestedConfig nestedTypes "t.M" = .ok result ∧
        result.1.declarations.map (fun planned => (planned.output.type.fullName,
          (planned.output.type.writtenFields nestedTypes).map (·.name))) =
            [("t.M", ["name", "inner"]), ("t.M.Inner", ["name"])] :=
    exists_of_map_toOption (by decide +kernel)
  have htext := generate_eq_ok_iff.2 ⟨plan, presentation, hplan, rfl⟩
  obtain ⟨-, ⟨_, _, plain, hsame, hsource, -, -, -, hitems⟩, -⟩ := generate_places_configured_attributes htext
  rw [hplan, Except.ok.injEq, Prod.mk.injEq] at hsame
  obtain ⟨rfl, rfl⟩ := hsame
  obtain ⟨first, rest, hdeclarations, hfirst, hrest⟩ := List.map_eq_cons_iff.1 hdeclared
  obtain ⟨second, rfl, hsecond⟩ := List.map_eq_singleton_iff.1 hrest
  refine ⟨_, plan, presentation, plain, first, second, htext, hsource, ?_, ?_, ?_⟩
  · have hfields : ∀ (fields : List MessageField) (path names : List String), fields.map (·.name) = names →
        (fields.map fun field => attributesAt nestedConfig.fieldAttributes (path ++ [field.name])) =
          names.map fun name => attributesAt nestedConfig.fieldAttributes (path ++ [name]) := by
      rintro fields path _ rfl
      rw [List.map_map]
      rfl
    have houter : QualifiedName.path ⟨"t.M"⟩ = ["t", "M"] := by decide
    have hinner : QualifiedName.path ⟨"t.M.Inner"⟩ = ["t", "M", "Inner"] := by decide
    rw [Prod.mk.injEq] at hfirst hsecond
    rw [hitems, hdeclarations, List.map_cons, List.map_singleton]
    simp only [hfields _ _ _ hfirst.2, hfields _ _ _ hsecond.2, hfirst.1, hsecond.1, houter, hinner]
    rfl
  · decide +kernel
  · decide +kernel

end CustomResource
