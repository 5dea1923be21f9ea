import CustomResource.Proofs.Generation.Coverage

/-!
# Structs held by value

A struct may hold another one as a part of itself: directly or as an option, but not behind a pointer and not
in a list or map.  A type that held itself in this way would have no finite size.

Fields of messages are always behind pointers or in collections, and what else a field of a message holds is a
scalar or an enum.  An enum is declared under an identifier that no struct has, so only the envelope holds
structs by value: the object holds its spec and its observed state, and these hold no structs.
-/

namespace CustomResource

open Source

/-! ## Types that are held -/

/-- A type whose values hold a value of the named type as a part: that type itself, or an option of such a
type. -/
inductive Source.TypeExpr.HoldsByValue (name : String) : TypeExpr → Prop where
  | itself : HoldsByValue name (.path ⟨false, [name]⟩ [])
  | option {type : TypeExpr} (h : HoldsByValue name type) :
      HoldsByValue name (.path ⟨true, ["std", "option", "Option"]⟩ [type])

namespace Source.TypeExpr

theorem HoldsByValue.cases_eq {name : String} {type : TypeExpr} (h : type.HoldsByValue name) :
    type = .named name ∨ ∃ inner, type = optionOf inner ∧ inner.HoldsByValue name := by
  cases h with
  | itself => exact Or.inl rfl
  | option h => exact Or.inr ⟨_, rfl, h⟩

theorem holdsByValue_named_iff {name other : String} :
    (named other).HoldsByValue name ↔ name = other := by
  constructor
  · intro h
    rcases h.cases_eq with hsame | ⟨inner, hoption, _⟩
    · simp only [named, path.injEq, Path.mk.injEq, List.cons.injEq] at hsame
      exact hsame.1.2.1.symm
    · simp [named, optionOf, rooted] at hoption
  · rintro rfl
    exact .itself

theorem holdsByValue_optionOf_iff {name : String} {type : TypeExpr} :
    (optionOf type).HoldsByValue name ↔ type.HoldsByValue name := by
  constructor
  · intro h
    rcases h.cases_eq with hnamed | ⟨inner, hsame, hinner⟩
    · simp [named, optionOf, rooted] at hnamed
    · simp only [optionOf, rooted, path.injEq, List.cons.injEq, and_true, true_and] at hsame
      rw [hsame]
      exact hinner
  · exact .option

/-- No other path holds a value of a type in scope. -/
theorem not_holdsByValue_path {name : String} {target : Path} {arguments : List TypeExpr}
    (hnamed : ∀ other, target ≠ ⟨false, [other]⟩)
    (hoption : target ≠ ⟨true, ["std", "option", "Option"]⟩) :
    ¬ (path target arguments).HoldsByValue name := by
  intro h
  rcases h.cases_eq with hsame | ⟨inner, hsame, _⟩
  · simp only [named, path.injEq] at hsame
    exact hnamed name hsame.1
  · simp only [optionOf, rooted, path.injEq] at hsame
    exact hoption hsame.1

end Source.TypeExpr

/-! ## Fields of messages -/

/-- The scalar types that are written as one word. -/
def scalarNames : List String :=
  ["bool", "i32", "u32", "i64", "u64"]

theorem not_holdsByValue_stringType {name : String} : ¬ stringType.HoldsByValue name :=
  TypeExpr.not_holdsByValue_path (by simp) (by simp)

theorem ScalarType.mem_scalarNames {type : ScalarType} {name : String}
    (h : type.expr.HoldsByValue name) : name ∈ scalarNames := by
  cases type with
  | string => exact absurd h not_holdsByValue_stringType
  | bool | i32 | u32 | i64 | u64 => simp [TypeExpr.holdsByValue_named_iff.1 h, scalarNames]

theorem not_holdsByValue_bytes {type : BytesType} {name : String} :
    ¬ type.type.HoldsByValue name := by
  cases type with
  | vec => exact TypeExpr.not_holdsByValue_path (by simp) (by simp)
  | byteString => exact TypeExpr.not_holdsByValue_path (by simp) (by simp)

theorem not_holdsByValue_listOf {type : TypeExpr} {name : String} :
    ¬ (listOf type).HoldsByValue name :=
  TypeExpr.not_holdsByValue_path (by simp) (by simp)

/-- Only a field that is no collection, and not behind a pointer, holds what its values are. -/
theorem Shape.holdsByValue_expr {shape : Shape} {mapType : MapType} {value : TypeExpr} {name : String}
    (h : (shape.expr mapType value).HoldsByValue name) :
    (shape = .plain ∨ shape = .optional) ∧ value.HoldsByValue name := by
  cases shape with
  | plain => exact ⟨Or.inl rfl, h⟩
  | optional => exact ⟨Or.inr rfl, TypeExpr.holdsByValue_optionOf_iff.1 h⟩
  | boxed =>
      have hbox := TypeExpr.holdsByValue_optionOf_iff.1 h
      exact absurd hbox (TypeExpr.not_holdsByValue_path (by simp) (by simp))
  | list => exact absurd h not_holdsByValue_listOf
  | group => exact absurd h not_holdsByValue_listOf
  | map key =>
      refine absurd h (TypeExpr.not_holdsByValue_path ?_ ?_)
      · simp [MapType.path]
      · simp [MapType.path]

/-- What a value holds is a scalar type or the type it is declared by. -/
theorem ValueType.holdsByValue_expr {value : ValueType} {bytesType : BytesType} {name : String}
    (h : (value.expr bytesType).HoldsByValue name) :
    name ∈ scalarNames ∨ ∃ type, value = .declared type name := by
  cases value with
  | scalar type => exact Or.inl (ScalarType.mem_scalarNames h)
  | bytes => exact absurd h not_holdsByValue_bytes
  | declared type identifier => exact Or.inr ⟨type, by rw [TypeExpr.holdsByValue_named_iff.1 h]⟩

/-- A field whose values are messages is behind a pointer or a collection. -/
theorem shapeOf_of_message {types : TypeTable} {field : MessageField} {kind : Kind}
    {message : MessageType} (h : kind.declared? = some (.message message)) :
    shapeOf types field kind ≠ .plain ∧ shapeOf types field kind ≠ .optional := by
  cases kind with
  | scalar kind => cases h
  | enum type => cases h
  | group type => exact ⟨nofun, nofun⟩
  | message type =>
      unfold shapeOf
      cases field.isList types with
      | true => exact ⟨nofun, nofun⟩
      | false => exact ⟨nofun, nofun⟩

theorem shape_of_mapField {types : TypeTable} {info : ResourceInfo} {field : MessageField}
    {value : ValueType} {shape : Shape} {message : MessageType}
    (h : mapField types info field = .ok (.mapped value shape))
    (hvalue : value.declared? = some (.message message)) : shape ≠ .plain ∧ shape ≠ .optional := by
  rcases mapField_eq_ok_iff.1 h with ⟨kind, _, _, hmapping⟩ | ⟨_, _, key, kind, _, _, _, _, hmapping⟩
  · rcases mappingOf_eq_ok_iff.1 hmapping with ⟨_, hsame⟩ | ⟨result, hresult, hsame⟩
    · cases hsame
    · cases hsame
      rw [declared?_of_valueType hresult] at hvalue
      exact shapeOf_of_message hvalue
  · rcases mappingOf_eq_ok_iff.1 hmapping with ⟨_, hsame⟩ | ⟨result, _, hsame⟩
    · cases hsame
    · cases hsame
      exact ⟨nofun, nofun⟩

theorem mapField_of_declareField {types : TypeTable} {info : ResourceInfo} {field : MessageField}
    {mapped : MappedField} (h : declareField types info field = .ok (.mapped mapped)) :
    mapField types info field = .ok (.mapped mapped.value mapped.shape) := by
  rw [declareField, bind_eq_ok_iff] at h
  obtain ⟨mapping, hmapping, h⟩ := h
  cases mapping with
  | omitted kind => cases h
  | mapped value shape =>
      simp only [bind_eq_ok_iff, pure_eq_ok_iff] at h
      obtain ⟨identifier, _, hsame⟩ := h
      cases hsame
      exact hmapping

/-- By value, a field of a message holds scalars and enums only. -/
theorem MappedField.holdsByValue_typeExpr {types : TypeTable} {info : ResourceInfo}
    {field : MessageField} {mapped : MappedField} {presentation : Presentation} {name : String}
    (hfield : declareField types info field = .ok (.mapped mapped))
    (h : (mapped.typeExpr presentation).HoldsByValue name) :
    name ∈ scalarNames ∨ ∃ enum, mapped.value = .declared (.enum enum) name := by
  obtain ⟨hshape, hvalue⟩ := Shape.holdsByValue_expr h
  rcases ValueType.holdsByValue_expr hvalue with hscalar | ⟨type, htype⟩
  · exact Or.inl hscalar
  · cases type with
    | enum enum => exact Or.inr ⟨enum, htype⟩
    | message message =>
        have hdeclared : mapped.value.declared? = some (.message message) := by
          rw [htype]
          rfl
        have hnot := shape_of_mapField (mapField_of_declareField hfield) hdeclared
        rcases hshape with hplain | hoptional
        · exact absurd hplain hnot.1
        · exact absurd hoptional hnot.2

/-! ## Structs -/

/-- A struct has a field that holds another struct by value. -/
def Source.Item.HoldsByValue (holder held : Item) : Prop :=
  ∃ fields others, holder.members = .fields fields ∧ held.members = .fields others ∧
    ∃ field ∈ fields, field.type.HoldsByValue held.name

/-- A struct of a module holds another struct of the module by value. -/
def Source.Module.Holds (file : Module) (holder held : Item) : Prop :=
  holder ∈ file.items ∧ held ∈ file.items ∧ holder.HoldsByValue held

namespace Envelope

/-- In the envelope only the object holds types by value: its spec and its observed state. -/
theorem names_of_holdsByValue {info : ResourceInfo} {envelope : Envelope} {holder : Item} {name : String}
    (hholder : holder ∈ envelope.items info) {fields : List StructField}
    (hfields : holder.members = .fields fields) {field : StructField} (hfield : field ∈ fields)
    (h : field.type.HoldsByValue name) :
    name ∈ scalarNames ∨
      holder.name = envelope.name ∧ (name = envelope.spec ∨ name = envelope.status) := by
  have hmeta : ∀ type, ¬ (metaType type).HoldsByValue name := fun type =>
    TypeExpr.not_holdsByValue_path (by simp) (by simp)
  have hobject : ∀ metadata, ∀ field ∈ objectFields metadata, ¬ field.type.HoldsByValue name := by
    intro metadata field hfield
    simp only [objectFields, List.mem_cons, List.not_mem_nil, or_false] at hfield
    rcases hfield with rfl | rfl | rfl
    · exact not_holdsByValue_stringType
    · exact not_holdsByValue_stringType
    · exact hmeta metadata
  simp only [items, List.mem_cons, List.not_mem_nil, or_false] at hholder
  rcases hholder with rfl | rfl | rfl | rfl
  · cases hfields
    simp only [List.mem_append, List.mem_cons, List.not_mem_nil, or_false] at hfield
    rcases hfield with hfield | rfl | rfl
    · exact absurd h (hobject _ field hfield)
    · exact Or.inr ⟨rfl, Or.inl (TypeExpr.holdsByValue_named_iff.1 h)⟩
    · have hstatus := TypeExpr.holdsByValue_optionOf_iff.1 h
      exact Or.inr ⟨rfl, Or.inr (TypeExpr.holdsByValue_named_iff.1 hstatus)⟩
  · cases hfields
    simp only [List.mem_append, List.mem_cons, List.not_mem_nil, or_false] at hfield
    rcases hfield with hfield | rfl
    · exact absurd h (hobject _ field hfield)
    · exact absurd h not_holdsByValue_listOf
  · cases hfields
    rw [List.mem_singleton] at hfield
    subst hfield
    exact absurd h not_holdsByValue_listOf
  · cases hfields
    simp only [List.mem_cons, List.not_mem_nil, or_false] at hfield
    rcases hfield with rfl | rfl | rfl | rfl | rfl | rfl
    · exact absurd h not_holdsByValue_stringType
    · exact absurd h not_holdsByValue_stringType
    · have hnumber := TypeExpr.holdsByValue_optionOf_iff.1 h
      rw [TypeExpr.holdsByValue_named_iff.1 hnumber]
      exact Or.inl (by simp [scalarNames])
    · exact absurd h (hmeta _)
    · exact absurd h not_holdsByValue_stringType
    · exact absurd h not_holdsByValue_stringType

end Envelope

theorem beginsLower_of_mem_scalarNames {name : String} (h : name ∈ scalarNames) :
    Naming.beginsLower name = true := by
  have hall : ∀ name ∈ scalarNames, Naming.beginsLower name = true := by
    decide +kernel
  exact hall name h

namespace ResourcePlan

/-- The items of a module are those of the envelope and the declared types. -/
theorem mem_items_iff {plan : ResourcePlan} {presentation : Presentation} {item : Item} :
    item ∈ (plan.source presentation).items ↔
      item ∈ plan.envelope.items plan.info ∨
        ∃ planned ∈ plan.declarations, planned.output.item presentation = item := by
  rw [source, List.mem_append, List.mem_map]

namespace For

variable {config : Config} {types : TypeTable} {root : MessageType} {plan : ResourcePlan}
  {presentation : Presentation}

/-- No item is named as a scalar type. -/
theorem name_not_mem_scalarNames (h : plan.For config types root) (henvelope : plan.Enveloped)
    {item : Item} (hitem : item ∈ (plan.source presentation).items) : item.name ∉ scalarNames := by
  intro hscalar
  have hcapital : Naming.beginsLower item.name = false := by
    rcases mem_items_iff.1 hitem with hitem | ⟨planned, hplanned, rfl⟩
    · have hname : item.name ∈ plan.info.envelopeNames := by
        rw [← henvelope.map_name_items]
        exact List.mem_map_of_mem hitem
      rw [h.info_eq] at hname
      exact beginsLower_envelopeNames config root _ hname
    · rw [name_item, h.identifier_eq hplanned, h.info_eq]
      exact beginsLower_identifierOf config root _
  rw [beginsLower_of_mem_scalarNames hscalar] at hcapital
  cases hcapital

/-- No struct is named as a declared enum. -/
theorem name_ne_of_enum (h : plan.For config types root) (henvelope : plan.Enveloped)
    {planned : Planned Declaration} (hplanned : planned ∈ plan.declarations) {enum : EnumType}
    (henum : planned.output.type = .enum enum) {item : Item}
    (hitem : item ∈ (plan.source presentation).items) {fields : List StructField}
    (hfields : item.members = .fields fields) : item.name ≠ planned.output.identifier := by
  intro hname
  rcases mem_items_iff.1 hitem with hitem | ⟨other, hother, rfl⟩
  · refine henvelope.fresh planned hplanned ?_
    rw [← hname, ← henvelope.map_name_items]
    exact List.mem_map_of_mem hitem
  · -- Declarations have distinct identifiers, so the struct would be the enum.
    rw [name_item] at hname
    rw [List.inj_on_of_nodup_map h.nodup hother hplanned hname] at hfields
    cases hdeclaration : planned.output with
    | message declaration =>
        rw [hdeclaration] at henum
        cases henum
    | enum declaration =>
        rw [hdeclaration] at hfields
        cases hfields

/-- A declared message that refers to an enum by value is written with the identifier of its declaration. -/
theorem exists_declared_enum (h : plan.For config types root)
    (hapart : types.NamesApart (.message root)) {planned : Planned Declaration}
    (hplanned : planned ∈ plan.declarations) {declaration : MessageDeclaration}
    (hdeclaration : planned.output = .message declaration) {field : MessageField}
    (hfield : field ∈ declaration.type.fields) {mapped : MappedField}
    (hmapped : declareField types plan.info field = .ok (.mapped mapped)) {enum : EnumType}
    {name : String} (hvalue : mapped.value = .declared (.enum enum) name) :
    ∃ other ∈ plan.declarations, other.output.type = .enum enum ∧ name = other.output.identifier := by
  have hleads : field.leadsTo? types = some (.enum enum) := by
    rw [← declared?_of_declareField hmapped, FieldOutcome.declared?, hvalue]
    rfl
  have hlisted : DeclaredType.message declaration.type ∈ plan.declarations.map (·.output.type) := by
    refine List.mem_map.2 ⟨planned, hplanned, ?_⟩
    rw [hdeclaration]
    rfl
  have hclosed := (h.traverses.closed_iff_namesApart h.registered).2 hapart _ hlisted (.enum enum)
    (List.mem_filterMap.2 ⟨field, hfield, hleads⟩)
  obtain ⟨other, hother, henum⟩ := List.mem_map.1 hclosed
  refine ⟨other, hother, henum, ?_⟩
  obtain ⟨_, identifier, hsame, hdeclared, hidentifier⟩ := exists_mapped_of_leadsTo? hmapped hleads
  cases hsame
  rw [hvalue] at hdeclared
  cases hdeclared
  have hother := (type_and_identifier_of_declare (h.declares other hother).2).2
  rw [henum, hidentifier] at hother
  exact Except.ok.inj hother

/-- No message is declared as a struct that holds another struct by value. -/
theorem not_holdsByValue_of_message (h : plan.For config types root) (henvelope : plan.Enveloped)
    (hapart : types.NamesApart (.message root)) {planned : Planned Declaration}
    (hplanned : planned ∈ plan.declarations) {held : Item}
    (hheld : held ∈ (plan.source presentation).items) :
    ¬ (planned.output.item presentation).HoldsByValue held := by
  rintro ⟨fields, others, hfields, hothers, field, hfield, hholds⟩
  cases hdeclaration : planned.output with
  | enum declaration =>
      rw [hdeclaration] at hfields
      cases hfields
  | message declaration =>
      rw [hdeclaration] at hfields
      cases hfields
      obtain ⟨mapped, hmapped, rfl⟩ := List.mem_map.1 hfield
      obtain ⟨outcome, houtcome, hsome⟩ := List.mem_filterMap.1 hmapped
      cases outcome with
      | omitted => cases hsome
      | mapped outcome =>
          cases hsome
          have hdeclare := (h.declares planned hplanned).2
          rw [hdeclaration] at hdeclare
          obtain ⟨own, hown, hdeclared⟩ := exists_mem_of_mem_mapM (mapM_declareField hdeclare) _ houtcome
          rcases MappedField.holdsByValue_typeExpr hdeclared hholds with hscalar | ⟨enum, hvalue⟩
          · exact h.name_not_mem_scalarNames henvelope hheld hscalar
          · obtain ⟨other, hother, henum, hname⟩ :=
              h.exists_declared_enum hapart hplanned hdeclaration hown hdeclared hvalue
            exact h.name_ne_of_enum henvelope hother henum hheld hothers hname

/-- Only the object of the envelope holds structs by value, and none of its own name. -/
theorem names_of_holdsByValue (h : plan.For config types root) (henvelope : plan.Enveloped)
    (hapart : types.NamesApart (.message root)) {holder held : Item}
    (hholder : holder ∈ (plan.source presentation).items)
    (hheld : held ∈ (plan.source presentation).items) (hholds : holder.HoldsByValue held) :
    holder.name = plan.info.name ∧ held.name ≠ plan.info.name := by
  rcases mem_items_iff.1 hholder with hholder | ⟨planned, hplanned, rfl⟩
  · obtain ⟨fields, others, hfields, hothers, field, hfield, hholds⟩ := hholds
    rcases Envelope.names_of_holdsByValue hholder hfields hfield hholds with hscalar | ⟨hname, hpart⟩
    · exact absurd hscalar (h.name_not_mem_scalarNames henvelope hheld)
    · rw [henvelope.envelope_eq] at hname hpart
      refine ⟨hname, ?_⟩
      rcases hpart with hspec | hstatus
      · rw [hspec, ResourceInfo.specName]
        simp
      · rw [hstatus, ResourceInfo.statusName]
        simp
  · exact absurd hholds (h.not_holdsByValue_of_message henvelope hapart hplanned hheld)

/-- The object holds the first declaration, which is its spec. -/
theorem exists_holds_spec (h : plan.For config types root) (henvelope : plan.Enveloped) :
    ∃ first rest, plan.declarations = first :: rest ∧
      (plan.source presentation).Holds (plan.envelope.object plan.info) (first.output.item presentation) := by
  obtain ⟨first, rest, hdeclarations, htype, hidentifier⟩ := h.exists_root
  refine ⟨first, rest, hdeclarations, ?_, ?_, ?_⟩
  · exact mem_items_iff.2 (Or.inl List.mem_cons_self)
  · refine mem_items_iff.2 (Or.inr ⟨first, ?_, rfl⟩)
    rw [hdeclarations]
    exact List.mem_cons_self
  · have hspec : (first.output.item presentation).name = plan.envelope.spec := by
      rw [name_item, hidentifier, henvelope.envelope_eq, h.info_eq, specName_ofRoot]
    cases hfirst : first.output with
    | enum declaration =>
        rw [hfirst] at htype
        cases htype
    | message declaration =>
        rw [hfirst] at hspec
        refine ⟨_, _, rfl, rfl, {
          attributes := [Envelope.defaultAttribute]
          name := "spec"
          type := .named plan.envelope.spec }, ?_, ?_⟩
        · exact List.mem_append_right _ List.mem_cons_self
        · rw [hspec]
          exact .itself

end For

end ResourcePlan

/-! ## Modules -/

/-- Generate from a registry that holds no full name both as a message and as an enum.  The object holds its
spec by value, but no struct of the module, the envelope included, holds itself, directly or through others,
and none that is declared for a type holds any.  So every chain of structs that hold one another ends. -/
theorem generate_holdsByValue_acyclic {config : Config} {types : TypeTable} {typeName text : String}
    (hnames : ∀ name ∈ types.messages, name ∉ types.enums)
    (h : generate config types typeName = .ok text) :
    ∃ plan presentation, generatePlan config types typeName = .ok (plan, presentation) ∧
      text = fileText config.format (plan.source presentation) ∧
      (∃ first rest, plan.declarations = first :: rest ∧ (plan.source presentation).Holds
        (plan.envelope.object plan.info) (first.output.item presentation)) ∧
      (∀ item, ¬ Relation.TransGen (plan.source presentation).Holds item item) ∧
      (∀ planned ∈ plan.declarations, ∀ held,
        ¬ (plan.source presentation).Holds (planned.output.item presentation) held) ∧
      WellFounded fun held holder => (plan.source presentation).Holds holder held := by
  obtain ⟨plan, presentation, hplan, htext⟩ := generate_eq_ok_iff.1 h
  obtain ⟨root, -, hfor⟩ := exists_for_of_generatePlan hplan
  have henvelope := enveloped_of_generatePlan hplan
  have hapart := TypeTable.namesApart_of_disjoint hfor.registered hnames
  -- What holds a struct has the name of the resource, and what is held has not.
  have hends : ∀ {holder held}, (plan.source presentation).Holds holder held →
      holder.name = plan.info.name ∧ held.name ≠ plan.info.name :=
    fun hholds => hfor.names_of_holdsByValue henvelope hapart hholds.1 hholds.2.1 hholds.2.2
  refine ⟨plan, presentation, hplan, htext, hfor.exists_holds_spec henvelope, ?_, ?_, ?_⟩
  · intro item hcycle
    obtain ⟨next, hfirst, -⟩ := Relation.TransGen.head'_iff.1 hcycle
    obtain ⟨last, -, hlast⟩ := Relation.TransGen.tail'_iff.1 hcycle
    exact (hends hlast).2 (hends hfirst).1
  · intro planned hplanned held hholds
    exact hfor.not_holdsByValue_of_message henvelope hapart hplanned hholds.2.1 hholds.2.2
  · refine ⟨fun holder => ⟨holder, fun held hholds => ⟨held, fun inner hinner => ?_⟩⟩⟩
    exact absurd (hends hinner).1 (hends hholds).2

/-- Messages that refer to each other are declared without cycles. -/
theorem cyclicTypes_holdsByValue_acyclic :
    (∀ name ∈ cyclicTypes.messages, name ∉ cyclicTypes.enums) ∧
      ∃ text plan presentation, generate {} cyclicTypes "t.M" = .ok text ∧
        generatePlan {} cyclicTypes "t.M" = .ok (plan, presentation) ∧
        plan.declarations.map (·.output.identifier) = ["MSpec", "N", "EType", "P"] ∧
        ∀ item, ¬ Relation.TransGen (plan.source presentation).Holds item item := by
  obtain ⟨result, hresult, hidentifiers⟩ := generatePlan_cyclicTypes
  have htext := generate_eq_ok_iff.2 ⟨result.1, result.2, hresult, rfl⟩
  obtain ⟨plan, presentation, hplan, _, _, hacyclic, _⟩ :=
    generate_holdsByValue_acyclic cyclicTypes_disjoint htext
  rw [hplan, Except.ok.injEq] at hresult
  subst hresult
  exact ⟨cyclicTypes_disjoint, _, plan, presentation, htext, hplan, hidentifiers, hacyclic⟩

end CustomResource
