import CustomResource.Declaration.Mapping
import CustomResource.Result

/-!
# The graph of types

A field leads to the type that its values are declared by: a map field to the type of the values in the map,
any other to the type of its own kind.  Scalar fields lead nowhere.  The successors of a message are the types
its fields lead to, in order, and enums have none.

A declaration refers to the successors of its type, `references_eq_successors`, and to each of them by the
identifier it is declared under, `exists_declared_of_valueType`.  All of them are what a reference in the text
of the descriptors means, `scalar_or_names_of_kind`, and so they are registered.
-/

namespace CustomResource

/-! ## Registered types -/

/-- The type is the one a table holds under its full name. -/
def TypeTable.Registered (types : TypeTable) : DeclaredType → Prop
  | .message type => types.messages[type.fullName]? = some type.entry
  | .enum type => types.enums[type.fullName]? = some type.declaration

/-- The type is the one that a reference means. -/
def TypeTable.Names (types : TypeTable) (reference : String) : DeclaredType → Prop
  | .message type => types.message? reference = some type
  | .enum type => types.enum? reference = some type

namespace TypeTable

theorem registered_of_message? {types : TypeTable} {reference : String} {message : MessageType}
    (h : types.message? reference = some message) : types.Registered (.message message) := by
  simp only [message?, Option.map_eq_some_iff] at h
  obtain ⟨entry, hentry, rfl⟩ := h
  exact hentry

theorem registered_of_enum? {types : TypeTable} {reference : String} {enum : EnumType}
    (h : types.enum? reference = some enum) : types.Registered (.enum enum) := by
  simp only [enum?, Option.map_eq_some_iff] at h
  obtain ⟨entry, hentry, rfl⟩ := h
  exact hentry

theorem Names.registered {types : TypeTable} {reference : String} {type : DeclaredType}
    (h : types.Names reference type) : types.Registered type := by
  cases type with
  | message message => exact registered_of_message? h
  | enum enum => exact registered_of_enum? h

/-- A reference means the registered types of its name. -/
theorem names_iff {types : TypeTable} {reference : String} {type : DeclaredType} :
    types.Names reference type ↔
      types.Registered type ∧ type.fullName = (QualifiedName.ofReference reference).text := by
  constructor
  · intro h
    refine ⟨h.registered, ?_⟩
    cases type with
    | message message =>
        obtain ⟨entry, _, rfl⟩ := Option.map_eq_some_iff.1 h
        rfl
    | enum enum =>
        obtain ⟨entry, _, rfl⟩ := Option.map_eq_some_iff.1 h
        rfl
  · rintro ⟨hregistered, hname⟩
    cases type with
    | message message =>
        refine Option.map_eq_some_iff.2 ⟨message.entry, ?_, ?_⟩
        · rw [← hname]
          exact hregistered
        · rw [← hname]
          rfl
    | enum enum =>
        refine Option.map_eq_some_iff.2 ⟨enum.declaration, ?_, ?_⟩
        · rw [← hname]
          exact hregistered
        · rw [← hname]
          rfl

end TypeTable

namespace MessageField

theorem eq_some_of_typeName {field : MessageField} {name : String} (h : field.typeName = .ok name) :
    field.declaration.typeName = some name := by
  unfold typeName at h
  split at h
  · next hname =>
      split at h
      · cases h
      · cases h
        exact hname
  · cases h

theorem names_of_referredMessage {types : TypeTable} {field : MessageField} {message : MessageType}
    (h : field.referredMessage types = .ok message) :
    ∃ name, field.declaration.typeName = some name ∧ types.Names name (.message message) := by
  simp only [referredMessage, bind_eq_ok_iff] at h
  obtain ⟨name, hname, h⟩ := h
  split at h
  · next hfound =>
      cases h
      exact ⟨name, eq_some_of_typeName hname, hfound⟩
  · cases h

theorem names_of_referredEnum {types : TypeTable} {field : MessageField} {enum : EnumType}
    (h : field.referredEnum types = .ok enum) :
    ∃ name, field.declaration.typeName = some name ∧ types.Names name (.enum enum) := by
  simp only [referredEnum, bind_eq_ok_iff] at h
  obtain ⟨name, hname, h⟩ := h
  split at h
  · next hfound =>
      cases h
      exact ⟨name, eq_some_of_typeName hname, hfound⟩
  · cases h

theorem names_of_unlinkedKind {types : TypeTable} {field : MessageField} {kind : Kind}
    (h : field.unlinkedKind types = .ok kind) :
    ∃ name type, field.declaration.typeName = some name ∧ kind.declared? = some type ∧
      types.Names name type := by
  simp only [unlinkedKind, bind_eq_ok_iff] at h
  obtain ⟨name, hname, h⟩ := h
  have hname := eq_some_of_typeName hname
  split at h
  · next hfound =>
      cases h
      exact ⟨name, .message _, hname, rfl, hfound⟩
  · next hfound =>
      cases h
      exact ⟨name, .enum _, hname, rfl, hfound⟩
  · cases h

/-- The type code of a field is that of a scalar. -/
def isScalar (field : MessageField) : Bool :=
  match field.declaration.type.bind FieldType.ofCode? with
  | some (.scalar _) => true
  | _ => false

/-- A field is scalar, or its kind is that of the type its reference means. -/
theorem scalar_or_names_of_kind {types : TypeTable} {field : MessageField} {kind : Kind}
    (h : field.kind types = .ok kind) :
    (field.isScalar = true ∧ kind.declared? = none) ∨
      ∃ name type, field.declaration.typeName = some name ∧ kind.declared? = some type ∧
        types.Names name type := by
  unfold MessageField.kind at h
  split at h
  · exact Or.inr (names_of_unlinkedKind h)
  · next code hcode =>
      split at h
      · cases h
      · next scalar hscalar =>
          cases h
          exact Or.inl ⟨by simp [isScalar, hcode, hscalar], rfl⟩
      · obtain ⟨message, hmessage, rfl⟩ := map_eq_ok_iff.1 h
        obtain ⟨name, hname, hnames⟩ := names_of_referredMessage hmessage
        exact Or.inr ⟨name, _, hname, rfl, hnames⟩
      · obtain ⟨message, hmessage, rfl⟩ := map_eq_ok_iff.1 h
        obtain ⟨name, hname, hnames⟩ := names_of_referredMessage hmessage
        exact Or.inr ⟨name, _, hname, rfl, hnames⟩
      · obtain ⟨enum, henum, rfl⟩ := map_eq_ok_iff.1 h
        obtain ⟨name, hname, hnames⟩ := names_of_referredEnum henum
        exact Or.inr ⟨name, _, hname, rfl, hnames⟩

/-- The type that the kind of a field refers to is registered. -/
theorem registered_of_kind {types : TypeTable} {field : MessageField} {kind : Kind}
    {type : DeclaredType} (h : field.kind types = .ok kind) (htype : kind.declared? = some type) :
    types.Registered type := by
  rcases scalar_or_names_of_kind h with ⟨_, hnone⟩ | ⟨name, other, _, hother, hnames⟩
  · rw [hnone] at htype
    cases htype
  · rw [hother, Option.some.injEq] at htype
    exact htype ▸ hnames.registered

/-! ## Where fields lead -/

/-- The kind of the values a field holds: of the values in a map, or of the field itself. -/
def valueKind (types : TypeTable) (field : MessageField) : Except GenerateError Kind := do
  match ← field.mapEntry? types with
  | some entry => entry.value.kind types
  | none => field.kind types

/-- The type that the values of a field are declared by, if there is one. -/
def leadsTo? (types : TypeTable) (field : MessageField) : Option DeclaredType :=
  match field.valueKind types with
  | .ok kind => kind.declared?
  | .error _ => none

theorem registered_of_valueKind {types : TypeTable} {field : MessageField} {kind : Kind}
    {type : DeclaredType} (h : field.valueKind types = .ok kind)
    (htype : kind.declared? = some type) : types.Registered type := by
  rw [valueKind, bind_eq_ok_iff] at h
  obtain ⟨entry, -, h⟩ := h
  cases entry with
  | none => exact registered_of_kind h htype
  | some entry => exact registered_of_kind h htype

theorem registered_of_leadsTo? {types : TypeTable} {field : MessageField} {type : DeclaredType}
    (h : field.leadsTo? types = some type) : types.Registered type := by
  unfold leadsTo? at h
  split at h
  · next hkind => exact registered_of_valueKind hkind h
  · cases h

end MessageField

namespace TypeTable

/-- The types that the fields of a type lead to, in order. -/
def successors (types : TypeTable) : DeclaredType → List DeclaredType
  | .message message => message.fields.filterMap (·.leadsTo? types)
  | .enum _ => []

theorem registered_of_mem_successors {types : TypeTable} {type next : DeclaredType}
    (h : next ∈ types.successors type) : types.Registered next := by
  cases type with
  | enum _ => cases h
  | message message =>
      obtain ⟨field, _, hnext⟩ := List.mem_filterMap.1 h
      exact MessageField.registered_of_leadsTo? hnext

end TypeTable

/-! ## Values -/

theorem declaredValue_eq_ok_iff {info : ResourceInfo} {type : DeclaredType} {value : ValueType} :
    declaredValue info type = .ok value ↔
      ∃ identifier, declaredIdentifier (info.identifierOf type) = .ok identifier ∧
        .declared type identifier = value :=
  map_eq_ok_iff

theorem valueType_of_declared? {info : ResourceInfo} {kind : Kind} {type : DeclaredType}
    (h : kind.declared? = some type) : valueType info kind = some <$> declaredValue info type := by
  cases kind with
  | scalar kind => cases h
  | message message =>
      cases h
      rfl
  | group message =>
      cases h
      rfl
  | enum enum =>
      cases h
      rfl

/-- A value whose kind refers to a type is declared by that type, under the identifier of the type. -/
theorem exists_declared_of_valueType {info : ResourceInfo} {kind : Kind} {type : DeclaredType}
    {result : Option ValueType} (hkind : kind.declared? = some type)
    (h : valueType info kind = .ok result) :
    ∃ identifier, result = some (.declared type identifier) ∧
      declaredIdentifier (info.identifierOf type) = .ok identifier := by
  rw [valueType_of_declared? hkind, functor_map_eq_ok_iff] at h
  obtain ⟨value, hvalue, rfl⟩ := h
  obtain ⟨identifier, hidentifier, rfl⟩ := declaredValue_eq_ok_iff.1 hvalue
  exact ⟨identifier, rfl, hidentifier⟩

/-- A value whose kind refers to no type is not declared. -/
theorem declared?_of_valueType_none {info : ResourceInfo} {kind : Kind} {value : ValueType}
    (h : kind.declared? = none) (hvalue : valueType info kind = .ok (some value)) :
    value.declared? = none := by
  cases kind with
  | scalar kind =>
      cases kind <;> simp [valueType, ScalarKind.plainType?] at hvalue <;> subst hvalue <;> rfl
  | message type => cases h
  | group type => cases h
  | enum type => cases h

/-- A value refers to the type of its kind. -/
theorem declared?_of_valueType {info : ResourceInfo} {kind : Kind} {value : ValueType}
    (h : valueType info kind = .ok (some value)) : value.declared? = kind.declared? := by
  cases hkind : kind.declared? with
  | none => exact declared?_of_valueType_none hkind h
  | some type =>
      obtain ⟨identifier, hvalue, _⟩ := exists_declared_of_valueType hkind h
      rw [Option.some.inj hvalue]
      rfl

/-- A value that is left out has a kind that refers to no type. -/
theorem declared?_of_valueType_eq_none {info : ResourceInfo} {kind : Kind}
    (h : valueType info kind = .ok none) : kind.declared? = none := by
  cases hkind : kind.declared? with
  | none => rfl
  | some type =>
      obtain ⟨identifier, hvalue, _⟩ := exists_declared_of_valueType hkind h
      cases hvalue

/-! ## Fields -/

/-- What a kind makes a field: its value and the given shape, or nothing. -/
theorem mappingOf_eq_ok_iff {info : ResourceInfo} {kind : Kind} {shape : Shape}
    {mapping : FieldMapping} :
    mappingOf info kind shape = .ok mapping ↔
      (valueType info kind = .ok none ∧ .omitted kind = mapping) ∨
        ∃ value, valueType info kind = .ok (some value) ∧ .mapped value shape = mapping := by
  rw [mappingOf, bind_eq_ok_iff]
  constructor
  · rintro ⟨result, hresult, hmapping⟩
    cases result with
    | none => exact Or.inl ⟨hresult, pure_eq_ok_iff.1 hmapping⟩
    | some value => exact Or.inr ⟨value, hresult, pure_eq_ok_iff.1 hmapping⟩
  · rintro (⟨hnone, hmapping⟩ | ⟨value, hvalue, hmapping⟩)
    · exact ⟨none, hnone, pure_eq_ok_iff.2 hmapping⟩
    · exact ⟨some value, hvalue, pure_eq_ok_iff.2 hmapping⟩

/-- What a field is mapped as: a map by its entry, any other field by its own kind. -/
theorem mapField_eq_ok_iff {types : TypeTable} {info : ResourceInfo} {field : MessageField}
    {mapping : FieldMapping} :
    mapField types info field = .ok mapping ↔
      (∃ kind, field.mapEntry? types = .ok none ∧ field.kind types = .ok kind ∧
        mappingOf info kind (shapeOf types field kind) = .ok mapping) ∨
      ∃ entry keyKind key kind, field.mapEntry? types = .ok (some entry) ∧
        entry.key.kind types = .ok keyKind ∧ mapKey types field keyKind = .ok key ∧
        entry.value.kind types = .ok kind ∧ mappingOf info kind (.map key) = .ok mapping := by
  rw [mapField, bind_eq_ok_iff]
  constructor
  · rintro ⟨entry, hentry, h⟩
    cases entry with
    | none =>
        obtain ⟨kind, hkind, hmapping⟩ := bind_eq_ok_iff.1 h
        exact Or.inl ⟨kind, hentry, hkind, hmapping⟩
    | some entry =>
        simp only [bind_eq_ok_iff] at h
        obtain ⟨keyKind, hkeyKind, key, hkey, kind, hkind, hmapping⟩ := h
        exact Or.inr ⟨entry, keyKind, key, kind, hentry, hkeyKind, hkey, hkind, hmapping⟩
  · rintro (⟨kind, hentry, hkind, hmapping⟩ |
      ⟨entry, keyKind, key, kind, hentry, hkeyKind, hkey, hkind, hmapping⟩)
    · exact ⟨none, hentry, bind_eq_ok_iff.2 ⟨kind, hkind, hmapping⟩⟩
    · refine ⟨some entry, hentry, ?_⟩
      simp only [bind_eq_ok_iff]
      exact ⟨keyKind, hkeyKind, key, hkey, kind, hkind, hmapping⟩

/-- A field is mapped as a value of its value kind, in some shape. -/
theorem exists_mappingOf_of_mapField {types : TypeTable} {info : ResourceInfo}
    {field : MessageField} {mapping : FieldMapping} (h : mapField types info field = .ok mapping) :
    ∃ kind shape, field.valueKind types = .ok kind ∧ mappingOf info kind shape = .ok mapping := by
  simp only [MessageField.valueKind, bind_eq_ok_iff]
  rcases mapField_eq_ok_iff.1 h with ⟨kind, hentry, hkind, hmapping⟩ |
    ⟨entry, _, key, kind, hentry, _, _, hkind, hmapping⟩
  · exact ⟨kind, _, ⟨none, hentry, hkind⟩, hmapping⟩
  · exact ⟨kind, _, ⟨some entry, hentry, hkind⟩, hmapping⟩

/-- A declared field is left out because its kind has no type, or it is part of the struct with the value of
its kind, under the identifier and the key that its name gives. -/
theorem exists_of_declareField {types : TypeTable} {info : ResourceInfo} {field : MessageField}
    {outcome : FieldOutcome} (h : declareField types info field = .ok outcome) :
    ∃ kind, field.valueKind types = .ok kind ∧
      ((valueType info kind = .ok none ∧ outcome = .omitted field kind) ∨
        ∃ value shape identifier, valueType info kind = .ok (some value) ∧
          declaredIdentifier (Naming.snake field.name) = .ok identifier ∧
          outcome = .mapped ⟨field, identifier, Naming.lowerCamel field.name, value, shape⟩) := by
  rw [declareField, bind_eq_ok_iff] at h
  obtain ⟨mapping, hmapping, h⟩ := h
  obtain ⟨kind, shape, hkind, hshape⟩ := exists_mappingOf_of_mapField hmapping
  refine ⟨kind, hkind, ?_⟩
  rcases mappingOf_eq_ok_iff.1 hshape with ⟨hnone, rfl⟩ | ⟨value, hvalue, rfl⟩
  · exact Or.inl ⟨hnone, (pure_eq_ok_iff.1 h).symm⟩
  · simp only [bind_eq_ok_iff, pure_eq_ok_iff] at h
    obtain ⟨identifier, hidentifier, rfl⟩ := h
    exact Or.inr ⟨value, shape, identifier, hvalue, hidentifier, rfl⟩

/-- A mapped field refers to the type it leads to. -/
theorem declared?_of_mapField {types : TypeTable} {info : ResourceInfo} {field : MessageField}
    {mapping : FieldMapping} (h : mapField types info field = .ok mapping) :
    mapping.declared? = field.leadsTo? types := by
  obtain ⟨kind, shape, hkind, hmapping⟩ := exists_mappingOf_of_mapField h
  rw [MessageField.leadsTo?, hkind]
  rcases mappingOf_eq_ok_iff.1 hmapping with ⟨hnone, rfl⟩ | ⟨value, hvalue, rfl⟩
  · exact (declared?_of_valueType_eq_none hnone).symm
  · exact declared?_of_valueType hvalue

/-- A declared field refers to the type it leads to. -/
theorem declared?_of_declareField {types : TypeTable} {info : ResourceInfo} {field : MessageField}
    {outcome : FieldOutcome} (h : declareField types info field = .ok outcome) :
    outcome.declared? = field.leadsTo? types := by
  rw [declareField, bind_eq_ok_iff] at h
  obtain ⟨mapping, hmapping, h⟩ := h
  rw [← declared?_of_mapField hmapping]
  cases mapping with
  | omitted kind =>
      rw [← pure_eq_ok_iff.1 h]
      rfl
  | mapped value shape =>
      simp only [bind_eq_ok_iff, pure_eq_ok_iff] at h
      obtain ⟨identifier, _, rfl⟩ := h
      rfl

/-! ## Declarations -/

/-- The type that a declaration declares. -/
def Declaration.type : Declaration → DeclaredType
  | .message declaration => .message declaration.type
  | .enum declaration => .enum declaration.type

/-- A declared message has its outcome for every field, and the identifier of the message. -/
theorem declareMessage_eq_ok_iff {types : TypeTable} {info : ResourceInfo} {message : MessageType}
    {declaration : MessageDeclaration} :
    declareMessage types info message = .ok declaration ↔
      ∃ fields identifier, message.fields.mapM (declareField types info) = .ok fields ∧
        declaredIdentifier (info.messageName message) = .ok identifier ∧
        ⟨message, identifier, fields⟩ = declaration := by
  simp only [declareMessage, bind_eq_ok_iff, pure_eq_ok_iff]
  constructor
  · rintro ⟨fields, hfields, identifier, hidentifier, h⟩
    exact ⟨fields, identifier, hfields, hidentifier, h⟩
  · rintro ⟨fields, identifier, hfields, hidentifier, h⟩
    exact ⟨fields, hfields, identifier, hidentifier, h⟩

theorem exists_of_declareEnum {enum : EnumType} {declaration : EnumDeclaration}
    (h : declareEnum enum = .ok declaration) :
    declaration.type = enum ∧
      declareVariants enum [] enum.declaration.values = .ok declaration.variants ∧
      declaredIdentifier (Naming.enumType enum.name) = .ok declaration.identifier := by
  unfold declareEnum at h
  split at h
  · cases h
  · simp only [bind_eq_ok_iff, pure_eq_ok_iff] at h
    obtain ⟨variants, hvariants, identifier, hidentifier, rfl⟩ := h
    exact ⟨rfl, hvariants, hidentifier⟩

/-- A type is declared as itself, under its identifier. -/
theorem type_and_identifier_of_declare {types : TypeTable} {info : ResourceInfo}
    {type : DeclaredType} {declaration : Declaration}
    (h : declare types info type = .ok declaration) :
    declaration.type = type ∧
      declaredIdentifier (info.identifierOf type) = .ok declaration.identifier := by
  cases type with
  | message message =>
      obtain ⟨result, hresult, rfl⟩ := functor_map_eq_ok_iff.1 h
      obtain ⟨fields, identifier, _, hidentifier, rfl⟩ := declareMessage_eq_ok_iff.1 hresult
      exact ⟨rfl, hidentifier⟩
  | enum enum =>
      obtain ⟨result, hresult, rfl⟩ := functor_map_eq_ok_iff.1 h
      obtain ⟨htype, _, hidentifier⟩ := exists_of_declareEnum hresult
      exact ⟨congrArg DeclaredType.enum htype, hidentifier⟩

/-- A declaration refers to the successors of its type, in order. -/
theorem references_eq_successors {types : TypeTable} {info : ResourceInfo} {type : DeclaredType}
    {declaration : Declaration} (h : declare types info type = .ok declaration) :
    declaration.references = types.successors type := by
  cases type with
  | message message =>
      obtain ⟨result, hresult, rfl⟩ := functor_map_eq_ok_iff.1 h
      obtain ⟨fields, identifier, hfields, _, rfl⟩ := declareMessage_eq_ok_iff.1 hresult
      exact filterMap_eq_of_mapM (fun _ _ hfield => declared?_of_declareField hfield) hfields
  | enum enum =>
      obtain ⟨result, _, rfl⟩ := functor_map_eq_ok_iff.1 h
      rfl

end CustomResource
