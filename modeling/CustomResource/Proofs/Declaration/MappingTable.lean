import CustomResource.Declaration.References
import CustomResource.Declaration.Rendering

/-!
# The mapping table

What each field is written as, stated as a table of rules.  The rows for kinds say which type represents one
value; the rows for shapes say how the field holds its values; the rows for maps say what an entry has to look
like and which of several faults is reported.  The rules exclude each other and leave nothing out: a field is
mapped as a result exactly if the rules give it that result.  The rows spell all types out, path by path.
-/

namespace CustomResource

open Source

/-! ## Rows for kinds -/

/-- The kinds that a plain type represents. -/
def ScalarType.kinds : ScalarType → List ScalarKind
  | .bool => [.bool]
  | .i32 => [.int32, .sint32, .sfixed32]
  | .u32 => [.uint32, .fixed32]
  | .i64 => [.int64, .sint64, .sfixed64]
  | .u64 => [.uint64, .fixed64]
  | .string => [.string]

/-- How a plain type is spelled. -/
def ScalarType.spelling : ScalarType → TypeExpr
  | .bool => .path ⟨false, ["bool"]⟩ []
  | .i32 => .path ⟨false, ["i32"]⟩ []
  | .u32 => .path ⟨false, ["u32"]⟩ []
  | .i64 => .path ⟨false, ["i64"]⟩ []
  | .u64 => .path ⟨false, ["u64"]⟩ []
  | .string => .path ⟨true, ["std", "string", "String"]⟩ []

/-- How the representation of bytes is spelled. -/
def BytesType.spelling : BytesType → TypeExpr
  | .vec => .path ⟨true, ["std", "vec", "Vec"]⟩ [.path ⟨false, ["u8"]⟩ []]
  | .byteString => .path ⟨true, ["k8s_openapi", "ByteString"]⟩ []

/-- How a collection of values under keys is spelled. -/
def MapType.spelling (key value : TypeExpr) : MapType → TypeExpr
  | .btree => .path ⟨true, ["std", "collections", "BTreeMap"]⟩ [key, value]
  | .hash => .path ⟨true, ["std", "collections", "HashMap"]⟩ [key, value]

/-- The kinds that have no type. -/
def Kind.IsFloatingPoint (kind : Kind) : Prop :=
  kind = .scalar .float ∨ kind = .scalar .double

/-- The type that one value of a kind is written as, or the error in the identifier of a declared type. -/
inductive Kind.Represented (info : ResourceInfo) (bytesType : BytesType) :
    Kind → Except GenerateError TypeExpr → Prop
  | scalar {kind : ScalarKind} {type : ScalarType} (h : kind ∈ type.kinds) :
      Represented info bytesType (.scalar kind) (.ok type.spelling)
  | bytes : Represented info bytesType (.scalar .bytes) (.ok bytesType.spelling)
  | declared {kind : Kind} {type : DeclaredType} {identifier : String}
      (htype : kind.declared? = some type)
      (h : declaredIdentifier (info.identifierOf type) = .ok identifier) :
      Represented info bytesType kind (.ok (.path ⟨false, [identifier]⟩ []))
  | refused {kind : Kind} {type : DeclaredType} {error : GenerateError}
      (htype : kind.declared? = some type)
      (h : declaredIdentifier (info.identifierOf type) = .error error) :
      Represented info bytesType kind (.error error)

/-- A map is written as it is spelled. -/
theorem Shape.expr_map (mapType : MapType) (key : ScalarType) :
    (Shape.map key).expr mapType = fun value => mapType.spelling key.spelling value := by
  funext value
  cases mapType <;> cases key <;> rfl

theorem plainType?_eq_some_iff {kind : ScalarKind} {type : ScalarType} :
    kind.plainType? = some type ↔ kind ∈ type.kinds := by
  cases kind <;> cases type <;> decide

theorem plainType?_eq_none_iff {kind : ScalarKind} :
    kind.plainType? = none ↔ kind = .float ∨ kind = .double ∨ kind = .bytes := by
  cases kind <;> decide

/-- A scalar kind but that of bytes is represented by its plain type. -/
theorem valueType_scalar (info : ResourceInfo) {kind : ScalarKind} (h : kind ≠ .bytes) :
    valueType info (.scalar kind) = .ok (kind.plainType?.map .scalar) := by
  rw [valueType]
  exact h

theorem Kind.IsFloatingPoint.valueType_eq {info : ResourceInfo} {kind : Kind}
    (h : kind.IsFloatingPoint) : valueType info kind = .ok none := by
  rcases h with rfl | rfl <;> rfl

/-- A kind has no type, or one value of it is written as its row says. -/
theorem Kind.isFloatingPoint_or_represented (info : ResourceInfo) (bytesType : BytesType) (kind : Kind) :
    (kind.IsFloatingPoint ∧ valueType info kind = .ok none) ∨
      (∃ error, valueType info kind = .error error ∧ kind.Represented info bytesType (.error error)) ∨
      ∃ value, valueType info kind = .ok (some value) ∧
        kind.Represented info bytesType (.ok (value.expr bytesType)) := by
  cases hdeclared : kind.declared? with
  | some type =>
      have hvalue : valueType info kind = some <$> declaredValue info type :=
        valueType_of_declared? hdeclared
      right
      cases hidentifier : declaredIdentifier (info.identifierOf type) with
      | error error =>
          left
          refine ⟨error, ?_, .refused hdeclared hidentifier⟩
          rw [hvalue, declaredValue, hidentifier]
          rfl
      | ok identifier =>
          right
          refine ⟨.declared type identifier, ?_, .declared hdeclared hidentifier⟩
          rw [hvalue, declaredValue, hidentifier]
          rfl
  | none =>
      cases kind with
      | message type => cases hdeclared
      | group type => cases hdeclared
      | enum type => cases hdeclared
      | scalar scalar =>
          by_cases hbytes : scalar = .bytes
          · subst hbytes
            exact Or.inr (Or.inr ⟨.bytes, rfl, .bytes⟩)
          have hvalue := valueType_scalar info hbytes
          cases htype : scalar.plainType? with
          | some type =>
              refine Or.inr (Or.inr ⟨.scalar type, ?_, .scalar (plainType?_eq_some_iff.1 htype)⟩)
              rw [hvalue, htype]
              rfl
          | none =>
              left
              constructor
              · rcases plainType?_eq_none_iff.1 htype with rfl | rfl | rfl
                · exact Or.inl rfl
                · exact Or.inr rfl
                · exact absurd rfl hbytes
              · rw [hvalue, htype]
                rfl

/-- One value is written as its row says. -/
theorem Kind.Represented.valueType_eq {info : ResourceInfo} {bytesType : BytesType} {kind : Kind}
    {result : Except GenerateError TypeExpr} (h : kind.Represented info bytesType result) :
    (valueType info kind).map (·.map (·.expr bytesType)) = result.map some := by
  cases h with
  | @scalar kind type hkind =>
      have htype : kind.plainType? = some type := plainType?_eq_some_iff.2 hkind
      have hbytes : kind ≠ .bytes := by
        rintro rfl
        cases htype
      rw [valueType_scalar info hbytes, htype]
      rfl
  | bytes => rfl
  | declared htype hidentifier =>
      rw [valueType_of_declared? htype, declaredValue, hidentifier]
      rfl
  | refused htype hidentifier =>
      rw [valueType_of_declared? htype, declaredValue, hidentifier]
      rfl

/-! ## Rows for shapes -/

/-- What is written of a field: a note that its kind has no type, or its type, whether it is marked as not
implemented, and the type that has to be declared for it. -/
inductive FieldReport where
  | omitted (kind : Kind)
  | written (type : TypeExpr) (notImplemented : Bool) (requested : Option DeclaredType)

/-- What is written of a field that is mapped. -/
def FieldMapping.report (presentation : Presentation) : FieldMapping → FieldReport
  | .omitted kind => .omitted kind
  | .mapped value shape =>
      .written (shape.expr presentation.mapType (value.expr presentation.bytesType)) (shape = .group)
        value.declared?

/-- What is written of a field as its message is declared. -/
def FieldOutcome.report (presentation : Presentation) : FieldOutcome → FieldReport
  | .omitted _ kind => .omitted kind
  | .mapped field =>
      .written (field.typeExpr presentation) (" Not implemented." ∈ field.docs) field.value.declared?

/-- How a field of a kind that is no map holds its values, and whether it is marked as not implemented. -/
inductive MessageField.Holds (types : TypeTable) (field : MessageField) :
    Kind → (TypeExpr → TypeExpr) → Bool → Prop
  /-- A group is marked, whatever its label. -/
  | group (type : MessageType) :
      field.Holds types (.group type) (fun value => .path ⟨true, ["std", "vec", "Vec"]⟩ [value]) true
  | list {kind : Kind} (hgroup : ∀ type, kind ≠ .group type) (h : field.cardinality = .repeated) :
      field.Holds types kind (fun value => .path ⟨true, ["std", "vec", "Vec"]⟩ [value]) false
  | boxed (type : MessageType) (h : field.cardinality = .singular) :
      field.Holds types (.message type)
        (fun value => .path ⟨true, ["std", "option", "Option"]⟩ [.path ⟨true, ["std", "boxed", "Box"]⟩ [value]])
        false
  /-- Bytes are never optional. -/
  | bytes (h : field.cardinality = .singular) : field.Holds types (.scalar .bytes) id false
  | optional {kind : Kind} (hmessage : ∀ type, kind ≠ .message type) (hgroup : ∀ type, kind ≠ .group type)
      (hbytes : kind ≠ .scalar .bytes) (h : field.cardinality = .singular)
      (hpresence : field.hasPresence types = true) :
      field.Holds types kind (fun value => .path ⟨true, ["std", "option", "Option"]⟩ [value]) false
  | plain {kind : Kind} (hmessage : ∀ type, kind ≠ .message type) (hgroup : ∀ type, kind ≠ .group type)
      (hbytes : kind ≠ .scalar .bytes) (h : field.cardinality = .singular)
      (hpresence : field.hasPresence types = false) : field.Holds types kind id false

/-- What is reported of a field that holds values of a kind. -/
inductive Kind.Reported (info : ResourceInfo) (presentation : Presentation) (kind : Kind)
    (wrap : TypeExpr → TypeExpr) (notImplemented : Bool) : Except GenerateError FieldReport → Prop
  | omitted (h : kind.IsFloatingPoint) :
      kind.Reported info presentation wrap notImplemented (.ok (.omitted kind))
  | refused {error : GenerateError} (h : kind.Represented info presentation.bytesType (.error error)) :
      kind.Reported info presentation wrap notImplemented (.error error)
  | written {type : TypeExpr} (h : kind.Represented info presentation.bytesType (.ok type)) :
      kind.Reported info presentation wrap notImplemented
        (.ok (.written (wrap type) notImplemented kind.declared?))

theorem MessageField.cardinality_eq_repeated {field : MessageField} (h : field.cardinality ≠ .singular) :
    field.cardinality = .repeated := by
  cases hcase : field.cardinality with
  | singular => exact absurd hcase h
  | repeated => rfl

/-! ## Rows for maps -/

/-- The field is a map with entries of a type. -/
structure MessageField.IsMapOf (types : TypeTable) (field : MessageField) (entry : MessageType) : Prop where
  repeated : field.cardinality = .repeated
  kind_eq : field.kind types = .ok (.message entry)
  isMapEntry : entry.isMapEntry = true

/-- The first fields of an entry that are numbered 1 and 2 are those given, and they have the names they
should. -/
structure MessageType.HasEntry (entry : MessageType) (key value : MessageField) : Prop where
  key_eq : entry.fieldNumbered? 1 = some key
  key_name : key.name = "key"
  value_eq : entry.fieldNumbered? 2 = some value
  value_name : value.name = "value"

/-- What the table reports of a field. -/
inductive MessageField.Documented (types : TypeTable) (info : ResourceInfo) (presentation : Presentation)
    (field : MessageField) : Except GenerateError FieldReport → Prop
  | unresolved {error : GenerateError} (h : field.kind types = .error error) :
      field.Documented types info presentation (.error error)
  | malformedEntry {entry : MessageType} (hmap : field.IsMapOf types entry)
      (h : ¬ ∃ key value, entry.HasEntry key value) :
      field.Documented types info presentation (.error (.malformedMapEntry entry.fullName))
  | unresolvedKey {entry : MessageType} {key value : MessageField} {error : GenerateError}
      (hmap : field.IsMapOf types entry) (hentry : entry.HasEntry key value)
      (h : key.kind types = .error error) :
      field.Documented types info presentation (.error error)
  | refusedKey {entry : MessageType} {key value : MessageField} {keyKind : Kind}
      (hmap : field.IsMapOf types entry) (hentry : entry.HasEntry key value)
      (hkey : key.kind types = .ok keyKind)
      (h : ∀ (scalar : ScalarKind) (type : ScalarType), keyKind = .scalar scalar → scalar ∉ type.kinds) :
      field.Documented types info presentation (.error (.malformedMapEntry entry.fullName))
  | unresolvedValue {entry : MessageType} {key value : MessageField} {scalar : ScalarKind}
      {type : ScalarType} {error : GenerateError} (hmap : field.IsMapOf types entry)
      (hentry : entry.HasEntry key value) (hkey : key.kind types = .ok (.scalar scalar))
      (htype : scalar ∈ type.kinds) (h : value.kind types = .error error) :
      field.Documented types info presentation (.error error)
  | map {entry : MessageType} {key value : MessageField} {scalar : ScalarKind} {type : ScalarType}
      {kind : Kind} {result : Except GenerateError FieldReport} (hmap : field.IsMapOf types entry)
      (hentry : entry.HasEntry key value) (hkey : key.kind types = .ok (.scalar scalar))
      (htype : scalar ∈ type.kinds) (hvalue : value.kind types = .ok kind)
      (h : kind.Reported info presentation
        (fun value => presentation.mapType.spelling type.spelling value) false result) :
      field.Documented types info presentation result
  | noMap {kind : Kind} {wrap : TypeExpr → TypeExpr} {notImplemented : Bool}
      {result : Except GenerateError FieldReport} (hkind : field.kind types = .ok kind)
      (hmap : ∀ entry, ¬ field.IsMapOf types entry)
      (hholds : field.Holds types kind wrap notImplemented)
      (h : kind.Reported info presentation wrap notImplemented result) :
      field.Documented types info presentation result

/-! ## The mapping follows the rows -/

section Rows

variable {types : TypeTable} {info : ResourceInfo} {presentation : Presentation} {field : MessageField}

/-- A kind in a shape is reported as its row says. -/
theorem Kind.reported_iff {kind : Kind} {wrap : TypeExpr → TypeExpr} {notImplemented : Bool} {shape : Shape}
    (hwrap : shape.expr presentation.mapType = wrap) (hmark : decide (shape = .group) = notImplemented)
    {result : Except GenerateError FieldReport} :
    (mappingOf info kind shape).map (·.report presentation) = result ↔
      kind.Reported info presentation wrap notImplemented result := by
  subst hwrap hmark
  constructor
  · rintro rfl
    rcases kind.isFloatingPoint_or_represented info presentation.bytesType with
      ⟨hfloat, hvalue⟩ | ⟨error, hvalue, hrow⟩ | ⟨value, hvalue, hrow⟩
    · rw [mappingOf, hvalue]
      exact .omitted hfloat
    · rw [mappingOf, hvalue]
      exact .refused hrow
    · rw [mappingOf, hvalue]
      change kind.Reported info presentation _ _ (.ok (.written _ _ value.declared?))
      rw [declared?_of_valueType hvalue]
      exact .written hrow
  · intro h
    cases h with
    | omitted hfloat =>
        rw [mappingOf, hfloat.valueType_eq]
        rfl
    | refused hrow =>
        have hvalue := hrow.valueType_eq
        cases hresult : valueType info kind with
        | error error =>
            rw [hresult] at hvalue
            cases hvalue
            rw [mappingOf, hresult]
            rfl
        | ok value =>
            rw [hresult] at hvalue
            cases hvalue
    | @written type hrow =>
        have hvalue := hrow.valueType_eq
        obtain ⟨result, hresult, hsame⟩ := map_eq_ok_iff.1 hvalue
        obtain ⟨value, rfl, rfl⟩ := Option.map_eq_some_iff.1 hsame
        rw [mappingOf, hresult, ← declared?_of_valueType hresult]
        rfl

/-- A field is a map with entries of a type, or it is none. -/
theorem MessageField.isMap_eq_false (hmap : ∀ entry, ¬ field.IsMapOf types entry)
    (hrepeated : field.cardinality = .repeated) : field.isMap types = false := by
  rw [MessageField.isMap, Bool.and_eq_false_iff]
  right
  split
  · next entry hkind =>
      rw [← Bool.not_eq_true]
      exact fun hentry => hmap entry ⟨hrepeated, hkind, hentry⟩
  · rfl

/-- A field that is no map is a list exactly if it is repeated. -/
theorem MessageField.isList_eq (hmap : ∀ entry, ¬ field.IsMapOf types entry) :
    field.isList types = decide (field.cardinality = .repeated) := by
  by_cases hrepeated : field.cardinality = .repeated
  · simp [MessageField.isList, hrepeated, field.isMap_eq_false hmap hrepeated]
  · simp [MessageField.isList, hrepeated]

/-- The shape of a kind whose fields are plain or optional. -/
theorem shapeOf_of_basic {kind : Kind} (hmessage : ∀ type, kind ≠ .message type)
    (hgroup : ∀ type, kind ≠ .group type) (hbytes : kind ≠ .scalar .bytes)
    (hlist : field.isList types = false) :
    shapeOf types field kind = if field.hasPresence types then .optional else .plain := by
  cases kind with
  | message type => exact absurd rfl (hmessage type)
  | group type => exact absurd rfl (hgroup type)
  | enum type => simp [shapeOf, hlist]
  | scalar scalar => simp [shapeOf, hlist]

theorem shapeOf_of_repeated {kind : Kind} (hgroup : ∀ type, kind ≠ .group type)
    (hlist : field.isList types = true) : shapeOf types field kind = .list := by
  cases kind with
  | group type => exact absurd rfl (hgroup type)
  | message type => simp [shapeOf, hlist]
  | enum type => simp [shapeOf, hlist]
  | scalar scalar => simp [shapeOf, hlist]

/-- The shape of a field that is no map is that of its row. -/
theorem MessageField.Holds.shapeOf_eq {kind : Kind} {wrap : TypeExpr → TypeExpr} {notImplemented : Bool}
    (hmap : ∀ entry, ¬ field.IsMapOf types entry) (h : field.Holds types kind wrap notImplemented) :
    (shapeOf types field kind).expr presentation.mapType = wrap ∧
      decide (shapeOf types field kind = .group) = notImplemented := by
  have hlist : field.isList types = decide (field.cardinality = .repeated) := field.isList_eq hmap
  cases h with
  | group type => exact ⟨rfl, rfl⟩
  | list hgroup hrepeated =>
      rw [shapeOf_of_repeated hgroup (by simp [hlist, hrepeated])]
      exact ⟨rfl, rfl⟩
  | boxed type hsingular =>
      have hshape : shapeOf types field (.message type) = .boxed := by
        simp [shapeOf, hlist, hsingular]
      rw [hshape]
      exact ⟨rfl, rfl⟩
  | bytes hsingular =>
      have hshape : shapeOf types field (.scalar .bytes) = .plain := by
        simp [shapeOf, hlist, hsingular]
      rw [hshape]
      exact ⟨rfl, rfl⟩
  | optional hmessage hgroup hbytes hsingular hpresence =>
      rw [shapeOf_of_basic hmessage hgroup hbytes (by simp [hlist, hsingular]), if_pos hpresence]
      exact ⟨rfl, rfl⟩
  | plain hmessage hgroup hbytes hsingular hpresence =>
      rw [shapeOf_of_basic hmessage hgroup hbytes (by simp [hlist, hsingular]), hpresence]
      exact ⟨rfl, rfl⟩

/-- Some row for shapes applies to every kind. -/
theorem MessageField.exists_holds (types : TypeTable) (field : MessageField) (kind : Kind) :
    ∃ wrap notImplemented, field.Holds types kind wrap notImplemented := by
  by_cases hgroup : ∃ type, kind = .group type
  · obtain ⟨type, rfl⟩ := hgroup
    exact ⟨_, _, .group type⟩
  have hgroup : ∀ type, kind ≠ .group type := fun type h => hgroup ⟨type, h⟩
  cases hcardinality : field.cardinality with
  | repeated => exact ⟨_, _, .list hgroup hcardinality⟩
  | singular =>
      by_cases hmessage : ∃ type, kind = .message type
      · obtain ⟨type, rfl⟩ := hmessage
        exact ⟨_, _, .boxed type hcardinality⟩
      have hmessage : ∀ type, kind ≠ .message type := fun type h => hmessage ⟨type, h⟩
      by_cases hbytes : kind = .scalar .bytes
      · subst hbytes
        exact ⟨_, _, .bytes hcardinality⟩
      · cases hpresence : field.hasPresence types with
        | true => exact ⟨_, _, .optional hmessage hgroup hbytes hcardinality hpresence⟩
        | false => exact ⟨_, _, .plain hmessage hgroup hbytes hcardinality hpresence⟩

/-! ### Maps -/

theorem mapEntry_eq_ok_iff {entry : MessageType} {key value : MessageField} :
    entry.mapEntry = .ok ⟨key, value⟩ ↔ entry.HasEntry key value := by
  constructor
  · intro h
    unfold MessageType.mapEntry at h
    split at h
    · next first second hkey hvalue =>
        split at h
        · next hnames =>
            cases h
            exact ⟨hkey, hnames.1, hvalue, hnames.2⟩
        · cases h
    · cases h
  · intro h
    simp [MessageType.mapEntry, h.key_eq, h.value_eq, h.key_name, h.value_name]

theorem mapEntry_eq_error {entry : MessageType} (h : ¬ ∃ key value, entry.HasEntry key value) :
    entry.mapEntry = .error (.malformedMapEntry entry.fullName) := by
  cases hentry : entry.mapEntry with
  | ok found => exact absurd ⟨found.key, found.value, mapEntry_eq_ok_iff.1 hentry⟩ h
  | error error =>
      unfold MessageType.mapEntry at hentry
      split at hentry
      · split at hentry
        · cases hentry
        · exact hentry.symm
      · exact hentry.symm

/-- A map field is mapped by its entry. -/
theorem MessageField.IsMapOf.mapField_eq {entry : MessageType} (h : field.IsMapOf types entry) :
    mapField types info field = (do
      let found ← entry.mapEntry
      let key ← mapKey types field (← found.key.kind types)
      mappingOf info (← found.value.kind types) (.map key)) := by
  have hentry : field.mapEntry? types = some <$> entry.mapEntry := by
    simp [MessageField.mapEntry?, h.repeated, h.kind_eq, h.isMapEntry, bind, Except.bind]
  rw [mapField, hentry]
  cases entry.mapEntry <;> rfl

/-- Any other field is mapped by its own kind. -/
theorem mapField_of_noMap {kind : Kind} (hkind : field.kind types = .ok kind)
    (hmap : ∀ entry, ¬ field.IsMapOf types entry) :
    mapField types info field = mappingOf info kind (shapeOf types field kind) := by
  have hentry : field.mapEntry? types = .ok none := by
    unfold MessageField.mapEntry?
    split
    · rfl
    · next hcardinality =>
        have hrepeated := MessageField.cardinality_eq_repeated hcardinality
        rw [hkind]
        cases kind with
        | message entry =>
            have hplain : entry.isMapEntry = false := by
              rw [← Bool.not_eq_true]
              exact fun hisEntry => hmap entry ⟨hrepeated, hkind, hisEntry⟩
            simp [bind, Except.bind, hplain]
        | scalar scalar => rfl
        | group type => rfl
        | enum type => rfl
  rw [mapField, hentry, hkind]
  rfl

theorem mapField_of_kind_error {error : GenerateError} (h : field.kind types = .error error) :
    mapField types info field = .error error := by
  rw [mapField, MessageField.mapEntry?]
  split
  · rw [h]
    rfl
  · rw [h]
    rfl

/-- The key of a map is a plain type that represents its kind. -/
theorem mapKey_of_mem {scalar : ScalarKind} {type : ScalarType} (h : scalar ∈ type.kinds) :
    mapKey types field (.scalar scalar) = .ok type := by
  simp [mapKey, plainType?_eq_some_iff.2 h]

/-- A key of any other kind is reported under the name of the entry. -/
theorem MessageField.IsMapOf.mapKey_eq_error {entry : MessageType} {kind : Kind}
    (h : field.IsMapOf types entry)
    (hkind : ∀ (scalar : ScalarKind) (type : ScalarType), kind = .scalar scalar → scalar ∉ type.kinds) :
    mapKey types field kind = .error (.malformedMapEntry entry.fullName) := by
  have hmalformed : mapKey.malformed types field = .error (.malformedMapEntry entry.fullName) := by
    simp [mapKey.malformed, h.kind_eq, Kind.text]
  cases kind with
  | scalar scalar =>
      have hnone : scalar.plainType? = none := by
        cases htype : scalar.plainType? with
        | none => rfl
        | some type => exact absurd (plainType?_eq_some_iff.1 htype) (hkind scalar type rfl)
      simp only [mapKey, hnone, hmalformed]
  | message type => exact hmalformed
  | group type => exact hmalformed
  | enum type => exact hmalformed

/-! ### The whole table -/

/-- What the table reports of a field is what the field is mapped as. -/
theorem MessageField.Documented.mapField_eq {result : Except GenerateError FieldReport}
    (h : field.Documented types info presentation result) :
    (mapField types info field).map (·.report presentation) = result := by
  cases h with
  | unresolved hkind =>
      rw [mapField_of_kind_error hkind]
      rfl
  | malformedEntry hmap hentry =>
      rw [hmap.mapField_eq, mapEntry_eq_error hentry]
      rfl
  | unresolvedKey hmap hentry hkey =>
      rw [hmap.mapField_eq, mapEntry_eq_ok_iff.2 hentry]
      simp only [Except.bind, bind, hkey]
      rfl
  | refusedKey hmap hentry hkey hrefused =>
      rw [hmap.mapField_eq, mapEntry_eq_ok_iff.2 hentry]
      simp only [Except.bind, bind, hkey, hmap.mapKey_eq_error hrefused]
      rfl
  | unresolvedValue hmap hentry hkey htype hvalue =>
      rw [hmap.mapField_eq, mapEntry_eq_ok_iff.2 hentry]
      simp only [Except.bind, bind, hkey, mapKey_of_mem htype, hvalue]
      rfl
  | map hmap hentry hkey htype hvalue hreport =>
      rw [hmap.mapField_eq, mapEntry_eq_ok_iff.2 hentry]
      simp only [Except.bind, bind, hkey, mapKey_of_mem htype, hvalue]
      exact (Kind.reported_iff (Shape.expr_map _ _) rfl).2 hreport
  | noMap hkind hmap hholds hreport =>
      obtain ⟨hwrap, hmark⟩ := hholds.shapeOf_eq hmap
      rw [mapField_of_noMap hkind hmap]
      exact (Kind.reported_iff hwrap hmark).2 hreport

/-- The table reports something of every field. -/
theorem MessageField.documented_mapField (types : TypeTable) (info : ResourceInfo)
    (presentation : Presentation) (field : MessageField) :
    field.Documented types info presentation
      ((mapField types info field).map (·.report presentation)) := by
  -- In the order in which the faults are looked for: the kind, the entry, its key, its value.
  cases hkind : field.kind types with
  | error error =>
      rw [mapField_of_kind_error hkind]
      exact .unresolved hkind
  | ok kind =>
      by_cases hmap : ∃ entry, field.IsMapOf types entry
      · obtain ⟨entry, hmap⟩ := hmap
        by_cases hfields : ∃ key value, entry.HasEntry key value
        · obtain ⟨key, value, hentry⟩ := hfields
          rw [hmap.mapField_eq, mapEntry_eq_ok_iff.2 hentry]
          simp only [Except.bind, bind]
          cases hkey : key.kind types with
          | error error => exact .unresolvedKey hmap hentry hkey
          | ok keyKind =>
              by_cases hplain : ∃ scalar type, keyKind = .scalar scalar ∧ scalar ∈ ScalarType.kinds type
              · obtain ⟨scalar, type, rfl, htype⟩ := hplain
                simp only [mapKey_of_mem htype]
                cases hvalue : value.kind types with
                | error error => exact .unresolvedValue hmap hentry hkey htype hvalue
                | ok valueKind =>
                    have hwrap := Shape.expr_map presentation.mapType type
                    exact .map hmap hentry hkey htype hvalue ((Kind.reported_iff hwrap rfl).1 rfl)
              · have hrefused : ∀ (scalar : ScalarKind) (type : ScalarType),
                    keyKind = .scalar scalar → scalar ∉ type.kinds :=
                  fun scalar type hscalar htype => hplain ⟨scalar, type, hscalar, htype⟩
                simp only [hmap.mapKey_eq_error hrefused]
                exact .refusedKey hmap hentry hkey hrefused
        · rw [hmap.mapField_eq, mapEntry_eq_error hfields]
          exact .malformedEntry hmap hfields
      · have hmap : ∀ entry, ¬ field.IsMapOf types entry := fun entry h => hmap ⟨entry, h⟩
        obtain ⟨wrap, notImplemented, hholds⟩ := field.exists_holds types kind
        obtain ⟨hwrap, hmark⟩ :
            (shapeOf types field kind).expr presentation.mapType = wrap ∧
              decide (shapeOf types field kind = .group) = notImplemented := hholds.shapeOf_eq hmap
        rw [mapField_of_noMap hkind hmap]
        exact .noMap hkind hmap hholds ((Kind.reported_iff hwrap hmark).1 rfl)

end Rows

/-- A struct holds what a field is mapped as. -/
theorem report_of_declareField {types : TypeTable} {info : ResourceInfo} {field : MessageField}
    {outcome : FieldOutcome} (presentation : Presentation)
    (h : declareField types info field = .ok outcome) :
    (mapField types info field).map (·.report presentation) = .ok (outcome.report presentation) := by
  rw [declareField, bind_eq_ok_iff] at h
  obtain ⟨mapping, hmapping, h⟩ := h
  rw [hmapping]
  cases mapping with
  | omitted kind =>
      cases h
      rfl
  | mapped value shape =>
      simp only [bind_eq_ok_iff, pure_eq_ok_iff] at h
      obtain ⟨identifier, _, rfl⟩ := h
      -- The first line of the documentation begins with a mark of code, so it is not the note.
      have hname : " Not implemented." ≠ " " ++ codeText field.fullName := by
        intro hsame
        have hsecond := congrArg (fun text => text.toList[1]?) hsame
        simp [codeText] at hsecond
      have hnote : (" Not implemented." ∈ MappedField.docs
          ⟨field, identifier, Naming.lowerCamel field.name, value, shape⟩) ↔ shape = .group := by
        rw [MappedField.docs, List.mem_cons, or_iff_right hname]
        split
        · next hgroup => simpa using hgroup
        · next hgroup => simpa using hgroup
      simp only [FieldOutcome.report, hnote]
      rfl

/-- Map any field of any message under any configuration.  The table of rules reports one result, and it is
what the field is mapped as: the same error, the same omission, or the same type with or without the note that
the field is not implemented, and the same request for the declaration of another type.  A struct holds exactly
what is reported. -/
theorem mapField_eq_iff_documented (types : TypeTable) (info : ResourceInfo)
    (presentation : Presentation) (field : MessageField) :
    (∀ result, (mapField types info field).map (·.report presentation) = result ↔
      field.Documented types info presentation result) ∧
    ∀ outcome, declareField types info field = .ok outcome →
      field.Documented types info presentation (.ok (outcome.report presentation)) := by
  have htable : ∀ result, (mapField types info field).map (·.report presentation) = result ↔
      field.Documented types info presentation result := by
    intro result
    constructor
    · rintro rfl
      exact field.documented_mapField types info presentation
    · exact MessageField.Documented.mapField_eq
  exact ⟨htable, fun outcome h => (htable _).1 (report_of_declareField presentation h)⟩

end CustomResource
