import CustomResource.Proofs.Declaration.MappingTable
import CustomResource.Proofs.Generation.FieldNames
import CustomResource.Proofs.Generation.Presentation

/-!
# Every field is written or noted

The fields of a message are written as fields of a struct, but for those of floating point kinds, which the
documentation of the struct lists.  So two sequences come out of one list of fields, and
`declareMessage_writes_or_notes_each_field` says that they are the two parts into which the kinds of the fields
divide it: nothing is lost, nothing stands in both, and both keep the order of declaration.

What a written field carries is told by its name and by the shape that it is mapped in
(`MessageField.Written`).  The test under which it is skipped belongs to the very type it is written with, as
`TypeExpr.emptyTest?` lists.
-/

namespace CustomResource

open Source

/-! ## Two parts of a list -/

/-- What a list is divided into by a test goes with what its results are divided into, if every member and its
result fall on the same side. -/
theorem forall₂_filter_filterMap {α β γ : Type} {R : α → β → Prop} {S : α → γ → Prop} {p : α → Bool}
    {g : β → Option γ} (h : ∀ a b, R a b →
      (p a = false ∧ g b = none) ∨ (p a = true ∧ ∃ c, g b = some c ∧ S a c))
    {list : List α} {results : List β} (hall : List.Forall₂ R list results) :
    List.Forall₂ S (list.filter p) (results.filterMap g) := by
  induction hall with
  | nil => exact .nil
  | @cons a b _ _ hfirst _ ih =>
      rcases h a b hfirst with ⟨hout, hnone⟩ | ⟨hin, c, hsome, hc⟩
      · simpa [hout, hnone] using ih
      · simpa [hin, hsome] using ⟨hc, ih⟩

/-! ## Written fields -/

/-- The paths of types with a test for nothing in their values, and the tests. -/
def emptyTests : List (List String × String) := [
  (["std", "option", "Option"], "::std::option::Option::is_none"),
  (["std", "vec", "Vec"], "::std::vec::Vec::is_empty"),
  (["std", "collections", "BTreeMap"], "::std::collections::BTreeMap::is_empty"),
  (["std", "collections", "HashMap"], "::std::collections::HashMap::is_empty")]

/-- The test for nothing in the values of a type, if there is one. -/
def Source.TypeExpr.emptyTest? : TypeExpr → Option String
  | .path ⟨true, segments⟩ _ => emptyTests.lookup segments
  | .path ⟨false, _⟩ _ => none

/-- The field holds bytes, one value of them. -/
def MessageField.IsSingleBytes (types : TypeTable) (field : MessageField) : Prop :=
  field.kind types = .ok (.scalar .bytes) ∧ field.cardinality = .singular

/-- A field of a struct, written for a field of a message: the value and the shape that the field is mapped as,
and the test under which it is skipped, if there is one.  What is written of serialization is what can be read
from its tokens.  A field in any shape but the plain one is an option, a list or a map, and those are skipped. -/
structure MessageField.Written (types : TypeTable) (info : ResourceInfo) (presentation : Presentation)
    (field : MessageField) (value : ValueType) (shape : Shape) (skip : Option String)
    (written : StructField) : Prop where
  mapped : mapField types info field = .ok (.mapped value shape)
  name_eq : written.name = Naming.snake field.name
  type_eq : written.type = shape.expr presentation.mapType (value.expr presentation.bytesType)
  attributes_eq : ∃ (docs : List String) (serde : Attribute),
    written.attributes =
      docs.map .doc ++ [serde] ++ presentation.attributesOfField field.owner.fullName field.name ∧
    serde.arguments? "serde" =
      some ([⟨"rename", some (Naming.lowerCamel field.name)⟩, ⟨"default", none⟩] ++
        (skip.map fun test => ⟨"skip_serializing_if", some test⟩).toList)
  isSome_skip_iff : skip.isSome ↔
    shape ≠ .plain ∨ (field.IsSingleBytes types ∧ presentation.bytesType.emptyTest?.isSome)
  skip_eq : skip = written.type.emptyTest?

/-- What a written field says of its serialization: the key, a default, and the test for its type. -/
theorem MessageField.Written.serialization?_eq {types : TypeTable} {info : ResourceInfo}
    {presentation : Presentation} {field : MessageField} {value : ValueType} {shape : Shape} {skip : Option String}
    {written : StructField} (h : field.Written types info presentation value shape skip written) :
    serialization? written.attributes =
      some ([⟨"rename", some (Naming.lowerCamel field.name)⟩, ⟨"default", none⟩] ++
        (written.type.emptyTest?.map fun test => ⟨"skip_serializing_if", some test⟩).toList) := by
  obtain ⟨docs, serde, hattributes, hserde⟩ := h.attributes_eq
  rw [hattributes, ← h.skip_eq]
  exact Source.serialization?_eq hserde docs _

section Mapping

variable {types : TypeTable} {info : ResourceInfo} {field : MessageField}

/-- A field that is not represented is one whose values are of a floating point kind. -/
theorem isRepresented_eq_false_iff : field.isRepresented types = false ↔
    ∃ kind, field.valueKind types = .ok kind ∧ kind.IsFloatingPoint := by
  unfold MessageField.isRepresented
  constructor
  · intro h
    split at h
    · next hkind => exact ⟨_, hkind, Or.inl rfl⟩
    · next hkind => exact ⟨_, hkind, Or.inr rfl⟩
    · cases h
  · rintro ⟨kind, hkind, rfl | rfl⟩
    · simp [hkind]
    · simp [hkind]

theorem eq_of_valueType_eq_bytes {kind : Kind} (h : valueType info kind = .ok (some .bytes)) :
    kind = .scalar .bytes := by
  cases hdeclared : kind.declared? with
  | some type =>
      -- A value of a declared type is not bytes.
      obtain ⟨_, hvalue, _⟩ := exists_declared_of_valueType hdeclared h
      cases hvalue
  | none =>
      cases kind with
      | message type => cases hdeclared
      | group type => cases hdeclared
      | enum type => cases hdeclared
      | scalar scalar =>
          by_cases hbytes : scalar = .bytes
          · rw [hbytes]
          · rw [valueType_scalar info hbytes] at h
            cases htype : scalar.plainType? <;> simp [htype] at h

theorem isList_of_bytes (h : field.kind types = .ok (.scalar .bytes)) :
    field.isList types = decide (field.cardinality = .repeated) := by
  simp [MessageField.isList, MessageField.isMap, h]

theorem shapeOf_bytes (h : field.kind types = .ok (.scalar .bytes)) :
    shapeOf types field (.scalar .bytes) = .plain ↔ field.cardinality = .singular := by
  have hlist := isList_of_bytes h
  cases hcardinality : field.cardinality with
  | singular => simp [shapeOf, hlist, hcardinality]
  | repeated => simp [shapeOf, hlist, hcardinality]

/-- Plain values that are bytes come from fields of single bytes, and from those alone. -/
theorem plain_bytes_iff {value : ValueType} {shape : Shape}
    (h : mapField types info field = .ok (.mapped value shape)) :
    (shape = .plain ∧ value = .bytes) ↔ field.IsSingleBytes types := by
  constructor
  · rintro ⟨rfl, rfl⟩
    rcases mapField_eq_ok_iff.1 h with ⟨kind, -, hkind, hmapping⟩ | ⟨_, _, key, _, -, -, -, -, hmapping⟩
    · rcases mappingOf_eq_ok_iff.1 hmapping with ⟨-, hsame⟩ | ⟨value, hvalue, hsame⟩
      · cases hsame
      · obtain ⟨rfl, hshape⟩ := FieldMapping.mapped.inj hsame
        obtain rfl := eq_of_valueType_eq_bytes hvalue
        exact ⟨hkind, (shapeOf_bytes hkind).1 hshape⟩
    · -- A map is no plain value.
      rcases mappingOf_eq_ok_iff.1 hmapping with ⟨-, hsame⟩ | ⟨value, -, hsame⟩
      · cases hsame
      · cases hsame
  · rintro ⟨hkind, hsingular⟩
    have hmap : ∀ entry, ¬ field.IsMapOf types entry := by
      intro entry hentry
      rw [hentry.repeated] at hsingular
      cases hsingular
    rw [mapField_of_noMap hkind hmap, (shapeOf_bytes hkind).2 hsingular] at h
    cases h
    exact ⟨rfl, rfl⟩

/-- A declared field is noted as left out if its values are of a floating point kind.  Otherwise it is part of the
struct, under the names that its own name gives. -/
theorem omitted_or_mapped_of_declareField {outcome : FieldOutcome}
    (h : declareField types info field = .ok outcome) :
    (field.isRepresented types = false ∧ ∃ kind, outcome = .omitted field kind ∧
      field.valueKind types = .ok kind ∧ kind.IsFloatingPoint) ∨
    (field.isRepresented types = true ∧ ∃ mapped : MappedField, outcome = .mapped mapped ∧
      mapped.field = field ∧ mapped.identifier = Naming.snake field.name ∧
      mapped.key = Naming.lowerCamel field.name ∧
      mapField types info field = .ok (.mapped mapped.value mapped.shape)) := by
  rw [declareField, bind_eq_ok_iff] at h
  obtain ⟨mapping, hmapping, h⟩ := h
  obtain ⟨kind, shape, hkind, hshape⟩ := exists_mappingOf_of_mapField hmapping
  rcases mappingOf_eq_ok_iff.1 hshape with ⟨hnone, rfl⟩ | ⟨value, hvalue, rfl⟩
  · left
    have hfloating : kind.IsFloatingPoint := valueType_eq_ok_none_iff.1 hnone
    exact ⟨isRepresented_eq_false_iff.2 ⟨kind, hkind, hfloating⟩, kind, (pure_eq_ok_iff.1 h).symm, hkind,
      hfloating⟩
  · right
    simp only [bind_eq_ok_iff, pure_eq_ok_iff] at h
    obtain ⟨identifier, hidentifier, rfl⟩ := h
    have hname := eq_of_declaredIdentifier (Naming.isIdentifierText_snake field.name) hidentifier
    refine ⟨?_, _, rfl, rfl, hname, rfl, hmapping⟩
    -- A floating point kind has no value.
    rw [← Bool.not_eq_false, isRepresented_eq_false_iff]
    rintro ⟨other, hother, hfloating⟩
    rw [hkind, Except.ok.injEq] at hother
    rw [hother, hfloating.valueType_eq] at hvalue
    cases hvalue

end Mapping

/-! ### Skipped fields -/

namespace MappedField

variable (presentation : Presentation) (field : MappedField)

/-- A field of a struct is skipped unless it is a plain value other than bytes with a test. -/
theorem isSome_skipTest?_iff : (field.skipTest? presentation).isSome ↔
    field.shape ≠ .plain ∨
      ((field.shape = .plain ∧ field.value = .bytes) ∧ presentation.bytesType.emptyTest?.isSome) := by
  unfold skipTest?
  cases hshape : field.shape with
  | plain => by_cases hbytes : field.value = .bytes <;> simp [hbytes]
  | optional => simp
  | boxed => simp
  | list => simp
  | group => simp
  | map key => simp

/-- The test under which a field is skipped is the one for its type. -/
theorem skipTest?_eq_emptyTest? :
    (field.skipTest? presentation).map (·.text) = (field.typeExpr presentation).emptyTest? := by
  unfold skipTest? typeExpr
  cases field.shape with
  | plain =>
      cases field.value with
      | scalar type => cases type <;> rfl
      | bytes => cases presentation.bytesType <;> rfl
      | declared type identifier => rfl
  | optional => rfl
  | boxed => rfl
  | list => rfl
  | group => rfl
  | map key => cases presentation.mapType <;> rfl

/-- A field of a struct is written as its mapping says, under the names that its own name gives. -/
theorem written {types : TypeTable} {info : ResourceInfo}
    (hmapped : mapField types info field.field = .ok (.mapped field.value field.shape))
    (hidentifier : field.identifier = Naming.snake field.field.name)
    (hkey : field.key = Naming.lowerCamel field.field.name) :
    field.field.Written types info presentation field.value field.shape
      ((field.skipTest? presentation).map (·.text)) (field.structField presentation) where
  mapped := hmapped
  name_eq := hidentifier
  type_eq := rfl
  attributes_eq := by
    refine ⟨field.docs, _, rfl, ?_⟩
    rw [field.arguments?_serde presentation, hkey, Option.map_map]
    rfl
  isSome_skip_iff := by
    rw [Option.isSome_map, field.isSome_skipTest?_iff presentation, ← plain_bytes_iff hmapped]
  skip_eq := field.skipTest?_eq_emptyTest? presentation

end MappedField

/-! ## Declared messages -/

/-- The documentation of a struct: the name of the message, and a list of what is left out if there is any. -/
def structDocs (fullName : String) (notes : List String) : List String :=
  (" \x60" ++ fullName ++ "\x60") :: if notes = [] then [] else "" :: " Omitted fields:" :: notes

/-- The line of documentation for a field of a kind that has no type. -/
def omittedNote (name kind : String) : String :=
  " - \x60" ++ name ++ "\x60: floating point fields are not supported (" ++ kind ++ ")."

/-- The note of a field whose values are of a floating point kind. -/
inductive MessageField.Noted (types : TypeTable) (field : MessageField) : String → Prop
  | float (h : field.valueKind types = .ok (.scalar .float)) : field.Noted types (omittedNote field.name "float")
  | double (h : field.valueKind types = .ok (.scalar .double)) :
      field.Noted types (omittedNote field.name "double")

/-- The notes of the fields that are left out, in order. -/
def MessageDeclaration.notes (declaration : MessageDeclaration) : List String :=
  (declaration.fields.filterMap (·.omitted?)).map fun (field, kind) => omittedDoc field kind

theorem append_codeText (before name : String) :
    before ++ codeText name = before ++ "\x60" ++ name ++ "\x60" := by
  rw [codeText, ← String.append_assoc, ← String.append_assoc]

theorem docs_eq_structDocs (declaration : MessageDeclaration) :
    declaration.docs = structDocs declaration.type.fullName declaration.notes := by
  simp [MessageDeclaration.docs, structDocs, MessageDeclaration.notes, append_codeText]

theorem omittedDoc_eq_omittedNote (field : MessageField) (kind : Kind) :
    MessageDeclaration.omittedDoc field kind = omittedNote field.name kind.text := by
  have hjoin : ∀ text : String, text ++ "\x60" ++ ": floating point fields are not supported (" =
      text ++ "\x60: floating point fields are not supported (" := by
    intro text
    rw [String.append_assoc]
    rfl
  rw [MessageDeclaration.omittedDoc, append_codeText, hjoin, omittedNote]
  rfl

theorem MessageField.noted_omittedDoc {types : TypeTable} {field : MessageField} {kind : Kind}
    (hkind : field.valueKind types = .ok kind) (hfloating : kind.IsFloatingPoint) :
    field.Noted types (MessageDeclaration.omittedDoc field kind) := by
  rw [omittedDoc_eq_omittedNote]
  rcases hfloating with rfl | rfl
  · exact .float hkind
  · exact .double hkind

/-- Declare any message under any presentation.  Its fields are divided by the kinds of their values: those that
are not floating point ones are the fields of the struct, each under the identifier and the key that its name
gives, and the others are the notes in its documentation, each with the kind that has no type.  Both parts are in
order of declaration.  A field of the struct is skipped when serialized exactly if it is an option, a list, a map,
or single bytes whose representation has a test for emptiness. -/
theorem declareMessage_writes_or_notes_each_field {types : TypeTable} {info : ResourceInfo}
    {message : MessageType} {declaration : MessageDeclaration} (presentation : Presentation)
    (h : declareMessage types info message = .ok declaration) :
    let item := (Declaration.message declaration).item presentation
    let kept := message.fields.filter fun field => field.isRepresented types
    let noted := message.fields.filter fun field => !field.isRepresented types
    (∀ field : MessageField, field.isRepresented types = false ↔
      ∃ kind, field.valueKind types = .ok kind ∧ (kind = .scalar .float ∨ kind = .scalar .double)) ∧
    ∃ emitted notes, item.members = .fields emitted ∧
      (leadingDocs item.attributes).map (·.docText?) = (structDocs message.fullName notes).map some ∧
      List.Forall₂ (fun field written =>
        ∃ value shape skip, field.Written types info presentation value shape skip written) kept emitted ∧
      List.Forall₂ (fun field note => field.Noted types note) noted notes := by
  intro item kept noted
  obtain ⟨fields, identifier, hfields, -, rfl⟩ := declareMessage_eq_ok_iff.1 h
  have houtcomes := forall₂_of_mapM hfields
  have hderive : (deriveAttribute ["Clone", "Debug", "Default", "PartialEq"]
      presentation.derives).isDoc = false := isDoc_call (by decide) _
  refine ⟨fun field => isRepresented_eq_false_iff, _,
    MessageDeclaration.notes ⟨message, identifier, fields⟩, rfl, ?_, ?_, ?_⟩
  · -- The documentation ends where the derives stand.
    have hdocs : leadingDocs item.attributes = _ := leadingDocs_eq _ hderive _
    rw [hdocs, Attribute.map_docText?_doc, docs_eq_structDocs]
  · rw [List.forall₂_map_right_iff]
    refine forall₂_filter_filterMap (fun field outcome houtcome => ?_) houtcomes
    rcases omitted_or_mapped_of_declareField houtcome with
      ⟨hout, _, rfl, -, -⟩ | ⟨hin, mapped, rfl, rfl, hidentifier, hkey, hmapped⟩
    · exact Or.inl ⟨hout, rfl⟩
    · exact Or.inr ⟨hin, mapped, rfl, _, _, _, mapped.written presentation hmapped hidentifier hkey⟩
  · rw [MessageDeclaration.notes, List.forall₂_map_right_iff]
    refine forall₂_filter_filterMap (fun field outcome houtcome => ?_) houtcomes
    rcases omitted_or_mapped_of_declareField houtcome with
      ⟨hout, kind, rfl, hkind, hfloating⟩ | ⟨hin, _, rfl, -⟩
    · exact Or.inr ⟨by simp [hout], _, rfl, MessageField.noted_omittedDoc hkind hfloating⟩
    · exact Or.inl ⟨by simp [hin], rfl⟩

/-- A presentation without derives and attributes. -/
def plainPresentation : Presentation where
  derives := []
  typeAttributes := []
  fieldAttributes := []
  mapType := .btree
  bytesType := .vec

/-- The test under which what a field is mapped as is skipped. -/
def FieldMapping.skip? (presentation : Presentation) : FieldMapping → Option String
  | .mapped value shape => (shape.expr presentation.mapType (value.expr presentation.bytesType)).emptyTest?
  | .omitted _ => none

/-- The parts into which the kinds divide the fields of the mixed message. -/
theorem exists_declared_mixedTypes :
    ∃ message declaration field, mixedTypes.message? "t.M" = some message ∧
      declareMessage mixedTypes (.ofRoot {} message) message = .ok declaration ∧
      (message.fields.filter fun field => field.isRepresented mixedTypes).map
        (fun field => (Naming.snake field.name, Naming.lowerCamel field.name,
          (mapField mixedTypes (.ofRoot {} message) field).toOption.bind (·.skip? plainPresentation))) =
        [("by_name", "byName", some "::std::collections::BTreeMap::is_empty"),
          ("data", "data", some "::std::vec::Vec::is_empty"),
          ("color", "color", some "::std::option::Option::is_none")] ∧
      (message.fields.filter fun field => !field.isRepresented mixedTypes) = [field] ∧
      field.name = "ratio" ∧ field.valueKind mixedTypes = .ok (.scalar .double) := by
  have hfound : ∃ message ∈ mixedTypes.message? "t.M",
      (declareMessage mixedTypes (.ofRoot {} message) message).toOption.isSome ∧
      (message.fields.filter fun field => field.isRepresented mixedTypes).map
        (fun field => (Naming.snake field.name, Naming.lowerCamel field.name,
          (mapField mixedTypes (.ofRoot {} message) field).toOption.bind (·.skip? plainPresentation))) =
        [("by_name", "byName", some "::std::collections::BTreeMap::is_empty"),
          ("data", "data", some "::std::vec::Vec::is_empty"),
          ("color", "color", some "::std::option::Option::is_none")] ∧
      (message.fields.filter fun field => !field.isRepresented mixedTypes).map
        (fun field => (field.name, (field.valueKind mixedTypes).toOption)) =
        [("ratio", some (.scalar .double))] := by
    decide +kernel
  obtain ⟨message, hmessage, hdeclared, hkept, hnoted⟩ := hfound
  obtain ⟨declaration, hdeclaration⟩ := Option.isSome_iff_exists.1 hdeclared
  obtain ⟨field, hfield, hratio⟩ := List.map_eq_singleton_iff.1 hnoted
  obtain ⟨hname, hkind⟩ := Prod.mk.inj hratio
  exact ⟨message, declaration, field, hmessage, toOption_eq_some_iff.1 hdeclaration, hkept, hfield, hname,
    toOption_eq_some_iff.1 hkind⟩

/-- The map, the bytes and the enum are fields of the struct, each with its key and the test under which it is
skipped, and the floating point field is a note. -/
theorem mixedTypes_written_or_noted :
    ∃ message declaration, mixedTypes.message? "t.M" = some message ∧
      declareMessage mixedTypes (.ofRoot {} message) message = .ok declaration ∧
      ∃ emitted, ((Declaration.message declaration).item plainPresentation).members = .fields emitted ∧
        emitted.map (fun written => (written.name, serialization? written.attributes)) = [
          ("by_name", some [⟨"rename", some "byName"⟩, ⟨"default", none⟩,
            ⟨"skip_serializing_if", some "::std::collections::BTreeMap::is_empty"⟩]),
          ("data", some [⟨"rename", some "data"⟩, ⟨"default", none⟩,
            ⟨"skip_serializing_if", some "::std::vec::Vec::is_empty"⟩]),
          ("color", some [⟨"rename", some "color"⟩, ⟨"default", none⟩,
            ⟨"skip_serializing_if", some "::std::option::Option::is_none"⟩])] ∧
        (leadingDocs ((Declaration.message declaration).item plainPresentation).attributes).map (·.docText?) =
          [some (" \x60" ++ message.fullName ++ "\x60"), some "", some " Omitted fields:",
            some " - \x60ratio\x60: floating point fields are not supported (double)."] := by
  obtain ⟨message, declaration, field, hmessage, hdeclaration, hkept, hfield, hname, hkind⟩ :=
    exists_declared_mixedTypes
  obtain ⟨-, emitted, notes, hmembers, hdocs, hfields, hnotes⟩ :=
    declareMessage_writes_or_notes_each_field plainPresentation hdeclaration
  refine ⟨message, declaration, hmessage, hdeclaration, emitted, hmembers, ?_, ?_⟩
  · -- What a kept field is written with is told by its names and its test.
    let expected : String × String × Option String → String × Option (List Argument) := fun (name, key, skip) =>
      (name, some ([⟨"rename", some key⟩, ⟨"default", none⟩] ++
        (skip.map fun test => ⟨"skip_serializing_if", some test⟩).toList))
    refine Eq.trans ?_ (congrArg (List.map expected) hkept)
    rw [List.map_map, ← List.forall₂_eq_eq_eq, List.forall₂_map_left_iff, List.forall₂_map_right_iff]
    refine (hfields.imp fun field written hwritten => ?_).flip
    obtain ⟨value, shape, skip, hwritten⟩ := hwritten
    show (written.name, serialization? written.attributes) = expected (_, _, _)
    rw [hwritten.serialization?_eq, hwritten.name_eq, hwritten.type_eq, hwritten.mapped]
    rfl
  · rw [hfield] at hnotes
    obtain ⟨note, rest, hnote, hrest, rfl⟩ := List.forall₂_cons_left_iff.1 hnotes
    obtain rfl := List.forall₂_nil_left_iff.1 hrest
    cases hnote with
    | float hfloat =>
        rw [hkind] at hfloat
        cases hfloat
    | double _ =>
        rw [hdocs, hname]
        rfl

end CustomResource
