import CustomResource.Proofs.Declaration.Accepted
import CustomResource.Proofs.Generation.Precedence

/-!
# Schemas with plain names

A name is plain if it is a letter of ASCII followed by letters, digits and underscores of ASCII.  Where all
names that a registry holds are plain, no run fails because of an identifier: those of the module, of the
envelope, of every type, field and enum constant are accepted as they are generated.

The causes of failure that are left, `GenerateError.Structural`, are about the schema itself, such as a
reference to nothing.
-/

namespace CustomResource

open Source Text

/-! ## Tables of plain names -/

/-- The names of a message, of its fields and in its package are plain. -/
structure MessageType.PlainlyNamed (message : MessageType) : Prop where
  package : ∀ segment ∈ packagePath message.package, isPlain segment.toList = true
  name : isPlain message.name.toList = true
  fields : ∀ field ∈ message.fields, isPlain field.name.toList = true

instance : DecidablePred MessageType.PlainlyNamed := fun message =>
  decidable_of_iff
    ((∀ segment ∈ packagePath message.package, isPlain segment.toList = true) ∧
      isPlain message.name.toList = true ∧ ∀ field ∈ message.fields, isPlain field.name.toList = true)
    ⟨fun h => ⟨h.1, h.2.1, h.2.2⟩, fun h => ⟨h.package, h.name, h.fields⟩⟩

/-- The names of an enum and of its values are plain. -/
structure EnumType.PlainlyNamed (enum : EnumType) : Prop where
  name : isPlain enum.name.toList = true
  values : ∀ value ∈ enum.declaration.values, isPlain (value.name.getD "").toList = true

instance : DecidablePred EnumType.PlainlyNamed := fun enum =>
  decidable_of_iff
    (isPlain enum.name.toList = true ∧
      ∀ value ∈ enum.declaration.values, isPlain (value.name.getD "").toList = true)
    ⟨fun h => ⟨h.1, h.2⟩, fun h => ⟨h.name, h.values⟩⟩

/-- All names that a table holds are plain. -/
structure TypeTable.PlainlyNamed (types : TypeTable) : Prop where
  message : ∀ message, types.Registered (.message message) → message.PlainlyNamed
  enum : ∀ enum, types.Registered (.enum enum) → enum.PlainlyNamed

theorem TypeTable.plainlyNamed_of_toList {types : TypeTable}
    (hmessages : ∀ entry ∈ types.messages.toList, MessageType.PlainlyNamed ⟨entry.1, entry.2⟩)
    (henums : ∀ entry ∈ types.enums.toList, EnumType.PlainlyNamed ⟨entry.1, entry.2⟩) :
    types.PlainlyNamed where
  message message hmessage :=
    hmessages (message.fullName, message.entry) (Std.ExtTreeMap.mem_toList_iff_getElem?_eq_some.2 hmessage)
  enum enum henum :=
    henums (enum.fullName, enum.declaration) (Std.ExtTreeMap.mem_toList_iff_getElem?_eq_some.2 henum)

/-- The names of the fields of a struct or of the constants of an enum, as they are generated. -/
def DeclaredType.memberNames : DeclaredType → List String
  | .message type => type.fields.map fun field => Naming.snake field.name
  | .enum type => type.declaration.values.map type.constant

/-! ## Accepted names -/

theorem declaredIdentifier_of_identifier {name : String} (h : identifier name = .ok name) :
    declaredIdentifier name = .ok name :=
  mapError_eq_ok_iff.2 h

theorem identifier_of_mem_memberNames {types : TypeTable} (hplain : types.PlainlyNamed)
    {type : DeclaredType} (htype : types.Registered type) :
    ∀ name ∈ type.memberNames, identifier name = .ok name := by
  intro name hname
  cases type with
  | message message =>
      obtain ⟨field, hfield, rfl⟩ := List.mem_map.1 hname
      exact Naming.identifier_snake ((hplain.message message htype).fields field hfield)
  | enum enum =>
      obtain ⟨value, hvalue, rfl⟩ := List.mem_map.1 hname
      have hplainEnum := hplain.enum enum htype
      exact (Naming.isTypeName_enumConstant hplainEnum.name (hplainEnum.values value hvalue)).identifier

section

variable {info : ResourceInfo} (hinfo : Naming.IsTypeName info.name)

include hinfo

/-- No suffix makes a reserved word of the name of the resource. -/
theorem isTypeName_of_mem_envelopeNames :
    ∀ name ∈ info.specName :: info.envelopeNames, Naming.IsTypeName name := by
  have hsuffixes : ∀ suffix ∈ ["Spec", "List", "Status", "Condition"],
      Naming.IsTypeName (info.name ++ suffix) := by
    have hsuffix : ∀ suffix ∈ ["Spec", "List", "Status", "Condition"],
        suffix.toList.all isWordPart = true ∧ ¬ suffix.toList <:+ "Self".toList := by
      decide
    exact fun suffix hmem => hinfo.append (hsuffix suffix hmem).1 (hsuffix suffix hmem).2
  intro name hmem
  simp only [ResourceInfo.specName, ResourceInfo.envelopeNames, ResourceInfo.listName,
    ResourceInfo.statusName, ResourceInfo.conditionName, List.mem_cons, List.not_mem_nil, or_false] at hmem
  rcases hmem with rfl | rfl | rfl | rfl | rfl
  · exact hsuffixes _ (by simp)
  · exact hinfo
  · exact hsuffixes _ (by simp)
  · exact hsuffixes _ (by simp)
  · exact hsuffixes _ (by simp)

theorem isTypeName_identifierOf {types : TypeTable} (hplain : types.PlainlyNamed) {type : DeclaredType}
    (htype : types.Registered type) : Naming.IsTypeName (info.identifierOf type) := by
  cases type with
  | message message =>
      rw [ResourceInfo.identifierOf, ResourceInfo.messageName]
      split
      · exact isTypeName_of_mem_envelopeNames hinfo _ List.mem_cons_self
      · exact Naming.isTypeName_upperCamel (hplain.message message htype).name
  | enum enum =>
      rw [ResourceInfo.identifierOf]
      exact Naming.isTypeName_enumType (hplain.enum enum htype).name

end

/-- The module is named by a segment of the package, or by the root where there is no package. -/
theorem identifier_moduleName {config : Config} {root : MessageType} (hroot : root.PlainlyNamed)
    (hconfig : config.package = none) :
    identifier (ResourceInfo.moduleName config root) = .ok (ResourceInfo.moduleName config root) := by
  unfold ResourceInfo.moduleName
  simp only [hconfig]
  refine Naming.identifier_snake ?_
  split
  · exact hroot.name
  · next hpackage =>
      refine hroot.package _ ?_
      rw [← QualifiedName.path_ofReference]
      exact QualifiedName.lastSegment_mem_path hpackage

/-! ## Causes of failure -/

/-- An error is about the schema, not about an identifier. -/
def GenerateError.Structural : GenerateError → Prop
  | .invalidIdentifier .. => False
  | _ => True

theorem failsOnlyWith_declaredIdentifier {p : GenerateError → Prop} {name : String}
    (h : identifier name = .ok name) : FailsOnlyWith p (declaredIdentifier name) := by
  rw [declaredIdentifier_of_identifier h]
  exact .ok name

namespace MessageField

theorem failsOnlyWith_typeName (field : MessageField) :
    FailsOnlyWith GenerateError.Structural field.typeName := by
  unfold typeName
  split
  · split
    · exact .error trivial
    · exact .ok _
  · exact .error trivial

theorem failsOnlyWith_kind (types : TypeTable) (field : MessageField) :
    FailsOnlyWith GenerateError.Structural (field.kind types) := by
  have hmessage : FailsOnlyWith GenerateError.Structural (field.referredMessage types) := by
    refine field.failsOnlyWith_typeName.bind fun name _ => ?_
    split
    · exact .ok _
    · exact .error trivial
  have henum : FailsOnlyWith GenerateError.Structural (field.referredEnum types) := by
    refine field.failsOnlyWith_typeName.bind fun name _ => ?_
    split
    · exact .ok _
    · exact .error trivial
  have hunlinked : FailsOnlyWith GenerateError.Structural (field.unlinkedKind types) := by
    refine field.failsOnlyWith_typeName.bind fun name _ => ?_
    split
    · exact .ok _
    · exact .ok _
    · exact .error trivial
  unfold kind
  split
  · exact hunlinked
  · split
    · exact .error trivial
    · exact .ok _
    · exact hmessage.map _
    · exact hmessage.map _
    · exact henum.map _

theorem failsOnlyWith_mapEntry? (types : TypeTable) (field : MessageField) :
    FailsOnlyWith GenerateError.Structural (field.mapEntry? types) := by
  have hentry : ∀ entry : MessageType, FailsOnlyWith GenerateError.Structural entry.mapEntry := by
    intro entry
    unfold MessageType.mapEntry
    split
    · split
      · exact .ok _
      · exact .error trivial
    · exact .error trivial
  unfold mapEntry?
  split
  · exact .ok _
  · refine (field.failsOnlyWith_kind types).bind fun kind _ => ?_
    split
    · split
      · exact (hentry _).map _
      · exact .ok _
    · exact .ok _

end MessageField

theorem failsOnlyWith_mapKey (types : TypeTable) (field : MessageField) (kind : Kind) :
    FailsOnlyWith GenerateError.Structural (mapKey types field kind) := by
  unfold mapKey
  split
  · split
    · exact .ok _
    · exact .error trivial
  · exact .error trivial

/-! ## Declarations of plain names -/

section

variable {types : TypeTable} (hplain : types.PlainlyNamed) {info : ResourceInfo}
  (hinfo : Naming.IsTypeName info.name)

include hplain hinfo

/-- A value refers to its type by an accepted identifier. -/
theorem failsOnlyWith_mappingOf {kind : Kind} (shape : Shape)
    (hkind : ∀ type, kind.declared? = some type → types.Registered type) :
    FailsOnlyWith GenerateError.Structural (mappingOf info kind shape) := by
  have hvalue : ∀ type, types.Registered type →
      FailsOnlyWith GenerateError.Structural (declaredValue info type) := by
    intro type htype
    have hname := isTypeName_identifierOf hinfo hplain htype
    exact (failsOnlyWith_declaredIdentifier hname.identifier).map _
  have hvalueType : FailsOnlyWith GenerateError.Structural (valueType info kind) := by
    cases hdeclared : kind.declared? with
    | some type =>
        rw [valueType_of_declared? hdeclared]
        exact (hvalue type (hkind type hdeclared)).map some
    | none =>
        cases kind with
        | scalar kind => cases kind <;> exact .ok _
        | _ => cases hdeclared
  refine hvalueType.bind fun value _ => ?_
  split
  · exact .ok _
  · exact .ok _

theorem failsOnlyWith_mapField (field : MessageField) :
    FailsOnlyWith GenerateError.Structural (mapField types info field) := by
  refine (field.failsOnlyWith_mapEntry? types).bind fun entry _ => ?_
  cases entry with
  | none =>
      refine (field.failsOnlyWith_kind types).bind fun kind hkind => ?_
      exact failsOnlyWith_mappingOf hplain hinfo _ fun type => MessageField.registered_of_kind hkind
  | some entry =>
      refine (entry.key.failsOnlyWith_kind types).bind fun keyKind _ => ?_
      refine (failsOnlyWith_mapKey types field keyKind).bind fun key _ => ?_
      refine (entry.value.failsOnlyWith_kind types).bind fun kind hkind => ?_
      exact failsOnlyWith_mappingOf hplain hinfo _ fun type => MessageField.registered_of_kind hkind

theorem failsOnlyWith_declareField {field : MessageField}
    (hfield : identifier (Naming.snake field.name) = .ok (Naming.snake field.name)) :
    FailsOnlyWith GenerateError.Structural (declareField types info field) := by
  refine (failsOnlyWith_mapField hplain hinfo field).bind fun mapping _ => ?_
  cases mapping with
  | omitted kind => exact .ok _
  | mapped value shape => exact (failsOnlyWith_declaredIdentifier hfield).bind fun _ _ => .ok _

omit hplain hinfo in
/-- Constants are declared one by one; which ones come before matters for conflicts only. -/
theorem failsOnlyWith_declareVariants (enum : EnumType) :
    ∀ values : List Descriptor.EnumValue,
      (∀ value ∈ values, identifier (enum.constant value) = .ok (enum.constant value)) →
      ∀ earlier, FailsOnlyWith GenerateError.Structural (declareVariants enum earlier values)
  | [], _, _ => .ok []
  | value :: rest, h, earlier => by
      have hrest := failsOnlyWith_declareVariants enum rest fun other hother =>
        h other (List.mem_cons_of_mem _ hother)
      rw [declareVariants]
      split
      · exact .error trivial
      · refine (failsOnlyWith_declaredIdentifier (h value List.mem_cons_self)).bind fun _ _ => ?_
        exact (hrest _).bind fun _ _ => .ok _

/-- A registered type is declared, or fails for a reason that is not an identifier. -/
theorem failsOnlyWith_declare {type : DeclaredType} (htype : types.Registered type) :
    FailsOnlyWith GenerateError.Structural (declare types info type) := by
  have hidentifier := (isTypeName_identifierOf hinfo hplain htype).identifier
  have hmembers := identifier_of_mem_memberNames hplain htype
  cases type with
  | message message =>
      have hfields : FailsOnlyWith GenerateError.Structural
          (message.fields.mapM (declareField types info)) := by
        refine .mapM fun field hfield => failsOnlyWith_declareField hplain hinfo ?_
        exact hmembers _ (List.mem_map_of_mem hfield)
      refine .map (hfields.bind fun _ _ => ?_) _
      exact (failsOnlyWith_declaredIdentifier hidentifier).bind fun _ _ => .ok _
  | enum enum =>
      refine .map ?_ _
      unfold declareEnum
      split
      · exact .error trivial
      · have hconstants : ∀ value ∈ enum.declaration.values,
            identifier (enum.constant value) = .ok (enum.constant value) :=
          fun value hvalue => hmembers _ (List.mem_map_of_mem hvalue)
        have hvariants := failsOnlyWith_declareVariants enum enum.declaration.values hconstants []
        refine hvariants.bind fun _ _ => ?_
        exact (failsOnlyWith_declaredIdentifier hidentifier).bind fun _ _ => .ok _

end

/-! ## Runs -/

/-- A run fails because of the schema or the configuration, not because of an identifier. -/
def Error.Structural : Error → Prop
  | .invalidPackage .. => False
  | .generation _ cause => cause.Structural
  | _ => True

/-- Generate from a registry whose names are all plain, with no name configured for the module.  No run fails
because the module or anything else has no identifier.  The names of the module, of the envelope and its
spec, of every type and of all fields and constants are accepted as they are generated. -/
theorem generate_accepts_plain_names {types : TypeTable} (hplain : types.PlainlyNamed) {config : Config}
    (hconfig : config.package = none) (typeName : String) :
    (∀ package cause, generate config types typeName ≠ .error (.invalidPackage package cause)) ∧
    (∀ type name cause,
      generate config types typeName ≠ .error (.generation type (.invalidIdentifier name cause))) ∧
    ∀ root, types.message? typeName = some root →
      let info := ResourceInfo.ofRoot config root
      identifier info.package = .ok info.package ∧
      (∀ name ∈ info.specName :: info.envelopeNames, identifier name = .ok name) ∧
      ∀ type, types.Registered type →
        ∀ name ∈ info.identifierOf type :: type.memberNames, identifier name = .ok name := by
  have hmessage : ∀ root, types.message? typeName = some root → root.PlainlyNamed := fun root hroot =>
    hplain.message root (TypeTable.registered_of_message? hroot)
  have hinfo : ∀ root, types.message? typeName = some root →
      Naming.IsTypeName (ResourceInfo.ofRoot config root).name := by
    intro root hroot
    simp only [ResourceInfo.ofRoot]
    exact Naming.isTypeName_upperCamel (hmessage root hroot).name
  have hstructural : FailsOnlyWith Error.Structural (generate config types typeName) := by
    cases hroot : types.message? typeName with
    | none =>
        rw [generate, generatePlan_of_message?_eq_none hroot]
        exact .error trivial
    | some root =>
        obtain ⟨envelope, henvelope⟩ := exists_envelope_iff.2 fun name hname =>
          ⟨name, (isTypeName_of_mem_envelopeNames (hinfo root hroot) name hname).identifier⟩
        refine failsOnlyWith_generate hroot (fun _ => trivial) ?_ ?_ ?_ (fun _ => trivial)
        · intro info cause hcause
          have hmodule : identifier info.package = .ok info.package :=
            identifier_moduleName (hmessage root hroot) hconfig
          rw [hmodule] at hcause
          cases hcause
        · exact fun type cause htype hcause =>
            failsOnlyWith_declare hplain (hinfo root hroot) htype cause hcause
        · intro info cause hcause
          rw [henvelope] at hcause
          cases hcause
  refine ⟨?_, ?_, ?_⟩
  · exact fun package cause herror => hstructural _ herror
  · exact fun type name cause herror => hstructural _ herror
  · intro root hroot info
    refine ⟨identifier_moduleName (hmessage root hroot) hconfig, ?_, ?_⟩
    · exact fun name hname => (isTypeName_of_mem_envelopeNames (hinfo root hroot) name hname).identifier
    · intro type htype name hname
      rcases List.mem_cons.1 hname with rfl | hname
      · exact (isTypeName_identifierOf (hinfo root hroot) hplain htype).identifier
      · exact identifier_of_mem_memberNames hplain htype name hname

/-- A message and an enum whose names are reserved words, and those of their members and package too. -/
def reservedNamesFile : Descriptor.File where
  package := some "match.super"
  messages := [
    { name := some "self"
      fields := [
        { name := some "type", number := some 1, type := some 9 },
        { name := some "Self", number := some 2, type := some 14, typeName := some ".match.super.Self" }] }]
  enums := [{ name := some "Self", values := [{ name := some "SELF", number := some 0 }] }]

/-- The types with reserved names. -/
def reservedNamesTypes : TypeTable :=
  (Registry.ofFiles [reservedNamesFile]).types

theorem reservedNamesTypes_plainlyNamed : reservedNamesTypes.PlainlyNamed :=
  TypeTable.plainlyNamed_of_toList (by decide +kernel) (by decide +kernel)

/-- Reserved words are accepted with the marks that they get. -/
theorem reservedNamesTypes_names_accepted :
    reservedNamesTypes.PlainlyNamed ∧ ({} : Config).package = none ∧
      (∀ package cause, generate {} reservedNamesTypes "match.super.self" ≠
        .error (.invalidPackage package cause)) ∧
      (∀ type name cause, generate {} reservedNamesTypes "match.super.self" ≠
        .error (.generation type (.invalidIdentifier name cause))) ∧
      ∃ root, reservedNamesTypes.message? "match.super.self" = some root ∧
        ∀ name ∈ ["super_", "Self_", "Self_Spec", "r#type", "self_"], identifier name = .ok name := by
  have hconfig : ({} : Config).package = none := rfl
  obtain ⟨hpackage, hgeneration, hnames⟩ :=
    generate_accepts_plain_names reservedNamesTypes_plainlyNamed hconfig "match.super.self"
  refine ⟨reservedNamesTypes_plainlyNamed, hconfig, hpackage, hgeneration, ?_⟩
  have hroot : (reservedNamesTypes.message? "match.super.self").map (fun root =>
      ((ResourceInfo.ofRoot {} root).package, (ResourceInfo.ofRoot {} root).name,
        (ResourceInfo.ofRoot {} root).identifierOf (.message root), (DeclaredType.message root).memberNames)) =
        some ("super_", "Self_", "Self_Spec", ["r#type", "self_"]) := by
    decide +kernel
  obtain ⟨root, hfound, hsame⟩ := Option.map_eq_some_iff.1 hroot
  obtain ⟨hmodule, henvelope, htypes⟩ := hnames root hfound
  have hregistered := TypeTable.registered_of_message? hfound
  have hmembers := htypes _ hregistered
  simp only [Prod.mk.injEq] at hsame
  obtain ⟨hpackageName, hname, hspec, hmemberNames⟩ := hsame
  refine ⟨root, hfound, ?_⟩
  rw [hspec, hmemberNames] at hmembers
  rw [hpackageName] at hmodule
  have hresource := henvelope (ResourceInfo.ofRoot {} root).name (by simp [ResourceInfo.envelopeNames])
  rw [hname] at hresource
  exact List.forall_mem_cons.2 ⟨hmodule, List.forall_mem_cons.2 ⟨hresource, hmembers⟩⟩

end CustomResource
