import CustomResource.Proofs.Configuration
import CustomResource.Proofs.Generation.Plan
import CustomResource.Proofs.Source.Arguments

/-!
# Presentation does not show in the structure

A configuration chooses names and presentation.  Runs that agree on the names, the package and the root of
imports, agree on everything but the presentation: either both fail, with one error, or both write modules of
one structure.  `Module.SameStructure` says what the presentation may change: derives and configured
attributes, the tests under which fields are skipped, the collection of maps and the representation of bytes.
-/

namespace CustomResource

open Source

/-! ## Structure -/

/-- Whether an attribute is a line of documentation. -/
def Source.Attribute.isDoc (attr : Attribute) : Bool :=
  attr.path = ⟨false, ["doc"]⟩

/-- The documentation at the head of attributes.  What is configured stands behind other attributes. -/
def leadingDocs (attributes : List Attribute) : List Attribute :=
  attributes.takeWhile (·.isDoc)

/-- The first attribute that is no documentation. -/
def firstPlain? (attributes : List Attribute) : Option Attribute :=
  (attributes.dropWhile (·.isDoc)).head?

/-- Two types that differ at most in the collections of maps and in the representation of bytes, each as its
configuration has them. -/
inductive SameButCollections (first second : Config) : TypeExpr → TypeExpr → Prop
  | same (type : TypeExpr) : SameButCollections first second type type
  | bytes : SameButCollections first second first.bytesType.type second.bytesType.type
  | argument (path : Path) {a b : TypeExpr} (h : SameButCollections first second a b) :
      SameButCollections first second (.path path [a]) (.path path [b])
  | map (key : TypeExpr) {a b : TypeExpr} (h : SameButCollections first second a b) :
      SameButCollections first second (.path first.mapType.path [key, a])
        (.path second.mapType.path [key, b])

/-- Two fields with the same identifier, documentation and serialized name. -/
structure Source.StructField.SameStructure (first second : Config) (a b : StructField) : Prop where
  name_eq : a.name = b.name
  docs_eq : leadingDocs a.attributes = leadingDocs b.attributes
  key_eq : ∃ key serdeA serdeB restA restB,
    firstPlain? a.attributes = some serdeA ∧ firstPlain? b.attributes = some serdeB ∧
      serdeA.arguments? "serde" = some (⟨"rename", some key⟩ :: restA) ∧
      serdeB.arguments? "serde" = some (⟨"rename", some key⟩ :: restB)
  type_same : SameButCollections first second a.type b.type

/-- Fields of one structure, or the same variants with all they carry, the mark of the default included. -/
inductive Source.Members.SameStructure (first second : Config) : Members → Members → Prop
  | fields {a b : List StructField} (h : List.Forall₂ (StructField.SameStructure first second) a b) :
      Members.SameStructure first second (.fields a) (.fields b)
  | variants (list : List Variant) : Members.SameStructure first second (.variants list) (.variants list)

/-- Two declarations under one identifier, with the same documentation and members of one structure.  The
documentation of a struct lists the fields that are left out. -/
structure Source.Item.SameStructure (first second : Config) (a b : Item) : Prop where
  name_eq : a.name = b.name
  docs_eq : leadingDocs a.attributes = leadingDocs b.attributes
  members_same : a.members.SameStructure first second b.members

/-- Two modules with the same name, documentation and import, the same envelope, and declarations of one
structure behind it. -/
structure Source.Module.SameStructure (first second : Config) (a b : Module) : Prop where
  name_eq : a.name = b.name
  docs_eq : a.attributes = b.attributes
  imported_eq : a.imported = b.imported ∧ a.importedAs = b.importedAs
  items_same : ∃ (envelope : Envelope) (info : ResourceInfo) (restA restB : List Item),
    a.items = envelope.items info ++ restA ∧ b.items = envelope.items info ++ restB ∧
      List.Forall₂ (Item.SameStructure first second) restA restB

/-! ## Written declarations -/

/-- The presentation shows the collections that a configuration chooses. -/
structure Presentation.Shows (presentation : Presentation) (config : Config) : Prop where
  mapType_eq : presentation.mapType = config.mapType
  bytesType_eq : presentation.bytesType = config.bytesType

theorem isDoc_doc (text : String) : (Attribute.doc text).isDoc = true := by
  simp [Attribute.isDoc, Attribute.doc]

theorem isDoc_call {name : String} (h : name ≠ "doc") (tokens : List Token) :
    (Attribute.call name tokens).isDoc = false := by
  simp [Attribute.isDoc, Attribute.call, h]

/-- Documentation ends where another attribute stands. -/
theorem leadingDocs_eq (docs : List String) {attr : Attribute} (h : attr.isDoc = false)
    (rest : List Attribute) :
    leadingDocs (docs.map .doc ++ [attr] ++ rest) = docs.map .doc := by
  induction docs with
  | nil => simp [leadingDocs, h]
  | cons doc docs ih => simpa [leadingDocs, isDoc_doc] using ih

theorem firstPlain?_eq (docs : List String) {attr : Attribute} (h : attr.isDoc = false)
    (rest : List Attribute) :
    firstPlain? (docs.map .doc ++ [attr] ++ rest) = some attr := by
  induction docs with
  | nil => simp [firstPlain?, h]
  | cons doc docs ih => simpa [firstPlain?, isDoc_doc] using ih

section Declarations

variable {first second : Config} {presentation other : Presentation}

/-- A value is written in two ways if it is bytes, and in one way otherwise. -/
theorem ValueType.sameButCollections_expr (value : ValueType) :
    SameButCollections first second (value.expr first.bytesType) (value.expr second.bytesType) := by
  cases value with
  | scalar type => exact .same _
  | bytes => exact .bytes
  | declared type identifier => exact .same _

/-- A shape adds no difference but that of the collection of maps. -/
theorem Shape.sameButCollections_expr (shape : Shape) {a b : TypeExpr}
    (h : SameButCollections first second a b) :
    SameButCollections first second (shape.expr first.mapType a) (shape.expr second.mapType b) := by
  cases shape with
  | plain => exact h
  | optional => exact .argument _ h
  | boxed => exact .argument _ (.argument _ h)
  | list => exact .argument _ h
  | group => exact .argument _ h
  | map key => exact .map _ h

theorem MappedField.sameStructure (hfirst : presentation.Shows first) (hsecond : other.Shows second)
    (field : MappedField) :
    StructField.SameStructure first second (field.structField presentation) (field.structField other) := by
  have hserde : ∀ arguments, (serdeAttribute arguments).isDoc = false :=
    fun _ => isDoc_call (by decide) _
  constructor
  · rfl
  · rw [MappedField.structField, MappedField.structField, leadingDocs_eq _ (hserde _),
      leadingDocs_eq _ (hserde _)]
  · exact ⟨field.key, _, _, _, _, firstPlain?_eq _ (hserde _) _, firstPlain?_eq _ (hserde _) _,
      field.arguments?_serde presentation, field.arguments?_serde other⟩
  · simp only [MappedField.structField, MappedField.typeExpr, hfirst.mapType_eq, hfirst.bytesType_eq,
      hsecond.mapType_eq, hsecond.bytesType_eq]
    exact field.shape.sameButCollections_expr field.value.sameButCollections_expr

theorem Declaration.sameStructure (hfirst : presentation.Shows first) (hsecond : other.Shows second)
    (declaration : Declaration) :
    Item.SameStructure first second (declaration.item presentation) (declaration.item other) := by
  have hderive : ∀ names derives, (deriveAttribute names derives).isDoc = false :=
    fun _ _ => isDoc_call (by decide) _
  cases declaration with
  | message declaration =>
      constructor
      · rfl
      · simp only [Declaration.item, MessageDeclaration.item, leadingDocs_eq _ (hderive _ _)]
      · refine .fields (List.forall₂_map_left_iff.2 (List.forall₂_map_right_iff.2 ?_))
        exact List.forall₂_same.2 fun field _ => field.sameStructure hfirst hsecond
  | enum declaration =>
      constructor
      · rfl
      · exact (leadingDocs_eq [_] (hderive _ _) _).trans (leadingDocs_eq [_] (hderive _ _) _).symm
      · exact .variants _

/-- One plan makes modules of one structure under all presentations. -/
theorem ResourcePlan.sameStructure (hfirst : presentation.Shows first) (hsecond : other.Shows second)
    (plan : ResourcePlan) :
    Module.SameStructure first second (plan.source presentation) (plan.source other) := by
  refine ⟨rfl, rfl, ⟨rfl, rfl⟩, plan.envelope, plan.info, _, _, rfl, rfl, ?_⟩
  rw [List.forall₂_map_left_iff, List.forall₂_map_right_iff]
  exact List.forall₂_same.2 fun planned _ => planned.output.sameStructure hfirst hsecond

end Declarations

/-! ## Two runs -/

/-- The module that a run writes. -/
def generateModule (config : Config) (types : TypeTable) (typeName : String) : Except Error Module :=
  (generatePlan config types typeName).map fun (plan, presentation) => plan.source presentation

/-- What is generated is the text of the module, laid out as configured. -/
theorem generate_eq_map_generateModule (config : Config) (types : TypeTable) (typeName : String) :
    generate config types typeName =
      (generateModule config types typeName).map (fileText config.format) := by
  rw [generate, generateModule]
  cases generatePlan config types typeName <;> rfl

/-- All derives and attributes of a configuration can be read. -/
def Config.Readable (config : Config) : Prop :=
  (∀ text ∈ config.derives, (typePath? text).isSome) ∧
    ∀ configured ∈ config.typeAttributes ++ config.fieldAttributes, (attributes? configured.2).isSome

/-- A configuration whose texts can be read has a presentation, with the collections it chooses. -/
theorem Config.Readable.exists_presentation {config : Config} (h : config.Readable) :
    ∃ presentation, config.presentation = .ok presentation ∧ presentation.Shows config := by
  have hnone : failure? config.presentation = none := by
    rw [failure?_presentation, unreadable?_eq_none_iff.2 h]
    rfl
  obtain ⟨presentation, hpresentation⟩ := failure?_eq_none_iff.1 hnone
  refine ⟨presentation, hpresentation, ?_⟩
  simp only [Config.presentation, bind_eq_ok_iff, pure_eq_ok_iff] at hpresentation
  obtain ⟨derives, _, typeAttributes, _, fieldAttributes, _, rfl⟩ := hpresentation
  exact ⟨rfl, rfl⟩

/-- The names of a resource come from the package and the root of imports alone. -/
theorem ofRoot_eq_ofRoot {first second : Config} (hpackage : first.package = second.package)
    (himport : first.importRoot = second.importRoot) (root : MessageType) :
    ResourceInfo.ofRoot first root = ResourceInfo.ofRoot second root := by
  simp only [ResourceInfo.ofRoot, ResourceInfo.moduleName, hpackage, himport]

/-- Generate from any registry under two configurations that agree on the package and on the root of imports
and whose texts can be read.  Either both runs fail with the same error, or both write modules of one
structure, each laid out as its configuration says. -/
theorem generate_sameStructure {first second : Config} (types : TypeTable) (typeName : String)
    (hpackage : first.package = second.package) (himport : first.importRoot = second.importRoot)
    (hfirst : first.Readable) (hsecond : second.Readable) :
    (∃ error, generate first types typeName = .error error ∧
      generate second types typeName = .error error) ∨
    ∃ a b, generateModule first types typeName = .ok a ∧ generateModule second types typeName = .ok b ∧
      generate first types typeName = .ok (fileText first.format a) ∧
      generate second types typeName = .ok (fileText second.format b) ∧
      Module.SameStructure first second a b := by
  obtain ⟨presentation, hpresentation, hshows⟩ := hfirst.exists_presentation
  obtain ⟨other, hother, hotherShows⟩ := hsecond.exists_presentation
  -- Either both plans fail alike, or there is one plan for both.
  have hplans : (∃ error, generatePlan first types typeName = .error error ∧
      generatePlan second types typeName = .error error) ∨
      ∃ plan, generatePlan first types typeName = .ok (plan, presentation) ∧
        generatePlan second types typeName = .ok (plan, other) := by
    cases hroot : types.message? typeName with
    | none =>
        exact Or.inl ⟨.notFound typeName, generatePlan_of_message?_eq_none hroot,
          generatePlan_of_message?_eq_none hroot⟩
    | some root =>
        rw [generatePlan_of_message? hroot, generatePlan_of_message? hroot, hpresentation, hother,
          ofRoot_eq_ofRoot hpackage himport root]
        simp only [bind, Except.bind]
        generalize (identifier (ResourceInfo.ofRoot second root).package).mapError
          (Error.invalidPackage (ResourceInfo.ofRoot second root).package) = moduleName
        cases moduleName with
        | error error => exact Or.inl ⟨error, rfl, rfl⟩
        | ok moduleName =>
            generalize planResource types (ResourceInfo.ofRoot second root) root _ = planned
            cases planned with
            | error error => exact Or.inl ⟨error, rfl, rfl⟩
            | ok planned => exact Or.inr ⟨_, rfl, rfl⟩
  rcases hplans with ⟨error, hplan, hotherPlan⟩ | ⟨plan, hplan, hotherPlan⟩
  · left
    refine ⟨error, ?_, ?_⟩
    · rw [generate, hplan]
      rfl
    · rw [generate, hotherPlan]
      rfl
  · right
    have hmodule : generateModule first types typeName = .ok (plan.source presentation) := by
      rw [generateModule, hplan]
      rfl
    have hotherModule : generateModule second types typeName = .ok (plan.source other) := by
      rw [generateModule, hotherPlan]
      rfl
    refine ⟨_, _, hmodule, hotherModule, ?_, ?_, plan.sameStructure hshows hotherShows⟩
    · rw [generate_eq_map_generateModule, hmodule]
      rfl
    · rw [generate_eq_map_generateModule, hotherModule]
      rfl

/-- A message with a map of bytes and fields of every other representation that a presentation changes or
keeps. -/
def mixedFile : Descriptor.File where
  package := some "t"
  messages := [
    { name := some "M"
      fields := [
        { name := some "by_name", number := some 1, label := some 3, type := some 11
          typeName := some ".t.M.ByNameEntry" },
        { name := some "data", number := some 2, type := some 12 },
        { name := some "ratio", number := some 3, type := some 1 },
        { name := some "color", number := some 4, type := some 14, typeName := some ".t.E" }]
      messages := [
        { name := some "ByNameEntry"
          fields := [
            { name := some "key", number := some 1, type := some 9 },
            { name := some "value", number := some 2, type := some 12 }]
          options := some { mapEntry := some true } }] }]
  enums := [{ name := some "E", values := [{ name := some "X", number := some 0 }] }]

/-- The types of the mixed message. -/
def mixedTypes : TypeTable :=
  (Registry.ofFiles [mixedFile]).types

/-- A configuration that changes every part of the presentation. -/
def decoratedConfig : Config where
  derives := ["Eq"]
  typeAttributes := [(".", "#[doc = \"a type\"]")]
  fieldAttributes := [(".t.M", "#[serde(skip)]")]
  mapType := .hash
  bytesType := .byteString
  format := false

theorem decoratedConfig_readable : decoratedConfig.Readable :=
  ⟨by decide +kernel, by decide +kernel⟩

/-- A decorated module has the structure of a plain one. -/
theorem mixedTypes_sameStructure :
    decoratedConfig.Readable ∧
      ∃ a b, generateModule {} mixedTypes "t.M" = .ok a ∧
        generateModule decoratedConfig mixedTypes "t.M" = .ok b ∧
        Module.SameStructure {} decoratedConfig a b := by
  have hplain : Config.Readable {} := ⟨by simp, by simp⟩
  obtain ⟨⟨plan, presentation⟩, hplan, -⟩ :
      ∃ result, generatePlan {} mixedTypes "t.M" = .ok result ∧
        result.1.declarations.map (·.output.identifier) = ["MSpec", "EType"] :=
    exists_of_map_toOption (by decide +kernel)
  obtain ⟨text, htext⟩ : ∃ text, generate {} mixedTypes "t.M" = .ok text :=
    ⟨_, generate_eq_ok_iff.2 ⟨plan, presentation, hplan, rfl⟩⟩
  have hpackage : ({} : Config).package = decoratedConfig.package := rfl
  have himport : ({} : Config).importRoot = decoratedConfig.importRoot := rfl
  refine ⟨decoratedConfig_readable, ?_⟩
  rcases generate_sameStructure mixedTypes "t.M" hpackage himport hplain decoratedConfig_readable with
    ⟨error, herror, -⟩ | ⟨a, b, ha, hb, -, -, hsame⟩
  · rw [htext] at herror
    cases herror
  · exact ⟨a, b, ha, hb, hsame⟩

end CustomResource
