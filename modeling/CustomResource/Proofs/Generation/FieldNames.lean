import CustomResource.Proofs.Generation.Plan
import CustomResource.Proofs.Source.Arguments

/-!
# Names of emitted fields

A struct has one field for each field of its message but the floating point ones.  Its identifiers and the
keys of its serialized fields come from two conversions of case, neither of which keeps all names apart, and
nothing compares the results.  Two fields share their identifier exactly if their names split into the same
words up to case.  They share their key exactly if the words in camel case make the same text, and this is so
for ASCII names if the words are the same up to case after words that begin with digits are joined to the
words before them.
-/

namespace CustomResource

open Descriptor Source

/-! ## Emitted fields -/

/-- Whether the values of a field have a type.  Those of floating point kinds have none. -/
def MessageField.isRepresented (types : TypeTable) (field : MessageField) : Bool :=
  match field.valueKind types with
  | .ok (.scalar .float) => false
  | .ok (.scalar .double) => false
  | _ => true

/-- The key that a field of a struct is serialized under, as the first thing that its attributes say of
serialization. -/
def StructFieldHasKey (field : StructField) (key : String) : Prop :=
  ∃ rest, serialization? field.attributes = some (⟨"rename", some key⟩ :: rest)

theorem valueType_eq_ok_none_iff {info : ResourceInfo} {kind : Kind} :
    valueType info kind = .ok none ↔ kind = .scalar .float ∨ kind = .scalar .double := by
  constructor
  · intro h
    have hdeclared := declared?_of_valueType_eq_none h
    cases kind with
    | scalar kind => cases kind <;> simp [valueType, ScalarKind.plainType?] at h ⊢
    | message type => cases hdeclared
    | group type => cases hdeclared
    | enum type => cases hdeclared
  · rintro (rfl | rfl)
    · rfl
    · rfl

/-- A field is emitted if its values have a type, under the names that its own name gives. -/
theorem mapped?_of_declareField {types : TypeTable} {info : ResourceInfo} {field : MessageField}
    {outcome : FieldOutcome} (h : declareField types info field = .ok outcome) :
    (outcome.mapped?.map fun mapped => (mapped.field, mapped.identifier, mapped.key)) =
      if field.isRepresented types then
        some (field, Naming.snake field.name, Naming.lowerCamel field.name)
      else none := by
  obtain ⟨kind, hkind, houtcome⟩ := exists_of_declareField h
  rcases houtcome with ⟨hnone, rfl⟩ | ⟨value, shape, identifier, hvalue, hidentifier, rfl⟩
  · have hskip : field.isRepresented types = false := by
      rw [MessageField.isRepresented, hkind]
      rcases valueType_eq_ok_none_iff.1 hnone with rfl | rfl
      · rfl
      · rfl
    rw [hskip, if_neg Bool.false_ne_true]
    rfl
  · have hkeep : field.isRepresented types = true := by
      rw [MessageField.isRepresented, hkind]
      split
      · next hfloat =>
          cases hfloat
          cases hvalue
      · next hdouble =>
          cases hdouble
          cases hvalue
      · rfl
    rw [hkeep, if_pos rfl,
      eq_of_declaredIdentifier (Naming.isIdentifierText_snake field.name) hidentifier]
    simp only [FieldOutcome.mapped?, Option.map_some]

/-- The fields of a declared message are emitted in order. -/
theorem emitted_of_declare {types : TypeTable} {info : ResourceInfo} {type : DeclaredType}
    {declaration : MessageDeclaration} (h : declare types info type = .ok (.message declaration)) :
    ((declaration.fields.filterMap (·.mapped?)).map
        fun mapped => (mapped.field, mapped.identifier, mapped.key)) =
      (declaration.type.fields.filter (·.isRepresented types)).map
        fun field => (field, Naming.snake field.name, Naming.lowerCamel field.name) := by
  rw [List.map_filterMap]
  have hfields := filterMap_eq_of_mapM (fun _ _ hfield => mapped?_of_declareField hfield)
    (mapM_declareField h)
  rw [hfields, ← List.filterMap_eq_map, List.filterMap_filter]
  rfl

/-! ## Distinct names -/

/-- Maps that tell the same members apart have distinct images alike. -/
theorem nodup_map_iff_nodup_map {α β γ : Type} {f : α → β} {g : α → γ} {list : List α}
    (h : ∀ a ∈ list, ∀ b ∈ list, f a = f b ↔ g a = g b) :
    (list.map f).Nodup ↔ (list.map g).Nodup := by
  rw [List.Nodup, List.Nodup, List.pairwise_map, List.pairwise_map]
  exact List.Pairwise.iff_of_mem fun ha hb => not_congr (h _ ha _ hb)

/-- An emitted field is serialized under its key. -/
theorem structFieldHasKey_structField (presentation : Presentation) (field : MappedField) :
    StructFieldHasKey (field.structField presentation) field.key :=
  ⟨_, serialization?_eq (field.arguments?_serde presentation) field.docs _⟩

/-- The fields of a struct are those of the message that are emitted. -/
theorem members_item (presentation : Presentation) (declaration : MessageDeclaration) :
    ((Declaration.message declaration).item presentation).members =
      .fields ((declaration.fields.filterMap (·.mapped?)).map (·.structField presentation)) := rfl

/-- The identifiers of emitted fields. -/
theorem identifiers_of_declare {types : TypeTable} {info : ResourceInfo} {type : DeclaredType}
    {declaration : MessageDeclaration} (h : declare types info type = .ok (.message declaration)) :
    (declaration.fields.filterMap (·.mapped?)).map (·.identifier) =
      (declaration.type.fields.filter (·.isRepresented types)).map
        fun field => Naming.snake field.name := by
  have hidentifiers := congrArg (List.map fun names => names.2.1) (emitted_of_declare h)
  simpa only [List.map_map, Function.comp_def] using hidentifiers

/-- The keys of emitted fields, field by field. -/
theorem keys_of_declare {types : TypeTable} {info : ResourceInfo} {type : DeclaredType}
    {declaration : MessageDeclaration} (h : declare types info type = .ok (.message declaration)) :
    List.Forall₂ (fun field mapped => mapped.key = Naming.lowerCamel field.name)
      (declaration.type.fields.filter (·.isRepresented types))
      (declaration.fields.filterMap (·.mapped?)) := by
  have hkeys := congrArg (List.map fun names => names.2.2) (emitted_of_declare h)
  simp only [List.map_map, Function.comp_def] at hkeys
  rw [← List.forall₂_eq_eq_eq, List.forall₂_map_left_iff, List.forall₂_map_right_iff] at hkeys
  exact hkeys.flip

/-- Generate from any registry, and look at the struct of any message.  It has a field for each field of the
message that is no floating point one, in order, with an identifier and a key that the name gives.  The
identifiers are distinct exactly if no two names split into the same words up to case.  The keys are distinct
exactly if no two names make the same text of their camel-case words, which for ASCII names is to say that no
two have the same words up to case where words that begin with digits are joined to the words before them. -/
theorem generate_field_names_nodup_iff {config : Config} {types : TypeTable} {typeName text : String}
    (h : generate config types typeName = .ok text) :
    ∃ plan presentation, generatePlan config types typeName = .ok (plan, presentation) ∧
      text = fileText config.format (plan.source presentation) ∧
      ∀ planned ∈ plan.declarations, ∀ declaration, planned.output = .message declaration →
        let kept := declaration.type.fields.filter (·.isRepresented types)
        ∃ emitted, (planned.output.item presentation).members = .fields emitted ∧
          emitted.map (·.name) = kept.map (fun field => Naming.snake field.name) ∧
          List.Forall₂ (fun field structField =>
            StructFieldHasKey structField (Naming.lowerCamel field.name)) kept emitted ∧
          ((emitted.map (·.name)).Nodup ↔
            (kept.map fun field => Text.lowerWords field.name.toList).Nodup) ∧
          ((kept.map fun field => Naming.lowerCamel field.name).Nodup ↔
            (kept.map fun field => (Text.camelWords field.name.toList).flatten).Nodup) ∧
          ((∀ field ∈ kept, Text.isAscii field.name.toList = true) →
            ((kept.map fun field => Naming.lowerCamel field.name).Nodup ↔
              (kept.map fun field => Text.joinDigits (Text.lowerWords field.name.toList)).Nodup)) := by
  obtain ⟨plan, presentation, hplan, htext⟩ := generate_eq_ok_iff.1 h
  obtain ⟨root, -, hfor⟩ := exists_for_of_generatePlan hplan
  refine ⟨plan, presentation, hplan, htext, ?_⟩
  intro planned hplanned declaration hdeclaration kept
  have hdeclare := (hfor.declares planned hplanned).2
  rw [hdeclaration] at hdeclare
  have hnames := identifiers_of_declare hdeclare
  have hemitted : ((declaration.fields.filterMap (·.mapped?)).map (·.structField presentation)).map
      (·.name) = kept.map fun field => Naming.snake field.name := by
    rw [List.map_map, ← hnames]
    rfl
  refine ⟨_, ?_, hemitted, ?_, ?_, ?_, ?_⟩
  · rw [hdeclaration]
    exact members_item presentation declaration
  · rw [List.forall₂_map_right_iff]
    refine (keys_of_declare hdeclare).imp fun field mapped hkey => ?_
    rw [← hkey]
    exact structFieldHasKey_structField presentation mapped
  · rw [hemitted]
    exact nodup_map_iff_nodup_map fun _ _ _ _ => Naming.snake_eq_snake_iff
  · exact nodup_map_iff_nodup_map fun _ _ _ _ => Naming.lowerCamel_eq_lowerCamel_iff
  · intro hascii
    refine nodup_map_iff_nodup_map fun first hfirst second hsecond => ?_
    exact Naming.lowerCamel_eq_lowerCamel_iff_of_isAscii (hascii first hfirst) (hascii second hsecond)

/-- A message whose two fields have different names of the same words. -/
def sameWordsFile : File where
  package := some "t"
  messages := [
    { name := some "M"
      fields := [
        { name := some "foo_bar", number := some 1, type := some 9 },
        { name := some "fooBar", number := some 2, type := some 9 }] }]

/-- The type whose field names have the same words. -/
def sameWordsTypes : TypeTable :=
  (Registry.ofFiles [sameWordsFile]).types

/-- The names of a message's fields, and the identifiers and keys of those that are emitted. -/
def Declaration.fieldNames? : Declaration → Option (List String × List String × List String)
  | .message declaration =>
      let emitted := declaration.fields.filterMap (·.mapped?)
      some (declaration.type.fields.map (·.name), emitted.map (·.identifier), emitted.map (·.key))
  | .enum _ => none

/-- The one declaration of the run. -/
theorem exists_declaration_sameWordsTypes :
    ∃ plan presentation planned declaration,
      generatePlan {} sameWordsTypes "t.M" = .ok (plan, presentation) ∧
      planned ∈ plan.declarations ∧ planned.output = .message declaration ∧
      declaration.type.fields.map (·.name) = ["foo_bar", "fooBar"] ∧
      (declaration.fields.filterMap (·.mapped?)).map (·.identifier) = ["foo_bar", "foo_bar"] ∧
      (declaration.fields.filterMap (·.mapped?)).map (·.key) = ["fooBar", "fooBar"] := by
  obtain ⟨⟨plan, presentation⟩, hplan, hnames⟩ :
      ∃ result, generatePlan {} sameWordsTypes "t.M" = .ok result ∧
        result.1.declarations.map (·.output.fieldNames?) =
          [some (["foo_bar", "fooBar"], ["foo_bar", "foo_bar"], ["fooBar", "fooBar"])] :=
    exists_of_map_toOption (by decide +kernel)
  obtain ⟨planned, hplanned, hfields⟩ := List.map_eq_singleton_iff.1 hnames
  have hmem : planned ∈ plan.declarations := by
    rw [hplanned]
    exact List.mem_singleton_self planned
  cases hdeclaration : planned.output with
  | enum declaration =>
      rw [hdeclaration] at hfields
      cases hfields
  | message declaration =>
      rw [hdeclaration, Declaration.fieldNames?, Option.some.injEq, Prod.mk.injEq,
        Prod.mk.injEq] at hfields
      exact ⟨plan, presentation, planned, declaration, hplan, hmem, hdeclaration, hfields⟩

/-- The two names have the same words, so their fields have the same identifier and the same key. -/
theorem sameWordsTypes_words_not_nodup :
    ∃ text plan presentation planned declaration, generate {} sameWordsTypes "t.M" = .ok text ∧
      generatePlan {} sameWordsTypes "t.M" = .ok (plan, presentation) ∧
      planned ∈ plan.declarations ∧ planned.output = .message declaration ∧
      let kept := declaration.type.fields.filter (·.isRepresented sameWordsTypes)
      ¬ (kept.map fun field => Text.lowerWords field.name.toList).Nodup ∧
        ¬ (kept.map fun field => Naming.lowerCamel field.name).Nodup := by
  obtain ⟨plan, presentation, planned, declaration, hplan, hplanned, hdeclaration, hfields,
    hidentifiers, _⟩ := exists_declaration_sameWordsTypes
  have htext := generate_eq_ok_iff.2 ⟨plan, presentation, hplan, rfl⟩
  refine ⟨_, plan, presentation, planned, declaration, htext, hplan, hplanned, hdeclaration, ?_⟩
  obtain ⟨_, _, hsame, _, hstructs⟩ := generate_field_names_nodup_iff htext
  rw [hplan, Except.ok.injEq, Prod.mk.injEq] at hsame
  obtain ⟨rfl, rfl⟩ := hsame
  obtain ⟨emitted, hmembers, _, _, hidentifier, _, hkey⟩ :=
    hstructs planned hplanned declaration hdeclaration
  rw [hdeclaration, members_item, Members.fields.injEq] at hmembers
  have hnames : emitted.map (·.name) = ["foo_bar", "foo_bar"] := by
    rw [← hmembers, List.map_map, ← hidentifiers]
    rfl
  have hwords : ¬ ((declaration.type.fields.filter (·.isRepresented sameWordsTypes)).map
      fun field => Text.lowerWords field.name.toList).Nodup := by
    rw [← hidentifier, hnames]
    decide
  refine ⟨hwords, fun hkeys => hwords ?_⟩
  rw [hkey fun field hfield => ?_] at hkeys
  · -- Names that differ after words are joined differ before.
    refine List.Nodup.of_map Text.joinDigits ?_
    rw [List.map_map]
    exact hkeys
  · have hname : field.name ∈ ["foo_bar", "fooBar"] := by
      rw [← hfields]
      exact List.mem_map_of_mem (List.mem_of_mem_filter hfield)
    have hascii : (["foo_bar", "fooBar"].all fun name => Text.isAscii name.toList) = true := by
      decide
    exact List.all_eq_true.1 hascii field.name hname

/-- Fields of different names may share both their identifier and their key. -/
theorem exists_generate_equal_field_names :
    ∃ (files : FileSet) (typeName text : String) (plan : ResourcePlan) (presentation : Presentation)
      (planned : Planned Declaration) (declaration : MessageDeclaration) (first second : StructField),
      generate {} (Registry.ofFiles files).types typeName = .ok text ∧
      generatePlan {} (Registry.ofFiles files).types typeName = .ok (plan, presentation) ∧
      planned ∈ plan.declarations ∧ planned.output = .message declaration ∧
      (declaration.type.fields.map (·.name)).Nodup ∧
      (planned.output.item presentation).members = .fields [first, second] ∧
      first.name = second.name ∧
      StructFieldHasKey first "fooBar" ∧ StructFieldHasKey second "fooBar" := by
  obtain ⟨plan, presentation, planned, declaration, hplan, hplanned, hdeclaration, hnames,
    hidentifiers, hkeys⟩ := exists_declaration_sameWordsTypes
  obtain ⟨first, rest, hfirst, hname, hrest⟩ := List.map_eq_cons_iff.1 hidentifiers
  obtain ⟨second, hsecond, hother⟩ := List.map_eq_singleton_iff.1 hrest
  rw [hsecond] at hfirst
  rw [hfirst, List.map_cons, List.map_singleton, List.cons.injEq, List.cons.injEq] at hkeys
  have htext := generate_eq_ok_iff.2 ⟨plan, presentation, hplan, rfl⟩
  refine ⟨[sameWordsFile], "t.M", _, plan, presentation, planned, declaration,
    first.structField presentation, second.structField presentation, htext, hplan, hplanned,
    hdeclaration, ?_, ?_, ?_, ?_, ?_⟩
  · rw [hnames]
    decide
  · rw [hdeclaration, members_item, hfirst]
    rfl
  · exact hname.trans hother.symm
  · rw [← hkeys.1]
    exact structFieldHasKey_structField presentation first
  · rw [← hkeys.2.1]
    exact structFieldHasKey_structField presentation second

end CustomResource
