import CustomResource.Proofs.Generation.EnumVariants

/-!
# Constants of enums

Every enum of a generated module is written with one constant for each of its values, and the constants of
one enum are distinct, since a run fails otherwise.  Nothing compares the constants of different enums.  They
are made from the name of the value and that of the enum type without a mark in between, so two enums can
share a constant, if the name of one's type ends like the other's: value `FOO` of `BarBaz` and value `FOO_BAR`
of `Baz` are both `FooBarBazType`.

Within one enum the name of the type is the same for all values, so values of ASCII names share a constant only
if their names have the same letters and digits.
-/

namespace CustomResource

open Descriptor Source Text

/-! ## Enums of a plan -/

/-- The enum, if the type is one. -/
def DeclaredType.enum? : DeclaredType → Option EnumType
  | .message _ => none
  | .enum type => some type

/-- The enums that a plan declares, in order. -/
def ResourcePlan.enums (plan : ResourcePlan) : List EnumType :=
  plan.declarations.filterMap (·.output.type.enum?)

/-- The names of an item's variants, if it has any. -/
def Source.Item.variantNames (item : Item) : List String :=
  match item.members with
  | .fields _ => []
  | .variants variants => variants.map (·.name)

theorem map_name_sourceVariants (type : EnumType) (variants : List EnumVariant) :
    (EnumDeclaration.sourceVariants type variants).map (·.name) = variants.map (·.identifier) := by
  cases variants with
  | nil => rfl
  | cons first rest => simp [EnumDeclaration.sourceVariants, EnumDeclaration.sourceVariant]

/-- A declared enum has the constants of its values, which are distinct. -/
theorem constants_of_declare {types : TypeTable} {info : ResourceInfo} {enum : EnumType}
    {declaration : Declaration} (h : declare types info (.enum enum) = .ok declaration) :
    ∃ result, declaration = .enum result ∧
      result.variants.map (·.identifier) = enum.constants ∧ enum.constants.Nodup := by
  obtain ⟨result, hresult, rfl⟩ := functor_map_eq_ok_iff.1 h
  obtain ⟨hdeclarable, rfl⟩ := declareEnum_eq_ok_iff.1 hresult
  refine ⟨enum.declared, rfl, ?_, hdeclarable.accepts.distinct⟩
  simp only [EnumType.declared, EnumType.variants, EnumType.constants, List.map_map, Function.comp_def]

namespace ResourcePlan.For

variable {config : Config} {types : TypeTable} {root : MessageType} {plan : ResourcePlan}

/-- The variants of a module are the constants of the enums it declares. -/
theorem flatMap_variantNames (h : plan.For config types root) (presentation : Presentation) :
    (plan.source presentation).items.flatMap (·.variantNames) = plan.enums.flatMap (·.constants) := by
  have henvelope : (plan.envelope.items plan.info).flatMap (·.variantNames) = [] := rfl
  have hdeclarations : ∀ planned ∈ plan.declarations,
      (planned.output.item presentation).variantNames =
        planned.output.type.enum?.toList.flatMap (·.constants) := by
    intro planned hplanned
    cases hdeclaration : planned.output with
    | message declaration => rfl
    | enum declaration =>
        have hdeclare := (h.declares planned hplanned).2
        rw [hdeclaration] at hdeclare
        obtain ⟨result, hresult, hnames, _⟩ := constants_of_declare hdeclare
        cases hresult
        exact ((map_name_sourceVariants _ _).trans hnames).trans (List.append_nil _).symm
  rw [ResourcePlan.source, List.flatMap_append, henvelope, List.nil_append, List.flatMap_map,
    List.flatMap_congr hdeclarations, ResourcePlan.enums, List.filterMap_eq_flatMap_toList,
    List.flatMap_assoc]

theorem nodup_constants (h : plan.For config types root) {enum : EnumType} (henum : enum ∈ plan.enums) :
    enum.constants.Nodup := by
  obtain ⟨planned, hplanned, hoption⟩ := List.mem_filterMap.1 henum
  have hdeclare := (h.declares planned hplanned).2
  cases htype : planned.output.type with
  | message message =>
      rw [htype] at hoption
      cases hoption
  | enum other =>
      rw [htype] at hoption hdeclare
      cases hoption
      obtain ⟨_, _, _, hnodup⟩ := constants_of_declare hdeclare
      exact hnodup

end ResourcePlan.For

/-! ## Constants of one enum -/

/-- What a conflict between two values says: the second stands behind the first and has its constant. -/
theorem EnumType.Fault.exists_conflicting {enum : EnumType} {error : GenerateError} (h : enum.Fault error)
    {constant firstName secondName : String}
    (herror : error = .conflictingEnumValues constant firstName secondName) :
    ∃ before first second after, enum.declaration.values = before ++ second :: after ∧ first ∈ before ∧
      enum.constant first = constant ∧ enum.constant second = constant ∧
      enum.valueFullName first = firstName ∧ enum.valueFullName second = secondName := by
  cases h with
  | empty hvalues => exact absurd herror (by simp)
  | @value before after second _ hsplit haccepts hrejects =>
      cases hrejects with
      | @conflicting first hunique =>
          obtain ⟨hfirst, hsame⟩ := (filter_eq_singleton_iff haccepts.distinct).1 hunique
          obtain ⟨hconstant, hnames⟩ := (GenerateError.conflictingEnumValues.injEq ..).mp herror
          exact ⟨before, first, second, after, hsplit, hfirst, hsame.trans hconstant, hconstant, hnames⟩
      | invalid hnew hcause => exact absurd herror (by simp)
  | type hvalues haccepts hcause => exact absurd herror (by simp)

/-- Take an enum with an ASCII name.  Two of its values with ASCII names have the same constant only if their
names have the same letters and digits, up to case.  So its declaration is rejected for a conflict only between
two of its values whose names are spelled alike, the later of which is reported second. -/
theorem conflicting_values_spelled_alike {enum : EnumType} (henum : isAscii enum.name.toList = true) :
    (∀ first ∈ enum.declaration.values, ∀ second ∈ enum.declaration.values,
      isAscii (first.name.getD "").toList = true → isAscii (second.name.getD "").toList = true →
      enum.constant first = enum.constant second →
      spelling (first.name.getD "").toList = spelling (second.name.getD "").toList) ∧
    ∀ constant firstName secondName,
      declareEnum enum = .error (.conflictingEnumValues constant firstName secondName) →
      ∃ before first second after, enum.declaration.values = before ++ second :: after ∧ first ∈ before ∧
        enum.constant first = constant ∧ enum.constant second = constant ∧
        enum.valueFullName first = firstName ∧ enum.valueFullName second = secondName ∧
        (isAscii (first.name.getD "").toList = true → isAscii (second.name.getD "").toList = true →
          spelling (first.name.getD "").toList = spelling (second.name.getD "").toList) := by
  have halike : ∀ first second : EnumValue, isAscii (first.name.getD "").toList = true →
      isAscii (second.name.getD "").toList = true → enum.constant first = enum.constant second →
      spelling (first.name.getD "").toList = spelling (second.name.getD "").toList :=
    fun _ _ hfirst hsecond hsame => Naming.spelling_eq_of_enumConstant_eq henum hfirst hsecond hsame
  refine ⟨fun first _ second _ => halike first second, fun constant firstName secondName h => ?_⟩
  obtain ⟨before, first, second, after, hsplit, hmem, hfirst, hsecond, hnames⟩ :=
    (declareEnum_eq_error_iff.1 h).exists_conflicting rfl
  exact ⟨before, first, second, after, hsplit, hmem, hfirst, hsecond, hnames.1, hnames.2,
    fun hascii hother => halike first second hascii hother (hfirst.trans hsecond.symm)⟩

/-- The two levels that are reported for a conflict are spelled alike. -/
theorem levelEnum_conflict_spelled_alike :
    isAscii levelEnum.name.toList = true ∧
      declareEnum levelEnum =
        .error (.conflictingEnumValues "HighValueLevelType" "t.Level.HIGH_VALUE" "t.Level.high_value") ∧
      ∃ first ∈ levelEnum.declaration.values, ∃ second ∈ levelEnum.declaration.values,
        levelEnum.valueFullName first = "t.Level.HIGH_VALUE" ∧
        levelEnum.valueFullName second = "t.Level.high_value" ∧
        spelling (first.name.getD "").toList = spelling (second.name.getD "").toList := by
  have hname : isAscii levelEnum.name.toList = true := by decide
  have hvalues : ∀ value ∈ levelEnum.declaration.values, isAscii (value.name.getD "").toList = true := by
    decide
  have herror := declareEnum_eq_error_iff.2 fault_levelEnum
  obtain ⟨before, first, second, after, hsplit, hbefore, -, -, hfirst, hsecond, halike⟩ :=
    (conflicting_values_spelled_alike hname).2 _ _ _ herror
  have hfirstMem : first ∈ levelEnum.declaration.values := by
    rw [hsplit]
    exact List.mem_append_left _ hbefore
  have hsecondMem : second ∈ levelEnum.declaration.values := by
    rw [hsplit]
    exact List.mem_append_right _ List.mem_cons_self
  exact ⟨hname, herror, first, hfirstMem, second, hsecondMem, hfirst, hsecond,
    halike (hvalues first hfirstMem) (hvalues second hsecondMem)⟩

/-! ## Constants of different enums -/

/-- No value of one enum has the name of a value of the other, as far as a conversion of the names that
constants are made from tells. -/
def EnumType.ApartBy {α : Type} (conversion : List Char → α) (first second : EnumType) : Prop :=
  ∀ value ∈ first.declaration.values, ∀ other ∈ second.declaration.values,
    conversion (Naming.gluedName first.name (value.name.getD "")) ≠
      conversion (Naming.gluedName second.name (other.name.getD ""))

/-- The names of two enum types do not end alike: neither is spelled as the end of the other. -/
def EnumType.EndsApart (first second : EnumType) : Prop :=
  ¬ spelling (Naming.enumType first.name).toList <:+ spelling (Naming.enumType second.name).toList ∧
    ¬ spelling (Naming.enumType second.name).toList <:+ spelling (Naming.enumType first.name).toList

/-- The names of an enum and of its values are ASCII. -/
structure EnumType.IsAscii (enum : EnumType) : Prop where
  name : isAscii enum.name.toList = true
  values : ∀ value ∈ enum.declaration.values, isAscii (value.name.getD "").toList = true

theorem disjoint_constants_iff {first second : EnumType} :
    first.constants.Disjoint second.constants ↔ first.ApartBy upperCamelCase second := by
  constructor
  · intro hdisjoint value hvalue other hother hsame
    have hconstant := Naming.enumConstant_eq_enumConstant_iff.2 hsame
    exact hdisjoint (List.mem_map_of_mem hvalue) (List.mem_map.2 ⟨other, hother, hconstant.symm⟩)
  · intro hapart constant hfirst hsecond
    obtain ⟨value, hvalue, rfl⟩ := List.mem_map.1 hfirst
    obtain ⟨other, hother, hsame⟩ := List.mem_map.1 hsecond
    exact hapart value hvalue other hother (Naming.enumConstant_eq_enumConstant_iff.1 hsame.symm)

theorem apartBy_iff_of_isAscii {first second : EnumType} (hfirst : first.IsAscii)
    (hsecond : second.IsAscii) :
    first.ApartBy upperCamelCase second ↔
      first.ApartBy (fun name => joinDigits (lowerWords name)) second := by
  refine forall₂_congr fun value hvalue => forall₂_congr fun other hother => not_congr ?_
  have hvalueName := Naming.isAscii_gluedName hfirst.name (hfirst.values value hvalue)
  have hotherName := Naming.isAscii_gluedName hsecond.name (hsecond.values other hother)
  exact upperCamelCase_eq_upperCamelCase_iff hvalueName hotherName

theorem EnumType.EndsApart.disjoint_constants {first second : EnumType}
    (h : first.EndsApart second) (hfirst : first.IsAscii) (hsecond : second.IsAscii) :
    first.constants.Disjoint second.constants := by
  intro constant hmem hother
  obtain ⟨value, hvalue, rfl⟩ := List.mem_map.1 hmem
  obtain ⟨other, hother, hsame⟩ := List.mem_map.1 hother
  have hends := Naming.suffix_of_enumConstant_eq hfirst.name (hfirst.values value hvalue) hsecond.name
    (hsecond.values other hother) hsame.symm
  rcases hends with hsuffix | hsuffix
  · exact h.1 hsuffix
  · exact h.2 hsuffix

/-- Generate from any registry.  The variants of the module are the constants of the enums it declares, enum by
enum, and those of one enum are distinct.  All of them are distinct exactly if no two enums have values whose
names, glued to those of the enum types, are the same in upper camel case.  For ASCII names that is to say
that no two of the glued names have the same words up to case, where words that begin with digits are joined
to the words before them, and it holds whenever no two enum types have names that end alike. -/
theorem generate_enum_constants_nodup_iff {config : Config} {types : TypeTable}
    {typeName text : String} (h : generate config types typeName = .ok text) :
    ∃ plan presentation, generatePlan config types typeName = .ok (plan, presentation) ∧
      text = fileText config.format (plan.source presentation) ∧
      let emitted := (plan.source presentation).items.flatMap (·.variantNames)
      emitted = plan.enums.flatMap (·.constants) ∧
        (∀ enum ∈ plan.enums, enum.constants.Nodup) ∧
        (emitted.Nodup ↔ plan.enums.Pairwise (EnumType.ApartBy upperCamelCase)) ∧
        ((∀ enum ∈ plan.enums, enum.IsAscii) →
          (emitted.Nodup ↔
            plan.enums.Pairwise (EnumType.ApartBy fun name => joinDigits (lowerWords name))) ∧
          (plan.enums.Pairwise EnumType.EndsApart → emitted.Nodup)) := by
  obtain ⟨plan, presentation, hplan, htext⟩ := generate_eq_ok_iff.1 h
  obtain ⟨root, _, hfor⟩ := exists_for_of_generatePlan hplan
  have hemitted := hfor.flatMap_variantNames presentation
  have hdistinct : ∀ enum ∈ plan.enums, enum.constants.Nodup :=
    fun _ henum => hfor.nodup_constants henum
  have hnodup : (plan.enums.flatMap (·.constants)).Nodup ↔
      plan.enums.Pairwise fun first second => first.constants.Disjoint second.constants := by
    rw [List.nodup_flatMap]
    exact and_iff_right hdistinct
  have hapart : (plan.enums.flatMap (·.constants)).Nodup ↔
      plan.enums.Pairwise (EnumType.ApartBy upperCamelCase) := by
    rw [hnodup]
    exact List.Pairwise.iff fun _ _ => disjoint_constants_iff
  refine ⟨plan, presentation, hplan, htext, hemitted, hdistinct, ?_, fun hascii => ⟨?_, ?_⟩⟩
  · rw [hemitted]
    exact hapart
  · rw [hemitted, hapart]
    exact List.Pairwise.iff_of_mem fun hfirst hsecond =>
      apartBy_iff_of_isAscii (hascii _ hfirst) (hascii _ hsecond)
  · intro hends
    rw [hemitted, hnodup]
    refine hends.imp_of_mem fun hfirst hsecond hend => ?_
    exact hend.disjoint_constants (hascii _ hfirst) (hascii _ hsecond)

/-- A message that refers to two enums, where the name of one ends in that of the other. -/
def gluedNamesFile : File where
  package := some "t"
  messages := [
    { name := some "M"
      fields := [
        { name := some "long", number := some 1, type := some 14, typeName := some ".t.BarBaz" },
        { name := some "short", number := some 2, type := some 14, typeName := some ".t.Baz" }] }]
  enums := [
    { name := some "BarBaz", values := [{ name := some "FOO", number := some 0 }] },
    { name := some "Baz", values := [{ name := some "FOO_BAR", number := some 0 }] }]

/-- The types of the two enums. -/
def gluedNamesTypes : TypeTable :=
  (Registry.ofFiles [gluedNamesFile]).types

/-- The enum of the longer name. -/
def longNameEnum : EnumType :=
  ⟨"t.BarBaz", { name := some "BarBaz", values := [{ name := some "FOO", number := some 0 }] }⟩

/-- The enum of the shorter name. -/
def shortNameEnum : EnumType :=
  ⟨"t.Baz", { name := some "Baz", values := [{ name := some "FOO_BAR", number := some 0 }] }⟩

theorem generatePlan_gluedNamesTypes : ∃ result, generatePlan {} gluedNamesTypes "t.M" = .ok result ∧
    result.1.enums = [longNameEnum, shortNameEnum] :=
  exists_of_map_toOption (by decide +kernel)

theorem constants_gluedNames :
    [longNameEnum, shortNameEnum].flatMap (·.constants) = ["FooBarBazType", "FooBarBazType"] := by
  decide +kernel

/-- The names that the two constants are made from have the same words. -/
theorem gluedNamesTypes_words_not_apart :
    ∃ text plan presentation, generate {} gluedNamesTypes "t.M" = .ok text ∧
      generatePlan {} gluedNamesTypes "t.M" = .ok (plan, presentation) ∧
      (∀ enum ∈ plan.enums, enum.IsAscii) ∧
      ¬ plan.enums.Pairwise (EnumType.ApartBy fun name => joinDigits (lowerWords name)) ∧
      ¬ plan.enums.Pairwise EnumType.EndsApart := by
  obtain ⟨⟨plan, presentation⟩, hplan, henums⟩ := generatePlan_gluedNamesTypes
  have htext := generate_eq_ok_iff.2 ⟨plan, presentation, hplan, rfl⟩
  obtain ⟨_, _, hsame, _, hemitted, _, _, hascii⟩ := generate_enum_constants_nodup_iff htext
  rw [hplan, Except.ok.injEq, Prod.mk.injEq] at hsame
  obtain ⟨rfl, rfl⟩ := hsame
  have hall : ∀ enum ∈ plan.enums, enum.IsAscii := by
    intro enum henum
    rw [henums, List.mem_cons, List.mem_singleton] at henum
    rcases henum with rfl | rfl
    · exact ⟨by decide, by decide⟩
    · exact ⟨by decide, by decide⟩
  have hrepeated : ¬ ((plan.source presentation).items.flatMap (·.variantNames)).Nodup := by
    rw [hemitted, henums, constants_gluedNames]
    decide
  refine ⟨_, plan, presentation, htext, hplan, hall, fun hapart => ?_, fun hends => ?_⟩
  · exact hrepeated ((hascii hall).1.2 hapart)
  · exact hrepeated ((hascii hall).2 hends)

/-- Values of different enums may have the same constant. -/
theorem exists_generate_equal_constants :
    ∃ (files : FileSet) (typeName text : String) (plan : ResourcePlan) (presentation : Presentation)
      (first second : EnumType) (value other : EnumValue),
      generate {} (Registry.ofFiles files).types typeName = .ok text ∧
      generatePlan {} (Registry.ofFiles files).types typeName = .ok (plan, presentation) ∧
      plan.enums = [first, second] ∧ first ≠ second ∧
      first.declaration.values = [value] ∧ second.declaration.values = [other] ∧
      first.constant value = second.constant other ∧
      (plan.source presentation).items.flatMap (·.variantNames) =
        [first.constant value, second.constant other] := by
  obtain ⟨⟨plan, presentation⟩, hplan, henums⟩ := generatePlan_gluedNamesTypes
  have htext := generate_eq_ok_iff.2 ⟨plan, presentation, hplan, rfl⟩
  obtain ⟨root, _, hfor⟩ := exists_for_of_generatePlan hplan
  have hemitted := hfor.flatMap_variantNames presentation
  rw [henums] at hemitted
  refine ⟨[gluedNamesFile], "t.M", _, plan, presentation, longNameEnum, shortNameEnum, _, _, htext,
    hplan, henums, by decide, rfl, rfl, ?_, hemitted⟩
  have hconstants := constants_gluedNames
  simp only [EnumType.constants, longNameEnum, shortNameEnum, List.flatMap_cons, List.flatMap_nil,
    List.map_cons, List.map_nil, List.append_nil, List.singleton_append, List.cons.injEq] at hconstants
  exact hconstants.1.trans hconstants.2.1.symm

end CustomResource
