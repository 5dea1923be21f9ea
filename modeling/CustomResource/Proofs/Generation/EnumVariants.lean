import CustomResource.Proofs.Generation.Plan
import CustomResource.Proofs.Source.Arguments

/-!
# Variants of enums

An enum is declared value by value.  The constant of a value is compared with the constants before it, and then it
has to be an identifier, so values further back decide nothing once a value is rejected.  The name of the type comes
last.  `declareEnum_writes_values_or_reports_fault` says of every enum whether it is declared, what is written for it,
and which fault is reported otherwise, without the table of constants that is kept along the way.
-/

namespace CustomResource

open Descriptor Source

namespace EnumType

/-! ## Accepted values -/

/-- Values whose constants are distinct identifiers. -/
structure Accepts (enum : EnumType) (values : List EnumValue) : Prop where
  distinct : (values.map enum.constant).Nodup
  identifiers : ∀ value ∈ values, ∃ word, identifier (enum.constant value) = .ok word

/-- What a value is rejected with behind values that are accepted.  Either one of them, and no other, has the same
constant, or the constant is new and no identifier. -/
inductive Rejects (enum : EnumType) (before : List EnumValue) (value : EnumValue) : GenerateError → Prop
  | conflicting {first : EnumValue}
      (hunique : before.filter (enum.constant · = enum.constant value) = [first]) :
      Rejects enum before value
        (.conflictingEnumValues (enum.constant value) (enum.valueFullName first) (enum.valueFullName value))
  | invalid {cause : IdentifierError} (hnew : enum.constant value ∉ before.map enum.constant)
      (hcause : identifier (enum.constant value) = .error cause) :
      Rejects enum before value (.invalidIdentifier (enum.constant value) cause)

/-- What is wrong with an enum that is not declared: it has no values, or a value is rejected behind accepted ones,
or all values are accepted and the name of the type is no identifier. -/
inductive Fault (enum : EnumType) : GenerateError → Prop
  | empty (hvalues : enum.declaration.values = []) : Fault enum (.emptyEnum enum.fullName)
  | value {before after : List EnumValue} {value : EnumValue} {error : GenerateError}
      (hsplit : enum.declaration.values = before ++ value :: after) (haccepts : enum.Accepts before)
      (hrejects : enum.Rejects before value error) : Fault enum error
  | type {cause : IdentifierError} (hvalues : enum.declaration.values ≠ [])
      (haccepts : enum.Accepts enum.declaration.values)
      (hcause : identifier (Naming.enumType enum.name) = .error cause) :
      Fault enum (.invalidIdentifier (Naming.enumType enum.name) cause)

/-- The table of constants behind some values, the last value first. -/
def entries (enum : EnumType) (before : List EnumValue) : List (String × EnumValue) :=
  (before.map fun value => (enum.constant value, value)).reverse

/-- The constants of an enum, value by value. -/
def constants (enum : EnumType) : List String :=
  enum.declaration.values.map enum.constant

/-- The variants of accepted values. -/
def variants (enum : EnumType) (values : List EnumValue) : List EnumVariant :=
  values.map fun value => ⟨value, enum.constant value⟩

variable {enum : EnumType} {before : List EnumValue} {value : EnumValue} {error : GenerateError}

theorem accepts_nil (enum : EnumType) : enum.Accepts [] :=
  ⟨List.nodup_nil, fun _ hvalue => absurd hvalue List.not_mem_nil⟩

theorem entries_concat (enum : EnumType) (before : List EnumValue) (value : EnumValue) :
    enum.entries (before ++ [value]) = (enum.constant value, value) :: enum.entries before := by
  simp [entries]

theorem map_fst_entries (enum : EnumType) (before : List EnumValue) :
    (enum.entries before).map Prod.fst = (before.map enum.constant).reverse := by
  simp [entries, Function.comp_def]

theorem mem_entries_iff {name : String} :
    (name, value) ∈ enum.entries before ↔ value ∈ before ∧ enum.constant value = name := by
  simp only [entries, List.mem_reverse, List.mem_map, Prod.mk.injEq]
  constructor
  · rintro ⟨_, hmem, hname, rfl⟩
    exact ⟨hmem, hname⟩
  · rintro ⟨hmem, hname⟩
    exact ⟨value, hmem, hname, rfl⟩

/-- A constant is found exactly if one of the values before has it, and then that value is. -/
theorem Accepts.lookup_entries (h : enum.Accepts before) {name : String} {first : EnumValue} :
    (enum.entries before).lookup name = some first ↔ before.filter (enum.constant · = name) = [first] := by
  have hnodup : ((enum.entries before).map Prod.fst).Nodup := by
    rw [map_fst_entries, List.nodup_reverse]
    exact h.distinct
  rw [lookup_eq_some_iff_mem hnodup, mem_entries_iff, filter_eq_singleton_iff h.distinct]

/-- A constant that no value before has is not found. -/
theorem lookup_entries_eq_none {name : String} (hnew : name ∉ before.map enum.constant) :
    (enum.entries before).lookup name = none := by
  rw [lookup_eq_none_iff_not_mem, map_fst_entries, List.mem_reverse]
  exact hnew

theorem declaredIdentifier_constant (h : ∃ word, identifier (enum.constant value) = .ok word) :
    declaredIdentifier (enum.constant value) = .ok (enum.constant value) := by
  obtain ⟨word, hword⟩ := h
  have hdeclared : declaredIdentifier (enum.constant value) = .ok word := mapError_eq_ok_iff.2 hword
  rwa [eq_of_declaredIdentifier (Naming.isIdentifierText_enumConstant _ _) hdeclared] at hdeclared

/-! ## One value -/

/-- A value behind accepted ones is accepted as well, or it is rejected. -/
theorem Accepts.concat_or_rejects (h : enum.Accepts before) (value : EnumValue) :
    enum.Accepts (before ++ [value]) ∨ ∃ error, enum.Rejects before value error := by
  by_cases hmem : enum.constant value ∈ before.map enum.constant
  · obtain ⟨first, hfirst, hsame⟩ := List.mem_map.1 hmem
    exact .inr ⟨_, .conflicting ((filter_eq_singleton_iff h.distinct).2 ⟨hfirst, hsame⟩)⟩
  · cases hidentifier : identifier (enum.constant value) with
    | error cause => exact .inr ⟨_, .invalid hmem hidentifier⟩
    | ok word =>
        refine .inl ⟨?_, ?_⟩
        · exact nodup_map_concat_iff.2 ⟨hmem, h.distinct⟩
        · intro other hother
          rcases List.mem_append.1 hother with hother | hother
          · exact h.identifiers other hother
          · rw [List.mem_singleton.1 hother]
            exact ⟨word, hidentifier⟩

theorem Accepts.of_append {after : List EnumValue} (h : enum.Accepts (before ++ after)) : enum.Accepts before := by
  refine ⟨?_, fun other hother => h.identifiers other (List.mem_append_left _ hother)⟩
  have hdistinct := h.distinct
  rw [List.map_append] at hdistinct
  exact hdistinct.of_append_left

/-- An accepted value is declared, and the values behind it are declared behind it. -/
theorem Accepts.declareVariants_cons (h : enum.Accepts (before ++ [value])) (rest : List EnumValue) :
    declareVariants enum (enum.entries before) (value :: rest) =
      (⟨value, enum.constant value⟩ :: ·) <$> declareVariants enum (enum.entries (before ++ [value])) rest := by
  have hnew : enum.constant value ∉ before.map enum.constant := (nodup_map_concat_iff.1 h.distinct).1
  have hidentifier := declaredIdentifier_constant (h.identifiers value (by simp))
  rw [declareVariants, lookup_entries_eq_none hnew, hidentifier, entries_concat]
  rfl

/-- A rejected value is reported, whatever is behind it. -/
theorem Accepts.declareVariants_cons_of_rejects (h : enum.Accepts before) (hrejects : enum.Rejects before value error)
    (rest : List EnumValue) : declareVariants enum (enum.entries before) (value :: rest) = .error error := by
  cases hrejects with
  | conflicting hunique =>
      rw [declareVariants, h.lookup_entries.2 hunique]
  | invalid hnew hcause =>
      rw [declareVariants, lookup_entries_eq_none hnew, declaredIdentifier, hcause]
      rfl

/-! ## All values -/

/-- Accepted values are declared one behind the other. -/
theorem declareVariants_of_accepts {values : List EnumValue} (h : enum.Accepts (before ++ values)) :
    declareVariants enum (enum.entries before) values = .ok (enum.variants values) := by
  -- The values before are part of the induction, since the table grows with them.
  induction values generalizing before with
  | nil => rfl
  | cons value rest ih =>
      rw [List.append_cons] at h
      rw [h.of_append.declareVariants_cons, ih h]
      rfl

/-- A value that is rejected behind accepted ones is what the run over all values ends with. -/
theorem declareVariants_of_rejects {seen : List EnumValue} (h : enum.Accepts (before ++ seen))
    (hrejects : enum.Rejects (before ++ seen) value error) (after : List EnumValue) :
    declareVariants enum (enum.entries before) (seen ++ value :: after) = .error error := by
  induction seen generalizing before with
  | nil =>
      rw [List.append_nil] at h hrejects
      exact h.declareVariants_cons_of_rejects hrejects after
  | cons first rest ih =>
      rw [List.append_cons] at h hrejects
      rw [List.cons_append, h.of_append.declareVariants_cons, ih h hrejects]
      rfl

/-- Values behind accepted ones are accepted, or one of them is the first that is rejected. -/
theorem Accepts.append_or_rejects (h : enum.Accepts before) (values : List EnumValue) :
    enum.Accepts (before ++ values) ∨ ∃ seen value after error, values = seen ++ value :: after ∧
      enum.Accepts (before ++ seen) ∧ enum.Rejects (before ++ seen) value error := by
  induction values generalizing before with
  | nil =>
      rw [List.append_nil]
      exact .inl h
  | cons value rest ih =>
      rcases h.concat_or_rejects value with hvalue | ⟨error, hrejects⟩
      · -- The value joins those before it, and the rest is told by induction.
        rw [List.append_cons]
        rcases ih hvalue with hall | ⟨seen, other, after, error, rfl, hseen, hrejects⟩
        · exact .inl hall
        · rw [← List.append_cons] at hseen hrejects
          exact .inr ⟨value :: seen, other, after, error, rfl, hseen, hrejects⟩
      · refine .inr ⟨[], value, rest, error, rfl, ?_⟩
        rw [List.append_nil]
        exact ⟨h, hrejects⟩

end EnumType

/-! ## Declared enums -/

/-- An enum that is declared: it has values, all of them are accepted, and the name of its type is an identifier. -/
structure EnumType.Declarable (enum : EnumType) : Prop where
  values_ne_nil : enum.declaration.values ≠ []
  accepts : enum.Accepts enum.declaration.values
  named : ∃ word, identifier (Naming.enumType enum.name) = .ok word

/-- The declaration of an enum that has one. -/
def EnumType.declared (enum : EnumType) : EnumDeclaration :=
  ⟨enum, Naming.enumType enum.name, enum.variants enum.declaration.values⟩

section Outcome

variable {enum : EnumType}

theorem declareEnum_of_ne_nil (h : enum.declaration.values ≠ []) :
    declareEnum enum = (do
      let variants ← declareVariants enum (enum.entries []) enum.declaration.values
      let identifier ← declaredIdentifier (Naming.enumType enum.name)
      return ⟨enum, identifier, variants⟩) := by
  have hvalues : enum.declaration.values.isEmpty = false := by simpa using h
  rw [declareEnum, hvalues]
  rfl

theorem EnumType.Declarable.declareEnum_eq (h : enum.Declarable) : declareEnum enum = .ok enum.declared := by
  obtain ⟨word, hword⟩ := h.named
  have hidentifier : declaredIdentifier (Naming.enumType enum.name) = .ok word := mapError_eq_ok_iff.2 hword
  rw [eq_of_declaredIdentifier (Naming.isIdentifierText_enumType _) hidentifier] at hidentifier
  rw [declareEnum_of_ne_nil h.values_ne_nil, EnumType.declareVariants_of_accepts h.accepts, hidentifier]
  rfl

theorem EnumType.Fault.declareEnum_eq {error : GenerateError} (h : enum.Fault error) :
    declareEnum enum = .error error := by
  cases h with
  | empty hvalues =>
      rw [declareEnum, hvalues]
      rfl
  | @value before after value _ hsplit haccepts hrejects =>
      have hvalues : enum.declaration.values ≠ [] := by simp [hsplit]
      rw [declareEnum_of_ne_nil hvalues, hsplit, EnumType.declareVariants_of_rejects haccepts hrejects]
      rfl
  | type hvalues haccepts hcause =>
      rw [declareEnum_of_ne_nil hvalues, EnumType.declareVariants_of_accepts haccepts, declaredIdentifier, hcause]
      rfl

/-- An enum can be declared, or it has a fault. -/
theorem EnumType.declarable_or_fault (enum : EnumType) : enum.Declarable ∨ ∃ error, enum.Fault error := by
  by_cases hvalues : enum.declaration.values = []
  · exact .inr ⟨_, .empty hvalues⟩
  · rcases enum.accepts_nil.append_or_rejects enum.declaration.values with
      haccepts | ⟨before, value, after, error, hsplit, haccepts, hrejects⟩
    · cases hname : identifier (Naming.enumType enum.name) with
      | ok word => exact .inl ⟨hvalues, haccepts, word, hname⟩
      | error cause => exact .inr ⟨_, .type hvalues haccepts hname⟩
    · exact .inr ⟨error, .value hsplit haccepts hrejects⟩

theorem declareEnum_eq_ok_iff {declaration : EnumDeclaration} :
    declareEnum enum = .ok declaration ↔ enum.Declarable ∧ declaration = enum.declared := by
  constructor
  · intro h
    rcases enum.declarable_or_fault with hdeclarable | ⟨error, hfault⟩
    · rw [hdeclarable.declareEnum_eq, Except.ok.injEq] at h
      exact ⟨hdeclarable, h.symm⟩
    · rw [hfault.declareEnum_eq] at h
      cases h
  · rintro ⟨hdeclarable, rfl⟩
    exact hdeclarable.declareEnum_eq

/-- An enum that is not declared is reported with its fault, and it has no other. -/
theorem declareEnum_eq_error_iff {error : GenerateError} : declareEnum enum = .error error ↔ enum.Fault error := by
  constructor
  · intro h
    rcases enum.declarable_or_fault with hdeclarable | ⟨other, hfault⟩
    · rw [hdeclarable.declareEnum_eq] at h
      cases h
    · rw [hfault.declareEnum_eq, Except.error.injEq] at h
      rwa [← h]
  · exact fun h => h.declareEnum_eq

end Outcome

/-! ## Written variants -/

/-- The mark of a default variant. -/
def defaultMark : Attribute :=
  ⟨⟨false, ["default"]⟩, .nothing⟩

/-- What is written for the value at an index: a variant under the constant of the value, which is serialized under
the value's own name and marked as the default if it is the first. -/
structure EnumType.Writes (enum : EnumType) (value : EnumValue) (index : Nat) (variant : Variant) : Prop where
  name_eq : variant.name = enum.constant value
  attributes_eq : ∃ doc serde,
    variant.attributes = .doc doc :: serde :: (if index = 0 then [defaultMark] else []) ∧
      serde.arguments? "serde" = some [⟨"rename", some (value.name.getD "")⟩]
  isDefault_iff : defaultMark ∈ variant.attributes ↔ index = 0

theorem EnumType.Writes.serialization?_eq {enum : EnumType} {value : EnumValue} {index : Nat} {variant : Variant}
    (h : enum.Writes value index variant) :
    serialization? variant.attributes = some [⟨"rename", some (value.name.getD "")⟩] := by
  obtain ⟨doc, serde, hattributes, hserde⟩ := h.attributes_eq
  rw [hattributes]
  exact Source.serialization?_eq hserde [doc] _

/-- A variant is marked exactly if it is written as the default. -/
theorem defaultMark_mem_sourceVariant_iff (enum : EnumType) (isDefault : Bool) (variant : EnumVariant) :
    defaultMark ∈ (EnumDeclaration.sourceVariant enum isDefault variant).attributes ↔ isDefault = true := by
  have hdoc : ∀ text, defaultMark ≠ .doc text := by
    intro text hsame
    simp [defaultMark, Attribute.doc] at hsame
  have hserde : ∀ arguments, defaultMark ≠ serdeAttribute arguments := by
    intro arguments hsame
    simp [defaultMark, serdeAttribute, Attribute.call] at hsame
  cases isDefault with
  | true => simp [EnumDeclaration.sourceVariant, defaultMark]
  | false => simp [EnumDeclaration.sourceVariant, hdoc, hserde]

theorem EnumType.writes_sourceVariant (enum : EnumType) (value : EnumValue) {index : Nat} {isDefault : Bool}
    (h : isDefault = true ↔ index = 0) :
    enum.Writes value index (EnumDeclaration.sourceVariant enum isDefault ⟨value, enum.constant value⟩) := by
  refine ⟨?_, ?_, (defaultMark_mem_sourceVariant_iff ..).trans h⟩
  · rw [EnumDeclaration.sourceVariant]
  · simp only [← h]
    exact ⟨_, _, rfl, arguments?_rename _⟩

/-- Every value is written at its index. -/
theorem EnumType.forall₂_sourceVariants (enum : EnumType) (values : List EnumValue) :
    List.Forall₂ (fun entry variant => enum.Writes entry.1 entry.2 variant) values.zipIdx
      (EnumDeclaration.sourceVariants enum (enum.variants values)) := by
  -- Behind the first value no index is zero.
  have hrest : ∀ (rest : List EnumValue) (start : Nat),
      List.Forall₂ (fun entry variant => enum.Writes entry.1 entry.2 variant) (rest.zipIdx (start + 1))
        ((enum.variants rest).map (EnumDeclaration.sourceVariant enum false)) := by
    intro rest
    induction rest with
    | nil => exact fun _ => .nil
    | cons value rest ih =>
        intro start
        rw [List.zipIdx_cons]
        exact .cons (enum.writes_sourceVariant value (by simp)) (ih (start + 1))
  cases values with
  | nil => exact .nil
  | cons value rest =>
      rw [List.zipIdx_cons]
      exact .cons (enum.writes_sourceVariant value (by simp)) (hrest rest 0)

/-- An enum is declarable exactly if it has values, their constants are distinct, and the name of its type and all
constants are identifiers. -/
theorem EnumType.declarable_iff {enum : EnumType} : enum.Declarable ↔
    enum.declaration.values ≠ [] ∧ enum.constants.Nodup ∧
      ∀ name ∈ Naming.enumType enum.name :: enum.constants, ∃ word, identifier name = .ok word := by
  simp only [List.forall_mem_cons, EnumType.constants, List.forall_mem_map]
  constructor
  · rintro ⟨hvalues, ⟨hdistinct, hidentifiers⟩, hname⟩
    exact ⟨hvalues, hdistinct, hname, hidentifiers⟩
  · rintro ⟨hvalues, hdistinct, hname, hidentifiers⟩
    exact ⟨hvalues, ⟨hdistinct, hidentifiers⟩, hname⟩

/-- Declare any enum.  There is a declaration exactly if the enum has values, their constants are distinct, and the
name of the type and all constants are identifiers.  It is written with one variant for each value, in order, under
the constant of the value and serialized under the value's own name, so no two serialized names are the same, and
the first variant and no other is the default.  An enum without a declaration is reported with its fault: if all
values before one are accepted, and it has the constant of one of them, the error names the two. -/
theorem declareEnum_writes_values_or_reports_fault (enum : EnumType) :
    ((∃ declaration, declareEnum enum = .ok declaration) ↔
      enum.declaration.values ≠ [] ∧ enum.constants.Nodup ∧
        ∀ name ∈ Naming.enumType enum.name :: enum.constants, ∃ word, identifier name = .ok word) ∧
    (∀ (declaration : EnumDeclaration) (presentation : Presentation), declareEnum enum = .ok declaration →
      let item := (Declaration.enum declaration).item presentation
      item.name = Naming.enumType enum.name ∧
      (∃ variants, item.members = .variants variants ∧
        List.Forall₂ (fun entry variant => enum.Writes entry.1 entry.2 variant) enum.declaration.values.zipIdx
          variants) ∧
      (enum.declaration.values.map fun value => value.name.getD "").Nodup) ∧
    ∀ error, declareEnum enum = .error error ↔ enum.Fault error := by
  refine ⟨?_, ?_, fun _ => declareEnum_eq_error_iff⟩
  · rw [← EnumType.declarable_iff]
    constructor
    · rintro ⟨declaration, h⟩
      exact (declareEnum_eq_ok_iff.1 h).1
    · intro h
      exact ⟨_, h.declareEnum_eq⟩
  · intro declaration presentation h item
    obtain ⟨hdeclarable, rfl⟩ := declareEnum_eq_ok_iff.1 h
    refine ⟨?_, ⟨_, rfl, enum.forall₂_sourceVariants _⟩, ?_⟩
    · rw [ResourcePlan.name_item, Declaration.identifier, EnumType.declared]
    · -- Values of one name have one constant.
      have hconstant : enum.constant = Naming.enumConstant enum.name ∘ fun value => value.name.getD "" := by
        funext value
        rw [Function.comp_apply, EnumType.constant]
      have hdistinct := hdeclarable.accepts.distinct
      rw [hconstant, ← List.map_map] at hdistinct
      exact hdistinct.of_map _

/-- An enum of two colors. -/
def colorEnum : EnumType :=
  ⟨"t.Color", {
    name := some "Color"
    values := [{ name := some "RED", number := some 0 }, { name := some "BLUE", number := some 1 }] }⟩

/-- An enum whose values have different names of one constant. -/
def levelEnum : EnumType :=
  ⟨"t.Level", {
    name := some "Level"
    values := [{ name := some "HIGH_VALUE", number := some 0 }, { name := some "high_value", number := some 1 }] }⟩

theorem constants_colorEnum : colorEnum.constants = ["RedColorType", "BlueColorType"] := by
  decide +kernel

theorem identifiers_colorEnum : ∀ name ∈ Naming.enumType colorEnum.name :: colorEnum.constants,
    ∃ word, identifier name = .ok word := by
  have hidentifiers : ∀ name ∈ Naming.enumType colorEnum.name :: colorEnum.constants,
      (identifier name).toOption.isSome = true := by
    decide +kernel
  intro name hname
  obtain ⟨word, hword⟩ := Option.isSome_iff_exists.1 (hidentifiers name hname)
  exact ⟨word, toOption_eq_some_iff.1 hword⟩

/-- The second value is rejected behind the first, which has its constant. -/
theorem fault_levelEnum :
    levelEnum.Fault (.conflictingEnumValues "HighValueLevelType" "t.Level.HIGH_VALUE" "t.Level.high_value") := by
  let first : EnumValue := { name := some "HIGH_VALUE", number := some 0 }
  let second : EnumValue := { name := some "high_value", number := some 1 }
  have hconstants : levelEnum.constant first = "HighValueLevelType" ∧
      levelEnum.constant second = "HighValueLevelType" := by
    decide +kernel
  have hidentifier : (identifier "HighValueLevelType").toOption.isSome = true := by decide +kernel
  obtain ⟨word, hword⟩ := Option.isSome_iff_exists.1 hidentifier
  have haccepts : levelEnum.Accepts [first] := by
    refine ⟨List.nodup_singleton _, fun value hvalue => ⟨word, ?_⟩⟩
    rw [List.mem_singleton.1 hvalue, hconstants.1]
    exact toOption_eq_some_iff.1 hword
  have hunique : [first].filter (levelEnum.constant · = levelEnum.constant second) = [first] := by
    simp [hconstants]
  have hrejects := EnumType.Rejects.conflicting hunique
  rw [hconstants.2] at hrejects
  exact .value rfl haccepts hrejects

/-- The colors are written with the first as the default, and the levels are reported with both names. -/
theorem colorEnum_written_levelEnum_reported :
    (∃ declaration, declareEnum colorEnum = .ok declaration ∧ ∀ presentation, ∃ red blue,
      ((Declaration.enum declaration).item presentation).members = .variants [red, blue] ∧
        red.name = "RedColorType" ∧ serialization? red.attributes = some [⟨"rename", some "RED"⟩] ∧
        defaultMark ∈ red.attributes ∧
        blue.name = "BlueColorType" ∧ serialization? blue.attributes = some [⟨"rename", some "BLUE"⟩] ∧
        defaultMark ∉ blue.attributes) ∧
      declareEnum levelEnum =
        .error (.conflictingEnumValues "HighValueLevelType" "t.Level.HIGH_VALUE" "t.Level.high_value") := by
  have hdistinct : colorEnum.constants.Nodup := by
    rw [constants_colorEnum]
    decide
  obtain ⟨hdeclared, hwritten, -⟩ := declareEnum_writes_values_or_reports_fault colorEnum
  obtain ⟨-, -, hfaults⟩ := declareEnum_writes_values_or_reports_fault levelEnum
  obtain ⟨declaration, hdeclaration⟩ := hdeclared.2 ⟨List.cons_ne_nil _ _, hdistinct, identifiers_colorEnum⟩
  refine ⟨⟨declaration, hdeclaration, fun presentation => ?_⟩, (hfaults _).2 fault_levelEnum⟩
  obtain ⟨-, ⟨variants, hmembers, hvariants⟩, -⟩ := hwritten declaration presentation hdeclaration
  obtain ⟨red, rest, hred, hrest, rfl⟩ := List.forall₂_cons_left_iff.1 hvariants
  obtain ⟨blue, others, hblue, hothers, rfl⟩ := List.forall₂_cons_left_iff.1 hrest
  obtain rfl := List.forall₂_nil_left_iff.1 hothers
  have hnames := constants_colorEnum
  simp only [EnumType.constants, colorEnum, List.map_cons, List.map_nil, List.cons.injEq, and_true] at hnames
  refine ⟨red, blue, hmembers, ?_, hred.serialization?_eq, hred.isDefault_iff.2 rfl, ?_,
    hblue.serialization?_eq, ?_⟩
  · exact hred.name_eq.trans hnames.1
  · exact hblue.name_eq.trans hnames.2
  · rw [hblue.isDefault_iff]
    decide

end CustomResource
