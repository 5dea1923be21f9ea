import CustomResource.Proofs.Generation.Plan

/-!
# Declared and reachable types

A generated module declares every type that is reachable from the root, in breadth-first order, and refers to
no other, as long as no message and enum share a full name.  Where two of them do, only the first that is
referred to is declared, although both are referred to under identifiers of their own.
-/

namespace CustomResource

open Descriptor

/-- Generate from a registry that holds no full name both as a message and as an enum.  Behind the envelope
come the declarations of exactly the types that are reachable from the root, each declared once and under an
identifier of its own, in breadth-first order.  The root is first, declared as the spec of the resource, and
every field that leads to a type refers to it by the identifier of its declaration.  The emitted items have these
identifiers as their names and these fields as their members. -/
theorem generate_declares_reachable_breadth_first {config : Config} {types : TypeTable}
    {typeName text : String} (hnames : ∀ name ∈ types.messages, name ∉ types.enums)
    (h : generate config types typeName = .ok text) :
    ∃ root plan presentation, types.message? typeName = some root ∧
      generatePlan config types typeName = .ok (plan, presentation) ∧
      text = fileText config.format (plan.source presentation) ∧
      (plan.source presentation).items =
        plan.envelope.items plan.info ++ plan.declarations.map (·.output.item presentation) ∧
      (∀ planned ∈ plan.declarations,
        planned.output.ShownBy presentation (planned.output.item presentation)) ∧
      (∀ planned ∈ plan.declarations,
        declare types plan.info planned.output.type = .ok planned.output) ∧
      (plan.declarations.map (·.output.identifier)).Nodup ∧
      (plan.declarations.map (·.output.type)).Nodup ∧
      (∀ type, type ∈ plan.declarations.map (·.output.type) ↔
        types.Reaches (.message root) type) ∧
      (∀ rounds, breadthFirst types.successors (.message root) rounds <+:
        plan.declarations.map (·.output.type)) ∧
      (∀ rounds, plan.declarations.length ≤ rounds →
        breadthFirst types.successors (.message root) rounds =
          plan.declarations.map (·.output.type)) ∧
      (∃ first rest, plan.declarations = first :: rest ∧ first.output.type = .message root ∧
        first.output.identifier = Naming.upperCamel root.name ++ "Spec") ∧
      plan.RefersToDeclared types presentation := by
  obtain ⟨plan, presentation, hplan, htext⟩ := generate_eq_ok_iff.1 h
  obtain ⟨root, hroot, hfor⟩ := exists_for_of_generatePlan hplan
  have hregistered := hfor.registered
  have hapart := TypeTable.namesApart_of_disjoint hregistered hnames
  -- The order repeats itself in one more round, which makes it the breadth-first one.
  have hfixed := hfor.traverses.eq_eraseDups hregistered hapart
  refine ⟨root, plan, presentation, hroot, hplan, htext, rfl, ?_, ?_, hfor.nodup,
    hfor.traverses.nodup, ?_, ?_, ?_, hfor.exists_root, ?_⟩
  · exact fun planned _ => planned.output.shownBy_item presentation
  · exact fun planned hplanned => (hfor.declares planned hplanned).2
  · exact hfor.traverses.mem_iff_reaches hregistered hapart
  · exact breadthFirst_prefix_of_fixed hfixed
  · intro rounds hrounds
    refine hfor.traverses.breadthFirst_eq hregistered hapart ?_
    rw [List.length_map]
    exact hrounds
  · exact (hfor.refersToDeclared_iff_namesApart presentation).2 hapart

/-- A message that refers to others singly, in a map and in a group, and is referred to by them. -/
def cyclicFile : File where
  package := some "t"
  messages := [
    { name := some "M"
      fields := [
        { name := some "next", number := some 1, type := some 11, typeName := some ".t.N" },
        { name := some "by_key", number := some 2, label := some 3, type := some 11
          typeName := some ".t.M.ByKeyEntry" },
        { name := some "ratio", number := some 3, type := some 1 },
        { name := some "color", number := some 4, type := some 14, typeName := some ".t.E" }]
      messages := [
        { name := some "ByKeyEntry"
          fields := [
            { name := some "key", number := some 1, type := some 9 },
            { name := some "value", number := some 2, type := some 11, typeName := some ".t.M" }]
          options := some { mapEntry := some true } }] },
    { name := some "N"
      fields := [
        { name := some "back", number := some 1, type := some 11, typeName := some ".t.M" },
        { name := some "part", number := some 2, label := some 3, type := some 10
          typeName := some ".t.P" }] },
    { name := some "P"
      fields := [{ name := some "color", number := some 1, type := some 14, typeName := some ".t.E" }] }]
  enums := [{ name := some "E", values := [{ name := some "X", number := some 0 }] }]

/-- The types of the cyclic message. -/
def cyclicTypes : TypeTable :=
  (Registry.ofFiles [cyclicFile]).types

theorem TypeTable.disjoint_of_keys {types : TypeTable}
    (h : ∀ name ∈ types.messages.keys, ¬ types.enums.contains name = true) :
    ∀ name ∈ types.messages, name ∉ types.enums := by
  intro name hname
  rw [← Std.ExtTreeMap.contains_iff_mem]
  exact h name (Std.ExtTreeMap.mem_keys.2 hname)

theorem cyclicTypes_disjoint : ∀ name ∈ cyclicTypes.messages, name ∉ cyclicTypes.enums :=
  TypeTable.disjoint_of_keys (by decide +kernel)

theorem generatePlan_cyclicTypes : ∃ result, generatePlan {} cyclicTypes "t.M" = .ok result ∧
    result.1.declarations.map (·.output.identifier) = ["MSpec", "N", "EType", "P"] :=
  exists_of_map_toOption (by decide +kernel)

/-- The types of the cyclic message are declared once, in the order of their first references. -/
theorem cyclicTypes_declared_breadth_first :
    (∀ name ∈ cyclicTypes.messages, name ∉ cyclicTypes.enums) ∧
      ∃ text plan presentation, generate {} cyclicTypes "t.M" = .ok text ∧
        generatePlan {} cyclicTypes "t.M" = .ok (plan, presentation) ∧
        plan.declarations.map (·.output.identifier) = ["MSpec", "N", "EType", "P"] ∧
        plan.RefersToDeclared cyclicTypes presentation := by
  obtain ⟨result, hresult, hidentifiers⟩ := generatePlan_cyclicTypes
  have htext := generate_eq_ok_iff.2 ⟨result.1, result.2, hresult, rfl⟩
  obtain ⟨root, plan, presentation, hroot, hplan, _, _, _, _, _, _, _, _, _, _, hrefers⟩ :=
    generate_declares_reachable_breadth_first cyclicTypes_disjoint htext
  rw [hplan, Except.ok.injEq] at hresult
  subst hresult
  exact ⟨cyclicTypes_disjoint, _, plan, presentation, htext, hplan, hidentifiers, hrefers⟩

/-- Generate from any registry.  Every field refers to the declaration of the very type it leads to exactly if
no reachable message and enum share a full name. -/
theorem generate_refersToDeclared_iff {config : Config} {types : TypeTable} {typeName text : String}
    (h : generate config types typeName = .ok text) :
    ∃ root plan presentation, types.message? typeName = some root ∧
      generatePlan config types typeName = .ok (plan, presentation) ∧
      text = fileText config.format (plan.source presentation) ∧
      (plan.RefersToDeclared types presentation ↔
        ∀ message enum, types.Reaches (.message root) (.message message) →
          types.Reaches (.message root) (.enum enum) → message.fullName ≠ enum.fullName) := by
  obtain ⟨plan, presentation, hplan, htext⟩ := generate_eq_ok_iff.1 h
  obtain ⟨root, hroot, hfor⟩ := exists_for_of_generatePlan hplan
  exact ⟨root, plan, presentation, hroot, hplan, htext,
    hfor.refersToDeclared_iff_namesApart presentation⟩

/-- A message and an enum of one full name, both referred to by the fields of a third type. -/
def sharedNameFile : File where
  package := some "t"
  messages := [
    { name := some "M"
      fields := [
        { name := some "first", number := some 1, type := some 11, typeName := some ".t.A" },
        { name := some "second", number := some 2, type := some 14, typeName := some ".t.A" }] },
    { name := some "A" }]
  enums := [{ name := some "A", values := [{ name := some "X", number := some 0 }] }]

/-- The types with a shared name. -/
def sharedNameTypes : TypeTable :=
  (Registry.ofFiles [sharedNameFile]).types

/-- The message of the shared name. -/
def sharedNameMessage : MessageType :=
  ⟨"t.A", { name := some "A", fields := [], options := none, oneofs := [], package := "t", dialect := .proto2 }⟩

/-- The enum of the shared name. -/
def sharedNameEnum : EnumType :=
  ⟨"t.A", { name := some "A", values := [{ name := some "X", number := some 0 }] }⟩

theorem sharedNameTypes_not_apart {root : MessageType}
    (hroot : sharedNameTypes.message? "t.M" = some root) :
    sharedNameTypes.Reaches (.message root) (.message sharedNameMessage) ∧
      sharedNameTypes.Reaches (.message root) (.enum sharedNameEnum) := by
  have hsuccessors : (sharedNameTypes.message? "t.M").map
      (fun root => sharedNameTypes.successors (.message root)) =
        some [.message sharedNameMessage, .enum sharedNameEnum] := by
    decide +kernel
  rw [hroot, Option.map_some, Option.some.injEq] at hsuccessors
  constructor
  · exact .single (by rw [hsuccessors]; exact List.mem_cons_self)
  · exact .single (by rw [hsuccessors]; exact List.mem_cons_of_mem _ List.mem_cons_self)

theorem generatePlan_sharedNameTypes : ∃ result, generatePlan {} sharedNameTypes "t.M" = .ok result ∧
    (result.1.source result.2).items.map (·.name) =
      ["M", "MList", "MStatus", "MCondition", "MSpec", "A"] :=
  exists_of_map_toOption (by decide +kernel)

/-- Of a message and an enum that share a full name only the first is declared. -/
theorem sharedNameTypes_not_refersToDeclared :
    ∃ text plan presentation, generate {} sharedNameTypes "t.M" = .ok text ∧
      generatePlan {} sharedNameTypes "t.M" = .ok (plan, presentation) ∧
      ¬ plan.RefersToDeclared sharedNameTypes presentation := by
  obtain ⟨result, hresult, _⟩ := generatePlan_sharedNameTypes
  have htext := generate_eq_ok_iff.2 ⟨result.1, result.2, hresult, rfl⟩
  obtain ⟨root, plan, presentation, hroot, hplan, _, hiff⟩ := generate_refersToDeclared_iff htext
  obtain ⟨hmessage, henum⟩ := sharedNameTypes_not_apart hroot
  refine ⟨_, plan, presentation, htext, hplan, fun hrefers => ?_⟩
  exact hiff.1 hrefers sharedNameMessage sharedNameEnum hmessage henum rfl

/-- A module may refer to a type that it does not declare. -/
theorem exists_generate_undeclared_reference :
    ∃ (files : FileSet) (typeName text : String) (plan : ResourcePlan) (presentation : Presentation),
      generate {} (Registry.ofFiles files).types typeName = .ok text ∧
      generatePlan {} (Registry.ofFiles files).types typeName = .ok (plan, presentation) ∧
      "AType" ∉ (plan.source presentation).items.map (·.name) ∧
      ¬ plan.RefersToDeclared (Registry.ofFiles files).types presentation := by
  obtain ⟨⟨plan, presentation⟩, hplan, hitems⟩ := generatePlan_sharedNameTypes
  obtain ⟨root, hroot, hfor⟩ := exists_for_of_generatePlan hplan
  obtain ⟨hmessage, henum⟩ := sharedNameTypes_not_apart hroot
  have htext := generate_eq_ok_iff.2 ⟨plan, presentation, hplan, rfl⟩
  refine ⟨[sharedNameFile], "t.M", _, plan, presentation, htext, hplan, ?_, ?_⟩
  · rw [hitems]
    decide
  · intro hrefers
    have hapart := (hfor.refersToDeclared_iff_namesApart presentation).1 hrefers
    exact hapart sharedNameMessage sharedNameEnum hmessage henum rfl

end CustomResource
