import CustomResource.Proofs.Generation.Precedence

/-!
# Clashes of identifiers

The declarations of a run and the four types of its envelope stand in one module, so no two of them may have one
identifier.  A run that gets as far as to compare identifiers (`ResourcePlan.Prepared`) ends in one of two ways,
see `generate_reports_first_clash`: with the text of its plan if all identifiers are distinct, and otherwise with
the first clash, which is described by what stands before the second of the two declarations and not by the
table that the run keeps.
-/

namespace CustomResource

open Source

/-! ## The first repeated identifier -/

/-- An identifier is the first that is repeated if those before it are distinct and it is one of them. -/
theorem firstRepeated?_eq_some_iff {cause : DuplicateDeclaration} :
    ∀ {entries taken : List (String × String)}, (taken.map Prod.fst).Nodup →
      (firstRepeated? taken entries = some cause ↔
        ∃ before after, entries = before ++ (cause.identifier, cause.second) :: after ∧
          ((taken ++ before).map Prod.fst).Nodup ∧ (cause.identifier, cause.first) ∈ taken ++ before)
  | [], taken, _ => by
      constructor
      · intro h
        cases h
      · rintro ⟨before, after, hentries, -⟩
        simp at hentries
  | (identifier, owner) :: rest, taken, htaken => by
      have hassoc : ∀ before, taken ++ (identifier, owner) :: before =
          taken ++ [(identifier, owner)] ++ before := fun before => List.append_cons ..
      rw [firstRepeated?_cons]
      cases hlookup : taken.lookup identifier with
      | some first =>
          have hmem := (lookup_eq_some_iff_mem htaken).1 hlookup
          simp only [Option.map_some, Option.some_or, Option.some.injEq]
          constructor
          · rintro rfl
            exact ⟨[], rest, rfl, by simpa using htaken, by simpa using hmem⟩
          · rintro ⟨before, after, hentries, hnodup, hfirst⟩
            cases before with
            | nil =>
                obtain ⟨⟨rfl, rfl⟩, -⟩ := by simpa using hentries
                rw [List.append_nil, ← lookup_eq_some_iff_mem htaken, hlookup, Option.some.injEq] at hfirst
                rw [hfirst]
            | cons entry before =>
                -- The entry repeats what is taken, so nothing behind it is the first to do so.
                obtain ⟨rfl, -⟩ := List.cons.inj hentries
                rw [List.map_append, List.nodup_append] at hnodup
                exact absurd rfl (hnodup.2.2 identifier (List.mem_map_of_mem hmem) identifier (by simp))
      | none =>
          have hnew := lookup_eq_none_iff_not_mem.1 hlookup
          have hnext : ((taken ++ [(identifier, owner)]).map Prod.fst).Nodup :=
            nodup_map_concat_iff.2 ⟨hnew, htaken⟩
          rw [Option.map_none, Option.none_or, firstRepeated?_eq_some_iff hnext]
          constructor
          · rintro ⟨before, after, rfl, hnodup, hfirst⟩
            refine ⟨(identifier, owner) :: before, after, rfl, ?_, ?_⟩
            · rwa [hassoc]
            · rwa [hassoc]
          · rintro ⟨before, after, hentries, hnodup, hfirst⟩
            cases before with
            | nil =>
                obtain ⟨⟨rfl, -⟩, -⟩ := by simpa using hentries
                rw [List.append_nil] at hfirst
                exact absurd (List.mem_map_of_mem hfirst) hnew
            | cons entry before =>
                obtain ⟨rfl, rfl⟩ := List.cons.inj hentries
                rw [hassoc] at hnodup hfirst
                exact ⟨before, after, rfl, hnodup, hfirst⟩

/-! ## Plans -/

namespace ResourcePlan

/-- The identifiers that a plan declares: those of the envelope, and those of the declarations in order. -/
def identifiers (plan : ResourcePlan) : List String :=
  plan.info.envelopeNames ++ plan.declarations.map (·.output.identifier)

/-- The first clash among the identifiers of a plan.  The identifiers of the envelope and those of the declarations
up to the second of the two are distinct.  Either the second has an identifier of the envelope, or it has that of
one declaration before it, and of no other. -/
inductive FirstClash (plan : ResourcePlan) : DuplicateDeclaration → Prop
  | withEnvelope {before after : List (Planned Declaration)} {second : Planned Declaration}
      (hsplit : plan.declarations = before ++ second :: after)
      (hdistinct : (plan.info.envelopeNames ++ before.map (·.output.identifier)).Nodup)
      (htaken : second.output.identifier ∈ plan.info.envelopeNames) :
      FirstClash plan ⟨second.output.identifier, envelopeOwner, second.name⟩
  | withDeclaration {before after : List (Planned Declaration)} {first second : Planned Declaration}
      (hsplit : plan.declarations = before ++ second :: after)
      (hdistinct : (plan.info.envelopeNames ++ before.map (·.output.identifier)).Nodup)
      (hunique : before.filter (·.output.identifier = second.output.identifier) = [first]) :
      FirstClash plan ⟨second.output.identifier, first.name, second.name⟩

/-- What is taken behind some declarations: the names of the envelope and their identifiers. -/
theorem map_fst_takenNames_append (info : ResourceInfo) (before : List (Planned Declaration)) :
    (info.takenNames ++ before.map fun planned => (planned.output.identifier, planned.name)).map Prod.fst =
      info.envelopeNames ++ before.map (·.output.identifier) := by
  rw [List.map_append, info.map_fst_takenNames, List.map_map]
  rfl

/-- The check for distinct identifiers fails with the first clash of the plan. -/
theorem checkDistinct_eq_error_iff (plan : ResourcePlan) {cause : DuplicateDeclaration} :
    checkDistinct plan.info.takenNames plan.declarations = .error cause ↔ plan.FirstClash cause := by
  have htaken : (plan.info.takenNames.map Prod.fst).Nodup := by
    rw [plan.info.map_fst_takenNames]
    exact plan.info.nodup_envelopeNames
  rw [← failure?_eq_some_iff, failure?_checkDistinct fun _ => rfl, firstRepeated?_eq_some_iff htaken]
  constructor
  · rintro ⟨entries, rest, hsplit, hdistinct, hfirst⟩
    obtain ⟨before, others, hdeclarations, rfl, hothers⟩ := List.map_eq_append_iff.1 hsplit
    obtain ⟨second, after, rfl, hsecond, rfl⟩ := List.map_eq_cons_iff.1 hothers
    obtain ⟨identifier, owner, name⟩ := cause
    obtain ⟨rfl, rfl⟩ := Prod.mk.inj hsecond
    rw [map_fst_takenNames_append] at hdistinct
    have hbefore : (before.map (·.output.identifier)).Nodup := (List.nodup_append.1 hdistinct).2.1
    rcases List.mem_append.1 hfirst with hmem | hmem
    · obtain ⟨taken, htaken, hsame⟩ := List.mem_map.1 hmem
      obtain ⟨rfl, rfl⟩ := Prod.mk.inj hsame
      exact .withEnvelope hdeclarations hdistinct htaken
    · obtain ⟨first, hearlier, hsame⟩ := List.mem_map.1 hmem
      obtain rfl : first.name = owner := congrArg Prod.snd hsame
      exact .withDeclaration hdeclarations hdistinct
        ((filter_eq_singleton_iff hbefore).2 ⟨hearlier, congrArg Prod.fst hsame⟩)
  · intro hclash
    cases hclash with
    | @withEnvelope before after second hsplit hdistinct htaken =>
        refine ⟨_, _, by rw [hsplit, List.map_append, List.map_cons], by rwa [map_fst_takenNames_append], ?_⟩
        exact List.mem_append_left _ (List.mem_map.2 ⟨_, htaken, rfl⟩)
    | @withDeclaration before after first second hsplit hdistinct hunique =>
        refine ⟨_, _, by rw [hsplit, List.map_append, List.map_cons], by rwa [map_fst_takenNames_append], ?_⟩
        obtain ⟨hfirst, hsame⟩ := (filter_eq_singleton_iff (List.nodup_append.1 hdistinct).2.1).1 hunique
        exact List.mem_append_right _ (List.mem_map.2 ⟨first, hfirst, by rw [hsame]⟩)

/-- The check succeeds exactly if all identifiers of the plan are distinct. -/
theorem checkDistinct_eq_ok_iff_nodup (plan : ResourcePlan) :
    checkDistinct plan.info.takenNames plan.declarations = .ok () ↔ plan.identifiers.Nodup := by
  rw [checkDistinct_eq_ok_iff, plan.info.map_fst_takenNames, identifiers, List.nodup_append,
    and_iff_right plan.info.nodup_envelopeNames]
  refine and_congr_right fun _ => ?_
  constructor
  · intro hnew name hname other hother hsame
    obtain ⟨planned, hplanned, rfl⟩ := List.mem_map.1 hother
    exact hnew planned hplanned (hsame ▸ hname)
  · intro hapart planned hplanned hmem
    exact hapart _ hmem _ (List.mem_map_of_mem hplanned) rfl

namespace Prepared

variable {config : Config} {types : TypeTable} {typeName : String} {root : MessageType}
  {presentation : Presentation} {plan : ResourcePlan}

/-- What is left of a run with a prepared plan. -/
theorem generate_eq (h : plan.Prepared config types typeName root presentation) :
    generate config types typeName =
      ((checkDistinct plan.info.takenNames plan.declarations).mapError .duplicateDeclaration).map
        fun _ => fileText config.format (plan.source presentation) := by
  rw [generate, h.generatePlan_eq]
  cases checkDistinct plan.info.takenNames plan.declarations with
  | error cause => rfl
  | ok _ => rfl

/-- A run with a prepared plan fails with clashes only, and then with the first. -/
theorem generate_eq_error_iff (h : plan.Prepared config types typeName root presentation) {error : Error} :
    generate config types typeName = .error error ↔
      ∃ cause, error = .duplicateDeclaration cause ∧ plan.FirstClash cause := by
  rw [h.generate_eq, ← failure?_eq_some_iff, failure?_map, failure?_mapError, Option.map_eq_some_iff]
  simp only [failure?_eq_some_iff, plan.checkDistinct_eq_error_iff]
  constructor
  · rintro ⟨cause, hclash, rfl⟩
    exact ⟨cause, rfl, hclash⟩
  · rintro ⟨cause, rfl, hclash⟩
    exact ⟨cause, hclash, rfl⟩

/-- A run with a prepared plan writes its source exactly if no two identifiers are the same. -/
theorem generate_eq_ok_iff (h : plan.Prepared config types typeName root presentation) {text : String} :
    generate config types typeName = .ok text ↔
      plan.identifiers.Nodup ∧ text = fileText config.format (plan.source presentation) := by
  simp only [h.generate_eq, map_eq_ok_iff, mapError_eq_ok_iff, ← plan.checkDistinct_eq_ok_iff_nodup]
  constructor
  · rintro ⟨_, hdistinct, htext⟩
    exact ⟨hdistinct, htext.symm⟩
  · rintro ⟨hdistinct, rfl⟩
    exact ⟨_, hdistinct, rfl⟩

end Prepared

/-- The items of an enveloped plan are declared under its identifiers. -/
theorem Enveloped.map_name_source {plan : ResourcePlan} (h : plan.Enveloped) (presentation : Presentation) :
    (plan.source presentation).items.map (·.name) = plan.identifiers := by
  rw [source, List.map_append, h.map_name_items, List.map_map, identifiers]
  exact congrArg (plan.info.envelopeNames ++ ·) (List.map_congr_left fun _ _ => name_item presentation _)

end ResourcePlan

/-! ## Runs -/

/-- Run with a root whose types are all declared and whose envelope has its names.  It fails with a repeated
declaration exactly if two of the identifiers of the envelope and of the declarations are the same, and with no
other error.  The error names the first declaration in the order of the plan whose identifier was taken, and before
it the envelope or the one declaration that has the identifier.  So all types of a text that is written have
different identifiers. -/
theorem generate_reports_first_clash (config : Config) (types : TypeTable) (typeName : String) :
    (∀ (root : MessageType) (presentation : Presentation) (plan : ResourcePlan),
      plan.Prepared config types typeName root presentation →
        ((∃ cause, generate config types typeName = .error (.duplicateDeclaration cause)) ↔
          ¬ (plan.info.envelopeNames ++ plan.declarations.map (·.output.identifier)).Nodup) ∧
        (∀ error, generate config types typeName = .error error ↔
          ∃ cause, error = .duplicateDeclaration cause ∧ plan.FirstClash cause) ∧
        ∀ text, generate config types typeName = .ok text ↔
          (plan.info.envelopeNames ++ plan.declarations.map (·.output.identifier)).Nodup ∧
            text = fileText config.format (plan.source presentation)) ∧
    ∀ text, generate config types typeName = .ok text →
      ∃ root presentation plan, ResourcePlan.Prepared config types typeName root presentation plan ∧
        text = fileText config.format (plan.source presentation) ∧
        ((plan.source presentation).items.map (·.name)).Nodup := by
  constructor
  · intro root presentation plan h
    refine ⟨?_, fun _ => h.generate_eq_error_iff, fun _ => h.generate_eq_ok_iff⟩
    constructor
    · rintro ⟨cause, hcause⟩ hnodup
      rw [h.generate_eq_ok_iff.2 ⟨hnodup, rfl⟩] at hcause
      cases hcause
    · intro hrepeated
      cases hrun : generate config types typeName with
      | ok text => exact absurd (h.generate_eq_ok_iff.1 hrun).1 hrepeated
      | error error =>
          obtain ⟨cause, rfl, -⟩ := h.generate_eq_error_iff.1 hrun
          exact ⟨cause, rfl⟩
  · intro text htext
    obtain ⟨plan, presentation, hplan, rfl⟩ := generate_eq_ok_iff.1 htext
    obtain ⟨⟨root, hprepared⟩, -⟩ := generatePlan_eq_ok_iff.1 hplan
    refine ⟨root, presentation, plan, hprepared, rfl, ?_⟩
    rw [(enveloped_of_generatePlan hplan).map_name_source]
    exact (hprepared.generate_eq_ok_iff.1 htext).1

/-- The plan for a root, up to the comparison of its identifiers. -/
def preparedPlan? (config : Config) (types : TypeTable) (root : MessageType) : Option ResourcePlan := do
  let info := ResourceInfo.ofRoot config root
  let moduleName ← (identifier info.package).toOption
  let declarations ← ((types.reachableTypes root).mapM (declareNamed types info)).toOption
  let envelope ← info.envelope.toOption
  return ⟨info, moduleName, envelope, declarations⟩

/-- Where no message and enum share a full name, the plan that can be computed for a root is prepared. -/
theorem prepared_of_preparedPlan? {types : TypeTable} (hnames : ∀ name ∈ types.messages, name ∉ types.enums)
    {config : Config} {typeName : String} {root : MessageType} {presentation : Presentation}
    {plan : ResourcePlan} (hroot : types.message? typeName = some root)
    (hread : config.presentation = .ok presentation) (h : preparedPlan? config types root = some plan) :
    plan.Prepared config types typeName root presentation := by
  have hmem := TypeTable.fullName_mem_names_of_message? hroot
  obtain ⟨-, -, hreachable⟩ := reachable_eq_mapM_reachableTypes hnames (ResourceInfo.ofRoot config root)
    (TypeTable.registered_of_message? hroot) hmem
  simp only [preparedPlan?, bind, Option.bind_eq_some_iff, pure, Option.some.injEq, toOption_eq_some_iff] at h
  obtain ⟨moduleName, hnamed, declarations, hdeclarations, envelope, hwrapped, rfl⟩ := h
  exact ⟨hroot, hread, rfl, hnamed, hreachable.trans hdeclarations, hwrapped⟩

/-- A message that leads to two messages of one name in different scopes, and a message that leads to one with the
name of its list. -/
def clashingFile : Descriptor.File where
  package := some "t"
  messages := [
    { name := some "M"
      fields := [
        { name := some "first", number := some 1, type := some 11, typeName := some ".t.A.Item" },
        { name := some "second", number := some 2, type := some 11, typeName := some ".t.B.Item" }] },
    { name := some "A", messages := [{ name := some "Item" }] },
    { name := some "B", messages := [{ name := some "Item" }] },
    { name := some "N"
      fields := [{ name := some "list", number := some 1, type := some 11, typeName := some ".t.NList" }] },
    { name := some "NList" }]

/-- The types of the clashing messages. -/
def clashingTypes : TypeTable :=
  (Registry.ofFiles [clashingFile]).types

theorem clashingTypes_disjoint : ∀ name ∈ clashingTypes.messages, name ∉ clashingTypes.enums :=
  TypeTable.disjoint_of_keys (by decide +kernel)

/-- A plan of the clashing types that can be computed has the clash that can be computed from its entries. -/
theorem exists_firstClash_clashingTypes {typeName : String} {names : List String}
    {entries : List (String × String)} {cause : DuplicateDeclaration}
    (h : ((clashingTypes.message? typeName).bind (preparedPlan? {} clashingTypes)).map (fun plan =>
      (plan.info.envelopeNames, plan.declarations.map fun planned =>
        (planned.output.identifier, planned.name))) = some (names, entries))
    (hcause : firstRepeated? (names.map (·, envelopeOwner)) entries = some cause) :
    ∃ root presentation plan, ResourcePlan.Prepared {} clashingTypes typeName root presentation plan ∧
      plan.FirstClash cause := by
  obtain ⟨plan, hplan, hparts⟩ := Option.map_eq_some_iff.1 h
  obtain ⟨root, hroot, hprepared⟩ := Option.bind_eq_some_iff.1 hplan
  obtain ⟨hnames, hentries⟩ := Prod.mk.inj hparts
  refine ⟨root, _, plan, prepared_of_preparedPlan? clashingTypes_disjoint hroot rfl hprepared, ?_⟩
  rw [← plan.checkDistinct_eq_error_iff, ← failure?_eq_some_iff, failure?_checkDistinct fun _ => rfl, hentries,
    ResourceInfo.takenNames, hnames]
  exact hcause

/-- The second of two items of one name is reported with the first, and what has the name of the list is reported
with the envelope. -/
theorem clashingTypes_report_first_clash :
    (∃ root presentation plan, ResourcePlan.Prepared {} clashingTypes "t.M" root presentation plan ∧
      generate {} clashingTypes "t.M" = .error (.duplicateDeclaration ⟨"Item", "t.A.Item", "t.B.Item"⟩)) ∧
    ∃ root presentation plan, ResourcePlan.Prepared {} clashingTypes "t.N" root presentation plan ∧
      generate {} clashingTypes "t.N" = .error (.duplicateDeclaration ⟨"NList", envelopeOwner, "t.NList"⟩) := by
  have hreported : ∀ typeName cause, (∃ root presentation plan,
      ResourcePlan.Prepared {} clashingTypes typeName root presentation plan ∧ plan.FirstClash cause) →
        ∃ root presentation plan, ResourcePlan.Prepared {} clashingTypes typeName root presentation plan ∧
          generate {} clashingTypes typeName = .error (.duplicateDeclaration cause) := by
    rintro typeName cause ⟨root, presentation, plan, hprepared, hclash⟩
    obtain ⟨-, herrors, -⟩ :=
      (generate_reports_first_clash {} clashingTypes typeName).1 root presentation plan hprepared
    exact ⟨root, presentation, plan, hprepared, (herrors _).2 ⟨cause, rfl, hclash⟩⟩
  constructor
  · apply hreported
    have hplan : ((clashingTypes.message? "t.M").bind (preparedPlan? {} clashingTypes)).map (fun plan =>
        (plan.info.envelopeNames, plan.declarations.map fun planned =>
          (planned.output.identifier, planned.name))) =
        some (["M", "MList", "MStatus", "MCondition"],
          [("MSpec", "t.M"), ("Item", "t.A.Item"), ("Item", "t.B.Item")]) := by
      decide +kernel
    exact exists_firstClash_clashingTypes hplan (by decide)
  · apply hreported
    have hplan : ((clashingTypes.message? "t.N").bind (preparedPlan? {} clashingTypes)).map (fun plan =>
        (plan.info.envelopeNames, plan.declarations.map fun planned =>
          (planned.output.identifier, planned.name))) =
        some (["N", "NList", "NStatus", "NCondition"], [("NSpec", "t.N"), ("NList", "t.NList")]) := by
      decide +kernel
    exact exists_firstClash_clashingTypes hplan (by decide)

end CustomResource
