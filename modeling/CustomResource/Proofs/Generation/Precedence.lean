import CustomResource.Proofs.Configuration
import CustomResource.Proofs.Generation.Coverage
import Mathlib.Data.List.Infix

/-!
# Which failure is reported

A run looks at its root, at the texts of its configuration, at the name of the module, at every reachable
type, at the envelope and at repeated identifiers, in this order.  It succeeds exactly if nothing is wrong with
any of them, and it reports the first thing that is, see `generate_reports_first_failure`.

What is wrong with a part is told without the run: which text cannot be read (`Config.unreadable?`), what becomes
of each type alone, and which identifier is the first to repeat another (`firstRepeated?`).  The order of the
types is that of the whole graph, as if none of them failed.
-/

namespace CustomResource

open Source

/-! ## Repeated identifiers -/

/-- The first of some entries, each an identifier with its owner, whose identifier is taken or that of an entry
before it. -/
def firstRepeated? (taken entries : List (String × String)) : Option DuplicateDeclaration :=
  (entries.inits.zip entries).findSome? fun (before, identifier, owner) =>
    ((taken ++ before).lookup identifier).map fun first => ⟨identifier, first, owner⟩

theorem firstRepeated?_cons (taken rest : List (String × String)) (identifier owner : String) :
    firstRepeated? taken ((identifier, owner) :: rest) =
      ((taken.lookup identifier).map fun first => ⟨identifier, first, owner⟩).or
        (firstRepeated? (taken ++ [(identifier, owner)]) rest) := by
  simp only [firstRepeated?, List.inits_cons, List.zip_cons_cons, List.findSome?_cons, List.append_nil,
    List.zip_map_left, List.findSome?_map, Function.comp_def, Prod.map, id_eq, List.append_assoc,
    List.cons_append, List.nil_append]
  cases taken.lookup identifier <;> rfl

/-- No identifier repeats another exactly if all are distinct. -/
theorem firstRepeated?_eq_none_iff :
    ∀ {entries taken : List (String × String)}, (taken.map Prod.fst).Nodup →
      (firstRepeated? taken entries = none ↔ ((taken ++ entries).map Prod.fst).Nodup)
  | [], taken, htaken => by
      rw [List.append_nil]
      exact iff_of_true rfl htaken
  | (identifier, owner) :: rest, taken, htaken => by
      have hassoc : taken ++ (identifier, owner) :: rest = taken ++ [(identifier, owner)] ++ rest :=
        List.append_cons ..
      rw [firstRepeated?_cons, Option.or_eq_none_iff, Option.map_eq_none_iff]
      cases hlookup : taken.lookup identifier with
      | some first =>
          -- The identifier is one of those taken, so it stands twice in the list.
          have hmem : identifier ∈ taken.map Prod.fst := by
            obtain ⟨before, after, rfl, _⟩ := List.lookup_eq_some_iff.1 hlookup
            simp
          simp only [reduceCtorEq, false_and, false_iff]
          intro hnodup
          rw [List.map_append, List.nodup_append] at hnodup
          exact hnodup.2.2 identifier hmem identifier (by simp) rfl
      | none =>
          have hnew := lookup_eq_none_iff_not_mem.1 hlookup
          have hnext : ((taken ++ [(identifier, owner)]).map Prod.fst).Nodup :=
            nodup_map_concat_iff.2 ⟨hnew, htaken⟩
          rw [hassoc, ← firstRepeated?_eq_none_iff hnext]
          exact and_iff_right rfl

/-- The check for distinct declarations fails at the first identifier that is repeated. -/
theorem failure?_checkDistinct :
    ∀ {declarations : List (Planned Declaration)} {taken before : List (String × String)},
      (∀ identifier, taken.lookup identifier = before.lookup identifier) →
      failure? (checkDistinct taken declarations) =
        firstRepeated? before (declarations.map fun planned => (planned.output.identifier, planned.name))
  | [], _, _, _ => rfl
  | ⟨name, declaration⟩ :: rest, taken, before, hsame => by
      rw [checkDistinct, List.map_cons, firstRepeated?_cons, hsame]
      cases hlookup : before.lookup declaration.identifier with
      | some first => rfl
      | none =>
          refine failure?_checkDistinct fun identifier => ?_
          -- The check puts what is taken in front, where it is found as well as at the end.
          rw [List.lookup_append, List.lookup_cons, List.lookup_cons, List.lookup_nil, hsame]
          by_cases hidentifier : identifier = declaration.identifier
          · rw [hidentifier, beq_self_eq_true, hlookup]
            rfl
          · rw [beq_false_of_ne hidentifier]
            exact Option.or_none.symm

/-- The names that the envelope declares are distinct: each but the first has a suffix of its own. -/
theorem ResourceInfo.nodup_envelopeNames (info : ResourceInfo) : info.envelopeNames.Nodup := by
  have hsuffixes : ["", "List", "Status", "Condition"].map (info.name ++ ·) = info.envelopeNames := by
    simp [envelopeNames, listName, statusName, conditionName]
  rw [← hsuffixes]
  exact List.Nodup.map (fun _ _ hsame => String.append_right_inj _ |>.1 hsame) (by decide)

theorem ResourceInfo.map_fst_takenNames (info : ResourceInfo) :
    info.takenNames.map Prod.fst = info.envelopeNames := by
  rw [takenNames, List.map_map]
  exact List.map_id _

/-! ## Runs -/

theorem failure?_declareNamed (types : TypeTable) (info : ResourceInfo) (type : DeclaredType) :
    failure? (declareNamed types info type) =
      (failure? (declare types info type)).map (.generation type.fullName) := by
  rw [declareNamed, failure?_mapError, failure?_map]

/-- The identifiers of a run's declarations are those of their types. -/
theorem map_entry_of_mapM_declareNamed {config : Config} {types : TypeTable} {root : MessageType}
    {order : List DeclaredType} {declarations : List (Planned Declaration)}
    (h : order.mapM (declareNamed types (.ofRoot config root)) = .ok declarations) :
    declarations.map (fun planned => (planned.output.identifier, planned.name)) =
      order.map fun type => ((ResourceInfo.ofRoot config root).identifierOf type, type.fullName) := by
  refine map_eq_of_mapM (fun type planned hplanned => ?_) h
  obtain ⟨hname, hdeclare⟩ := declareNamed_eq_ok_iff.1 hplanned
  have hidentifier := (type_and_identifier_of_declare hdeclare).2
  rw [hname, eq_of_declaredIdentifier (isIdentifierText_identifierOf config root type) hidentifier]

theorem findSome?_id_cons {α : Type} (first : Option α) (rest : List (Option α)) :
    (first :: rest).findSome? id = first.or (rest.findSome? id) := by
  cases first <;> rfl

/-- What is wrong with each part of a run for a root, in the order in which the parts are looked at: the texts
of the configuration, the name of the module, the types in a given order, the envelope and repeated
identifiers. -/
def runFailures (config : Config) (types : TypeTable) (root : MessageType) (order : List DeclaredType) :
    List (Option Error) :=
  let info := ResourceInfo.ofRoot config root
  [config.unreadable?.map .invalidAttribute,
    (failure? (identifier info.package)).map (.invalidPackage info.package),
    order.findSome? fun type => (failure? (declare types info type)).map (.generation type.fullName),
    (failure? info.envelope).map (.generation info.fullName),
    (firstRepeated? info.takenNames
      (order.map fun type => (info.identifierOf type, type.fullName))).map .duplicateDeclaration]

/-- A run whose root is registered fails with the first of its failures, where the types come in the order in
which it declares them. -/
theorem failure?_generate {config : Config} {types : TypeTable} {typeName : String} {root : MessageType}
    (hroot : types.message? typeName = some root) {order : List DeclaredType}
    (hreachable : reachable types (.ofRoot config root) root
      (TypeTable.fullName_mem_names_of_message? hroot) =
        order.mapM (declareNamed types (.ofRoot config root))) :
    failure? (generate config types typeName) = (runFailures config types root order).findSome? id := by
  let info := ResourceInfo.ofRoot config root
  let entries := order.map fun type => (info.identifierOf type, type.fullName)
  have hmem := TypeTable.fullName_mem_names_of_message? hroot
  have htypes : failure? (reachable types info root hmem) =
      order.findSome? fun type => (failure? (declare types info type)).map (.generation type.fullName) := by
    rw [hreachable, failure?_mapM]
    simp only [failure?_declareNamed]
    rfl
  -- Which identifiers are repeated does not depend on the declarations, only on the order of their types.
  have hdistinct : ∀ declarations, reachable types info root hmem = .ok declarations →
      failure? (checkDistinct info.takenNames declarations) = firstRepeated? info.takenNames entries := by
    intro declarations hdeclarations
    rw [hreachable] at hdeclarations
    rw [failure?_checkDistinct fun _ => rfl, map_entry_of_mapM_declareNamed hdeclarations]
  have hplanned : failure? (planResource types info root hmem) =
      (failure? (reachable types info root hmem)).or
        (((failure? info.envelope).map (.generation info.fullName)).or
          ((firstRepeated? info.takenNames entries).map .duplicateDeclaration)) := by
    rw [← failure?_mapError info.envelope]
    refine failure?_bind fun declarations hdeclarations => failure?_bind fun envelope _ => ?_
    rw [← hdistinct declarations hdeclarations, ← failure?_mapError]
    exact failure?_bind_eq_left fun _ => rfl
  rw [generate, failure?_map, generatePlan_of_message? hroot]
  simp only [runFailures, findSome?_id_cons, List.findSome?_nil, Option.or_none]
  rw [← failure?_presentation, ← failure?_mapError (identifier _), ← htypes, ← hplanned]
  refine failure?_bind fun presentation _ => failure?_bind fun moduleName _ => ?_
  exact failure?_bind_eq_left fun _ => rfl

/-- Whatever a run whose root is registered fails with, one of its parts fails with. -/
theorem failsOnlyWith_generate {config : Config} {types : TypeTable} {typeName : String}
    {root : MessageType} (hroot : types.message? typeName = some root) {p : Error → Prop}
    (hattribute : ∀ text, p (.invalidAttribute text))
    (hpackage : let info := ResourceInfo.ofRoot config root
      ∀ cause, identifier info.package = .error cause → p (.invalidPackage info.package cause))
    (htypes : ∀ type cause, types.Registered type →
      declare types (.ofRoot config root) type = .error cause → p (.generation type.fullName cause))
    (henvelope : let info := ResourceInfo.ofRoot config root
      ∀ cause, info.envelope = .error cause → p (.generation info.fullName cause))
    (hduplicate : ∀ cause, p (.duplicateDeclaration cause)) :
    FailsOnlyWith p (generate config types typeName) := by
  have hmem := TypeTable.fullName_mem_names_of_message? hroot
  have hregistered := TypeTable.registered_of_message? hroot
  obtain ⟨order, horder, hreachable⟩ := exists_traverses_reachable types (.ofRoot config root) hmem
  intro error herror
  rw [← failure?_eq_some_iff, failure?_generate hroot hreachable] at herror
  obtain ⟨failure, hfailure, hsame⟩ := List.exists_of_findSome?_eq_some herror
  obtain rfl : failure = some error := hsame
  simp only [runFailures, List.mem_cons, List.not_mem_nil, or_false] at hfailure
  rcases hfailure with hfailure | hfailure | hfailure | hfailure | hfailure
  · obtain ⟨text, -, rfl⟩ := Option.map_eq_some_iff.1 hfailure.symm
    exact hattribute text
  · obtain ⟨cause, hcause, rfl⟩ := Option.map_eq_some_iff.1 hfailure.symm
    exact hpackage cause (failure?_eq_some_iff.1 hcause)
  · obtain ⟨type, htype, hfailed⟩ := List.exists_of_findSome?_eq_some hfailure.symm
    obtain ⟨cause, hcause, rfl⟩ := Option.map_eq_some_iff.1 hfailed
    exact htypes type cause ((horder.reaches type htype).registered hregistered)
      (failure?_eq_some_iff.1 hcause)
  · obtain ⟨cause, hcause, rfl⟩ := Option.map_eq_some_iff.1 hfailure.symm
    exact henvelope cause (failure?_eq_some_iff.1 hcause)
  · obtain ⟨cause, -, rfl⟩ := Option.map_eq_some_iff.1 hfailure.symm
    exact hduplicate cause

/-- No part of a run fails exactly if every part is as it should be. -/
theorem findSome?_runFailures_eq_none_iff {config : Config} {types : TypeTable} {root : MessageType}
    {order : List DeclaredType} :
    let info := ResourceInfo.ofRoot config root
    (runFailures config types root order).findSome? id = none ↔
      ((∀ text ∈ config.derives, (typePath? text).isSome) ∧
        ∀ configured ∈ config.typeAttributes ++ config.fieldAttributes, (attributes? configured.2).isSome) ∧
      (∃ moduleName, identifier info.package = .ok moduleName) ∧
      (∀ type ∈ order, ∃ declaration, declare types info type = .ok declaration) ∧
      (∀ name ∈ info.specName :: info.envelopeNames, ∃ word, identifier name = .ok word) ∧
      (info.envelopeNames ++ order.map info.identifierOf).Nodup := by
  intro info
  have htaken := info.map_fst_takenNames
  have hrepeated : firstRepeated? info.takenNames
      (order.map fun type => (info.identifierOf type, type.fullName)) = none ↔
        (info.envelopeNames ++ order.map info.identifierOf).Nodup := by
    rw [firstRepeated?_eq_none_iff (by rw [htaken]; exact info.nodup_envelopeNames), List.map_append, htaken,
      List.map_map]
    rfl
  simp only [runFailures, findSome?_id_cons, List.findSome?_nil, Option.or_none, Option.or_eq_none_iff,
    Option.map_eq_none_iff, List.findSome?_eq_none_iff, failure?_eq_none_iff]
  rw [unreadable?_eq_none_iff, exists_envelope_iff, hrepeated]

/-- Generate from a registry that holds no full name both as a message and as an enum.  Without a root the run
reports that.  With a root it reports the first of what is wrong with the texts of the configuration, with the
name of the module, with a type, with the envelope and with repeated identifiers, where the types are those
reachable from the root in breadth-first order.  It has a text exactly if nothing is wrong with any of them, and
a configured text that cannot be read is reported whatever the types are. -/
theorem generate_reports_first_failure {types : TypeTable}
    (hnames : ∀ name ∈ types.messages, name ∉ types.enums) (config : Config) (typeName : String) :
    (types.message? typeName = none → generate config types typeName = .error (.notFound typeName)) ∧
    ∀ root, types.message? typeName = some root →
      let info := ResourceInfo.ofRoot config root
      let order := types.reachableTypes root
      (∀ type, type ∈ order ↔ types.Reaches (.message root) type) ∧
      (∀ rounds, types.names.length ≤ rounds →
        breadthFirst types.successors (.message root) rounds = order) ∧
      (∀ error, generate config types typeName = .error error ↔
        List.findSome? id
          [config.unreadable?.map .invalidAttribute,
            (failure? (identifier info.package)).map (.invalidPackage info.package),
            order.findSome? fun type =>
              (failure? (declare types info type)).map (.generation type.fullName),
            (failure? info.envelope).map (.generation info.fullName),
            (firstRepeated? info.takenNames
              (order.map fun type => (info.identifierOf type, type.fullName))).map
                .duplicateDeclaration] = some error) ∧
      (∀ text, config.unreadable? = some text →
        generate config types typeName = .error (.invalidAttribute text)) ∧
      ((∃ text, generate config types typeName = .ok text) ↔
        ((∀ text ∈ config.derives, (typePath? text).isSome) ∧
          ∀ configured ∈ config.typeAttributes ++ config.fieldAttributes,
            (attributes? configured.2).isSome) ∧
        (∃ moduleName, identifier info.package = .ok moduleName) ∧
        (∀ type, types.Reaches (.message root) type →
          ∃ declaration, declare types info type = .ok declaration) ∧
        (∀ name ∈ info.specName :: info.envelopeNames, ∃ word, identifier name = .ok word) ∧
        (info.envelopeNames ++ order.map info.identifierOf).Nodup) := by
  constructor
  · intro hroot
    rw [generate, generatePlan_of_message?_eq_none hroot]
    rfl
  · intro root hroot info order
    have hregistered := TypeTable.registered_of_message? hroot
    have hmem := TypeTable.fullName_mem_names_of_message? hroot
    obtain ⟨hreaches, hrounds, hreachable⟩ :=
      reachable_eq_mapM_reachableTypes hnames info hregistered hmem
    have hfailure : failure? (generate config types typeName) =
        (runFailures config types root order).findSome? id := failure?_generate hroot hreachable
    refine ⟨hreaches, hrounds, ?_, ?_, ?_⟩
    · intro error
      rw [← failure?_eq_some_iff, hfailure]
      rfl
    · intro text htext
      rw [← failure?_eq_some_iff, hfailure, runFailures, htext]
      rfl
    · refine failure?_eq_none_iff.symm.trans ?_
      rw [hfailure]
      refine findSome?_runFailures_eq_none_iff.trans ?_
      simp only [← hreaches]
      rfl

/-- A message that leads to two types that fail: one refers to nothing, the other has no values. -/
def faultyFile : Descriptor.File where
  package := some "t"
  messages := [
    { name := some "M"
      fields := [
        { name := some "first", number := some 1, type := some 11, typeName := some ".t.A" },
        { name := some "second", number := some 2, type := some 14, typeName := some ".t.E" }] },
    { name := some "A"
      fields := [{ name := some "next", number := some 1, type := some 11, typeName := some ".t.B" }] }]
  enums := [{ name := some "E" }]

/-- The types that fail. -/
def faultyTypes : TypeTable :=
  (Registry.ofFiles [faultyFile]).types

/-- A configuration with an attribute that cannot be read and a module name that is no identifier. -/
def faultyConfig : Config where
  derives := ["Clone"]
  typeAttributes := [(".", "#[")]
  package := some "1"

theorem faultyTypes_disjoint : ∀ name ∈ faultyTypes.messages, name ∉ faultyTypes.enums :=
  TypeTable.disjoint_of_keys (by decide +kernel)

/-- Of several failures the first is reported: the attribute, then the module name, then the first type. -/
theorem faultyTypes_report_first_failure :
    (∀ name ∈ faultyTypes.messages, name ∉ faultyTypes.enums) ∧
      generate faultyConfig faultyTypes "t.M" = .error (.invalidAttribute "#[") ∧
      generate { faultyConfig with typeAttributes := [] } faultyTypes "t.M" =
        .error (.invalidPackage "1" .notIdentifier) ∧
      generate {} faultyTypes "t.M" =
        .error (.generation "t.A" (.unresolvedType "t.A.next" ".t.B")) := by
  have hfound : ∀ config error, (faultyTypes.message? "t.M").map (fun root =>
      (runFailures config faultyTypes root (faultyTypes.reachableTypes root)).findSome? id) =
        some (some error) →
      generate config faultyTypes "t.M" = .error error := by
    intro config error hfailures
    obtain ⟨root, hroot, hfailure⟩ := Option.map_eq_some_iff.1 hfailures
    obtain ⟨-, -, hreported, -, -⟩ :=
      (generate_reports_first_failure faultyTypes_disjoint config "t.M").2 root hroot
    exact (hreported error).2 hfailure
  refine ⟨faultyTypes_disjoint, hfound _ _ ?_, hfound _ _ ?_, hfound _ _ ?_⟩
  · decide +kernel
  · decide +kernel
  · decide +kernel

end CustomResource
