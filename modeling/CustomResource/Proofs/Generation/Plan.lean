import CustomResource.Generation
import CustomResource.Proofs.Declaration.Identifier
import CustomResource.Proofs.Declaration.Traversal
import Mathlib.Data.List.Forall2

/-!
# What is generated

A successful run has a plan, and `ResourcePlan.For` says what there is to know of it: the plan declares the
types that the traversal from the root lists, each under an identifier of its own.  Whether a plan refers to
declared types only is then a property of the traversal, see `For.refersToDeclared_iff_namesApart`, and with
it the traversal is breadth-first and complete.
-/

namespace CustomResource

/-! ## Distinct identifiers -/

/-- In a table nothing is found under a name exactly if no entry has the name. -/
theorem lookup_eq_none_iff_not_mem {α : Type} {name : String} {taken : List (String × α)} :
    taken.lookup name = none ↔ name ∉ taken.map Prod.fst := by
  rw [List.lookup_eq_none_iff]
  constructor
  · intro h hmem
    obtain ⟨entry, hentry, rfl⟩ := List.mem_map.1 hmem
    simpa using h entry hentry
  · intro h entry hentry
    rw [bne_iff_ne]
    rintro rfl
    exact h (List.mem_map_of_mem hentry)

/-- In a table of distinct names, what is found under a name is what stands there. -/
theorem lookup_eq_some_iff_mem {α : Type} {name : String} {owner : α} {taken : List (String × α)}
    (hnodup : (taken.map Prod.fst).Nodup) : taken.lookup name = some owner ↔ (name, owner) ∈ taken := by
  rw [List.lookup_eq_some_iff]
  constructor
  · rintro ⟨before, after, rfl, -⟩
    simp
  · intro hmem
    obtain ⟨before, after, rfl⟩ := List.append_of_mem hmem
    refine ⟨before, after, rfl, fun entry hentry => bne_iff_ne.2 fun hsame => ?_⟩
    rw [List.map_append, List.nodup_append] at hnodup
    exact hnodup.2.2 entry.1 (List.mem_map_of_mem hentry) name (by simp) hsame.symm

/-- Where no image is repeated, an image picks out the one member that it is the image of. -/
theorem filter_eq_singleton_iff {α β : Type} [DecidableEq β] {f : α → β} {list : List α} {a : α} {b : β}
    (hnodup : (list.map f).Nodup) : list.filter (f · = b) = [a] ↔ a ∈ list ∧ f a = b := by
  constructor
  · intro h
    have hmem : a ∈ list.filter (f · = b) := by
      rw [h]
      exact List.mem_singleton_self a
    simpa using List.mem_filter.1 hmem
  · rintro ⟨ha, rfl⟩
    obtain ⟨before, after, rfl⟩ := List.append_of_mem ha
    rw [List.map_append, List.map_cons, List.nodup_middle, List.nodup_cons, List.mem_append] at hnodup
    have hother : ∀ part : List α, f a ∉ part.map f → part.filter (f · = f a) = [] := by
      intro part hpart
      rw [List.filter_eq_nil_iff]
      intro other hother hsame
      exact hpart (List.mem_map.2 ⟨other, hother, of_decide_eq_true hsame⟩)
    rw [List.filter_append, hother before fun h => hnodup.1 (.inl h), List.filter_cons_of_pos (by simp),
      hother after fun h => hnodup.1 (.inr h), List.nil_append]

/-- One more image repeats none exactly if it is new. -/
theorem nodup_map_concat_iff {α β : Type} {f : α → β} {list : List α} {a : α} :
    ((list ++ [a]).map f).Nodup ↔ f a ∉ list.map f ∧ (list.map f).Nodup := by
  rw [List.map_append, List.map_singleton, ← List.concat_eq_append, List.nodup_concat]

/-- The check succeeds exactly if all identifiers are new and distinct. -/
theorem checkDistinct_eq_ok_iff {declarations : List (Planned Declaration)} :
    ∀ {taken : List (String × String)}, checkDistinct taken declarations = .ok () ↔
      (declarations.map (·.output.identifier)).Nodup ∧
        ∀ planned ∈ declarations, planned.output.identifier ∉ taken.map Prod.fst := by
  induction declarations with
  | nil => simp [checkDistinct]
  | cons planned rest ih =>
      intro taken
      obtain ⟨name, declaration⟩ := planned
      rw [checkDistinct]
      cases hlookup : taken.lookup declaration.identifier with
      | some owner =>
          simp only [reduceCtorEq, false_iff, not_and]
          intro _ hnew
          refine hnew _ List.mem_cons_self ?_
          obtain ⟨before, after, rfl, _⟩ := List.lookup_eq_some_iff.1 hlookup
          simp
      | none =>
          have hnew := lookup_eq_none_iff_not_mem.1 hlookup
          simp only [ih]
          constructor
          · rintro ⟨hnodup, hrest⟩
            refine ⟨List.nodup_cons.2 ⟨?_, hnodup⟩, ?_⟩
            · intro hmem
              obtain ⟨other, hother, hsame⟩ := List.mem_map.1 hmem
              exact hrest other hother (by rw [hsame]; exact List.mem_cons_self)
            · intro other hother
              rcases List.mem_cons.1 hother with rfl | hother
              · exact hnew
              · exact fun hmem => hrest other hother (List.mem_cons_of_mem _ hmem)
          · rintro ⟨hnodup, hall⟩
            obtain ⟨hfirst, hnodup⟩ := List.nodup_cons.1 hnodup
            refine ⟨hnodup, fun other hother hmem => ?_⟩
            rcases List.mem_cons.1 hmem with hsame | hmem
            · exact hfirst (List.mem_map.2 ⟨other, hother, hsame⟩)
            · exact hall other (List.mem_cons_of_mem _ hother) hmem

/-! ## Plans -/

/-- What a successful run writes is the source of its plan. -/
theorem generate_eq_ok_iff {config : Config} {types : TypeTable} {typeName text : String} :
    generate config types typeName = .ok text ↔
      ∃ plan presentation, generatePlan config types typeName = .ok (plan, presentation) ∧
        text = fileText config.format (plan.source presentation) := by
  rw [generate, map_eq_ok_iff]
  constructor
  · rintro ⟨⟨plan, presentation⟩, hplan, htext⟩
    exact ⟨plan, presentation, hplan, htext.symm⟩
  · rintro ⟨plan, presentation, hplan, htext⟩
    exact ⟨(plan, presentation), hplan, htext.symm⟩

/-- A run whose root is registered. -/
theorem generatePlan_of_message? {config : Config} {types : TypeTable} {typeName : String}
    {root : MessageType} (hroot : types.message? typeName = some root) :
    generatePlan config types typeName = (do
      let presentation ← config.presentation
      let info := ResourceInfo.ofRoot config root
      let moduleName ← (Source.identifier info.package).mapError (.invalidPackage info.package)
      let (envelope, declarations) ←
        planResource types info root (TypeTable.fullName_mem_names_of_message? hroot)
      return (⟨info, moduleName, envelope, declarations⟩, presentation)) := by
  unfold generatePlan
  split
  · next hnone =>
      rw [hnone] at hroot
      cases hroot
  · next other hother =>
      have hsame : other = root := Option.some.inj (hother.symm.trans hroot)
      subst hsame
      rfl

/-- A run whose root is not registered. -/
theorem generatePlan_of_message?_eq_none {config : Config} {types : TypeTable} {typeName : String}
    (hroot : types.message? typeName = none) :
    generatePlan config types typeName = .error (.notFound typeName) := by
  unfold generatePlan
  split
  · rfl
  · next root hother =>
      rw [hother] at hroot
      cases hroot

/-- A plan for a root: it declares what the traversal from the root lists. -/
structure ResourcePlan.For (config : Config) (types : TypeTable) (root : MessageType)
    (plan : ResourcePlan) : Prop where
  info_eq : plan.info = ResourceInfo.ofRoot config root
  registered : types.Registered (.message root)
  traverses : types.Traverses (.message root) (plan.declarations.map (·.output.type))
  declares : ∀ planned ∈ plan.declarations, planned.name = planned.output.type.fullName ∧
    declare types plan.info planned.output.type = .ok planned.output
  nodup : (plan.declarations.map (·.output.identifier)).Nodup

/-- What a plan consists of before its identifiers are compared: the root is found, the texts of the configuration
are read, the module has a name, the types that the root leads to are declared, and the envelope has its names. -/
structure ResourcePlan.Prepared (config : Config) (types : TypeTable) (typeName : String) (root : MessageType)
    (presentation : Presentation) (plan : ResourcePlan) : Prop where
  found : types.message? typeName = some root
  read : config.presentation = .ok presentation
  info_eq : plan.info = ResourceInfo.ofRoot config root
  named : Source.identifier plan.info.package = .ok plan.moduleName
  declared : reachable types plan.info root (TypeTable.fullName_mem_names_of_message? found) =
    .ok plan.declarations
  wrapped : plan.info.envelope = .ok plan.envelope

/-- Nothing but the comparison of identifiers is left of a run with a prepared plan. -/
theorem ResourcePlan.Prepared.generatePlan_eq {config : Config} {types : TypeTable} {typeName : String}
    {root : MessageType} {presentation : Presentation} {plan : ResourcePlan}
    (h : plan.Prepared config types typeName root presentation) :
    generatePlan config types typeName =
      ((checkDistinct plan.info.takenNames plan.declarations).mapError .duplicateDeclaration).map
        fun _ => (plan, presentation) := by
  have hread := h.read
  have hnamed := h.named
  have hdeclared := h.declared
  have hwrapped := h.wrapped
  obtain ⟨info, moduleName, envelope, declarations⟩ := plan
  obtain rfl : info = ResourceInfo.ofRoot config root := h.info_eq
  rw [generatePlan_of_message? h.found, hread]
  simp only [planResource, bind, Except.bind, hnamed, hdeclared, hwrapped, Except.mapError]
  cases checkDistinct (ResourceInfo.ofRoot config root).takenNames declarations with
  | error cause => rfl
  | ok _ => rfl

/-- A plan is made exactly if it is prepared and the check for distinct identifiers succeeds. -/
theorem generatePlan_eq_ok_iff {config : Config} {types : TypeTable} {typeName : String}
    {plan : ResourcePlan} {presentation : Presentation} :
    generatePlan config types typeName = .ok (plan, presentation) ↔
      (∃ root, plan.Prepared config types typeName root presentation) ∧
        checkDistinct plan.info.takenNames plan.declarations = .ok () := by
  constructor
  · intro h
    cases hroot : types.message? typeName with
    | none =>
        rw [generatePlan_of_message?_eq_none hroot] at h
        cases h
    | some root =>
        rw [generatePlan_of_message? hroot] at h
        simp only [planResource, bind_eq_ok_iff, pure_eq_ok_iff, mapError_eq_ok_iff] at h
        obtain ⟨_, hread, moduleName, hnamed, ⟨envelope, declarations⟩, hplanned, hplan⟩ := h
        obtain ⟨_, hreachable, _, henvelope, _, hdistinct, hsame⟩ := hplanned
        rw [Prod.mk.injEq] at hsame hplan
        obtain ⟨rfl, rfl⟩ := hsame
        obtain ⟨rfl, rfl⟩ := hplan
        exact ⟨⟨root, hroot, hread, rfl, hnamed, hreachable, henvelope⟩, hdistinct⟩
  · rintro ⟨⟨root, hprepared⟩, hdistinct⟩
    rw [hprepared.generatePlan_eq, hdistinct]
    rfl

/-- A run that succeeds plans for the root that is looked up. -/
theorem exists_for_of_generatePlan {config : Config} {types : TypeTable} {typeName : String}
    {plan : ResourcePlan} {presentation : Presentation}
    (h : generatePlan config types typeName = .ok (plan, presentation)) :
    ∃ root, types.message? typeName = some root ∧ plan.For config types root := by
  obtain ⟨⟨root, hprepared⟩, hdistinct⟩ := generatePlan_eq_ok_iff.1 h
  obtain ⟨htraverses, hdeclares⟩ := traverses_of_reachable hprepared.declared
  refine ⟨root, hprepared.found, ?_⟩
  exact {
    info_eq := hprepared.info_eq
    registered := TypeTable.registered_of_message? hprepared.found
    traverses := htraverses
    declares := hdeclares
    nodup := (checkDistinct_eq_ok_iff.1 hdistinct).1 }

/-- There is an envelope exactly if its names and that of the spec are identifiers. -/
theorem exists_envelope_iff {info : ResourceInfo} : (∃ envelope, info.envelope = .ok envelope) ↔
    ∀ name ∈ info.specName :: info.envelopeNames, ∃ word, Source.identifier name = .ok word := by
  simp only [ResourceInfo.envelope, ResourceInfo.envelopeNames, declaredIdentifier, bind_eq_ok_iff,
    pure_eq_ok_iff, mapError_eq_ok_iff, List.forall_mem_cons]
  constructor
  · rintro ⟨_, name, hname, spec, hspec, list, hlist, status, hstatus, condition, hcondition, rfl⟩
    exact ⟨⟨spec, hspec⟩, ⟨name, hname⟩, ⟨list, hlist⟩, ⟨status, hstatus⟩, ⟨condition, hcondition⟩,
      List.forall_mem_nil _⟩
  · rintro ⟨⟨spec, hspec⟩, ⟨name, hname⟩, ⟨list, hlist⟩, ⟨status, hstatus⟩, ⟨condition, hcondition⟩, -⟩
    exact ⟨_, name, hname, spec, hspec, list, hlist, status, hstatus, condition, hcondition, rfl⟩

/-- The identifiers of an envelope are the names it is made from. -/
theorem eq_of_envelope {config : Config} {root : MessageType} {envelope : Envelope}
    (h : (ResourceInfo.ofRoot config root).envelope = .ok envelope) :
    let info := ResourceInfo.ofRoot config root
    envelope = ⟨info.name, info.specName, info.listName, info.statusName, info.conditionName⟩ := by
  intro info
  have hname : Naming.IsIdentifierText info.name := by
    simp only [info, ResourceInfo.ofRoot]
    exact Naming.isIdentifierText_upperCamel root.name
  simp only [ResourceInfo.envelope, bind_eq_ok_iff, pure_eq_ok_iff] at h
  obtain ⟨name, hroot, spec, hspec, list, hlist, status, hstatus, condition, hcondition, rfl⟩ := h
  rw [eq_of_declaredIdentifier hname hroot,
    eq_of_declaredIdentifier (hname.append (by decide)) hspec,
    eq_of_declaredIdentifier (hname.append (by decide)) hlist,
    eq_of_declaredIdentifier (hname.append (by decide)) hstatus,
    eq_of_declaredIdentifier (hname.append (by decide)) hcondition]
  rfl

/-- The envelope of a plan has the names of the resource, and no declaration has one of those it declares. -/
structure ResourcePlan.Enveloped (plan : ResourcePlan) : Prop where
  envelope_eq : plan.envelope = ⟨plan.info.name, plan.info.specName, plan.info.listName,
    plan.info.statusName, plan.info.conditionName⟩
  fresh : ∀ planned ∈ plan.declarations, planned.output.identifier ∉ plan.info.envelopeNames

theorem enveloped_of_generatePlan {config : Config} {types : TypeTable} {typeName : String}
    {plan : ResourcePlan} {presentation : Presentation}
    (h : generatePlan config types typeName = .ok (plan, presentation)) : plan.Enveloped := by
  obtain ⟨⟨root, hprepared⟩, hdistinct⟩ := generatePlan_eq_ok_iff.1 h
  constructor
  · have henvelope := hprepared.wrapped
    rw [hprepared.info_eq] at henvelope ⊢
    exact eq_of_envelope henvelope
  · intro planned hplanned hmem
    have hnew := (checkDistinct_eq_ok_iff.1 hdistinct).2 planned hplanned
    rw [ResourceInfo.takenNames, List.map_map] at hnew
    exact hnew (by simpa [Function.comp_def] using hmem)

/-- The envelope declares its names. -/
theorem ResourcePlan.Enveloped.map_name_items {plan : ResourcePlan} (h : plan.Enveloped) :
    (plan.envelope.items plan.info).map (·.name) = plan.info.envelopeNames := by
  rw [h.envelope_eq]
  rfl

theorem ResourcePlan.name_item (presentation : Presentation) (declaration : Declaration) :
    (declaration.item presentation).name = declaration.identifier := by
  cases declaration with
  | message declaration => rfl
  | enum declaration => rfl

namespace ResourcePlan.For

variable {config : Config} {types : TypeTable} {root : MessageType} {plan : ResourcePlan}

/-- Every declaration has the identifier of its type. -/
theorem identifier_eq (h : plan.For config types root) {planned : Planned Declaration}
    (hplanned : planned ∈ plan.declarations) :
    planned.output.identifier = plan.info.identifierOf planned.output.type := by
  have hidentifier := (type_and_identifier_of_declare (h.declares planned hplanned).2).2
  rw [h.info_eq] at hidentifier ⊢
  exact eq_of_declaredIdentifier (isIdentifierText_identifierOf config root _) hidentifier

/-- The root is declared first, as the spec of the resource. -/
theorem exists_root (h : plan.For config types root) :
    ∃ first rest, plan.declarations = first :: rest ∧ first.output.type = .message root ∧
      first.output.identifier = Naming.upperCamel root.name ++ "Spec" := by
  obtain ⟨rest, horder⟩ := h.traverses.exists_cons
  obtain ⟨first, others, hdeclarations, hfirst, -⟩ := List.map_eq_cons_iff.1 horder
  refine ⟨first, others, hdeclarations, hfirst, ?_⟩
  have hmem : first ∈ plan.declarations := by
    rw [hdeclarations]
    exact List.mem_cons_self
  rw [h.identifier_eq hmem, hfirst, h.info_eq, ← specName_ofRoot config root]
  exact if_pos rfl

end ResourcePlan.For

/-! ## References -/

/-- A type that is an identifier, or has one as its last argument, or as the last argument of that, and so on. -/
inductive Source.TypeExpr.EndsIn (identifier : String) : Source.TypeExpr → Prop
  | itself : EndsIn identifier (.path ⟨false, [identifier]⟩ [])
  | argument (target : Source.Path) (before : List Source.TypeExpr) {type : Source.TypeExpr}
      (h : EndsIn identifier type) : EndsIn identifier (.path target (before ++ [type]))

/-- Whatever shape a field has, the type of one value stands last in its type. -/
theorem Shape.endsIn_expr {identifier : String} {value : Source.TypeExpr} (h : value.EndsIn identifier)
    (mapType : MapType) (shape : Shape) : (shape.expr mapType value).EndsIn identifier := by
  cases shape with
  | plain => exact h
  | optional => exact .argument _ [] h
  | boxed => exact .argument _ [] (.argument _ [] h)
  | list => exact .argument _ [] h
  | group => exact .argument _ [] h
  | map key => exact .argument _ [key.expr] h

/-- The type that an emitted field is written with names the declaration of a type: it is what the shape of the
field makes of the identifier, which stands last in it. -/
def FieldOutcome.RefersTo (presentation : Presentation) (declarations : List (Planned Declaration))
    (type : DeclaredType) : FieldOutcome → Prop
  | .mapped field => ∃ planned ∈ declarations, planned.output.type = type ∧
      field.typeExpr presentation =
        field.shape.expr presentation.mapType (.named planned.output.identifier) ∧
      (field.typeExpr presentation).EndsIn planned.output.identifier
  | .omitted .. => False

/-- Every field that leads to a type is emitted, and the type it is written with names the declaration of the
very type that the field leads to. -/
def ResourcePlan.RefersToDeclared (types : TypeTable) (presentation : Presentation)
    (plan : ResourcePlan) : Prop :=
  ∀ planned ∈ plan.declarations, ∀ declaration, planned.output = .message declaration →
    List.Forall₂ (fun field outcome => ∀ type, field.leadsTo? types = some type →
        outcome.RefersTo presentation plan.declarations type)
      declaration.type.fields declaration.fields

/-- An item shows a declaration: it has the declared identifier, and the fields of a struct are the emitted
fields of the message in order, with their identifiers and their types. -/
structure Declaration.ShownBy (presentation : Presentation) (declaration : Declaration) (item : Source.Item) :
    Prop where
  name_eq : item.name = declaration.identifier
  fields_eq : ∀ message, declaration = .message message → ∃ emitted, item.members = .fields emitted ∧
    List.Forall₂ (fun mapped written =>
        written.name = mapped.identifier ∧ written.type = mapped.typeExpr presentation)
      (message.fields.filterMap (·.mapped?)) emitted

theorem Declaration.shownBy_item (presentation : Presentation) (declaration : Declaration) :
    declaration.ShownBy presentation (declaration.item presentation) where
  name_eq := ResourcePlan.name_item presentation declaration
  fields_eq := by
    rintro message rfl
    refine ⟨_, rfl, ?_⟩
    rw [List.forall₂_map_right_iff]
    exact List.forall₂_same.2 fun mapped _ => ⟨rfl, rfl⟩

theorem forall₂_of_mapM {α β E : Type} {f : α → Except E β} :
    ∀ {list : List α} {results : List β}, list.mapM f = .ok results →
      List.Forall₂ (fun a b => f a = .ok b) list results
  | [], results, h => by
      rw [List.mapM_nil, pure_eq_ok_iff] at h
      subst h
      exact .nil
  | first :: rest, results, h => by
      obtain ⟨b, more, hfirst, hrest, rfl⟩ := mapM_cons_eq_ok_iff.1 h
      exact .cons hfirst (forall₂_of_mapM hrest)

/-- The fields of a declared message are declared in order. -/
theorem mapM_declareField {types : TypeTable} {info : ResourceInfo} {type : DeclaredType}
    {declaration : MessageDeclaration} (h : declare types info type = .ok (.message declaration)) :
    declaration.type.fields.mapM (declareField types info) = .ok declaration.fields := by
  cases type with
  | message message =>
      obtain ⟨result, hresult, hsame⟩ := functor_map_eq_ok_iff.1 h
      cases hsame
      obtain ⟨fields, identifier, hfields, _, rfl⟩ := declareMessage_eq_ok_iff.1 hresult
      exact hfields
  | enum enum =>
      obtain ⟨result, _, hsame⟩ := functor_map_eq_ok_iff.1 h
      cases hsame

/-- A field that leads to a type is emitted with the identifier of the type. -/
theorem exists_mapped_of_leadsTo? {types : TypeTable} {info : ResourceInfo} {field : MessageField}
    {outcome : FieldOutcome} {type : DeclaredType} (h : declareField types info field = .ok outcome)
    (htype : field.leadsTo? types = some type) :
    ∃ mapped identifier, outcome = .mapped mapped ∧ mapped.value = .declared type identifier ∧
      declaredIdentifier (info.identifierOf type) = .ok identifier := by
  obtain ⟨kind, hkind, houtcome⟩ := exists_of_declareField h
  have hdeclared : kind.declared? = some type := by
    rw [MessageField.leadsTo?, hkind] at htype
    exact htype
  rcases houtcome with ⟨hnone, _⟩ | ⟨value, shape, _, hvalue, _, rfl⟩
  · rw [declared?_of_valueType_eq_none hnone] at hdeclared
    cases hdeclared
  · obtain ⟨identifier, hsame, hidentifier⟩ := exists_declared_of_valueType hdeclared hvalue
    exact ⟨_, identifier, rfl, Option.some.inj hsame, hidentifier⟩

namespace ResourcePlan.For

variable {config : Config} {types : TypeTable} {root : MessageType} {plan : ResourcePlan}

/-- An emitted field refers to the type it leads to exactly if that type is declared. -/
theorem refersTo_iff (h : plan.For config types root) (presentation : Presentation)
    {field : MessageField} {outcome : FieldOutcome} {type : DeclaredType}
    (hfield : declareField types plan.info field = .ok outcome)
    (htype : field.leadsTo? types = some type) :
    outcome.RefersTo presentation plan.declarations type ↔
      type ∈ plan.declarations.map (·.output.type) := by
  obtain ⟨mapped, identifier, rfl, hvalue, hidentifier⟩ := exists_mapped_of_leadsTo? hfield htype
  constructor
  · rintro ⟨planned, hplanned, htype, _⟩
    exact List.mem_map.2 ⟨planned, hplanned, htype⟩
  · intro hmem
    obtain ⟨planned, hplanned, rfl⟩ := List.mem_map.1 hmem
    have hsame := (type_and_identifier_of_declare (h.declares planned hplanned).2).2
    rw [hidentifier, Except.ok.injEq] at hsame
    have hexpr : mapped.typeExpr presentation =
        mapped.shape.expr presentation.mapType (.named planned.output.identifier) := by
      rw [MappedField.typeExpr, hvalue, hsame]
      rfl
    refine ⟨planned, hplanned, rfl, hexpr, ?_⟩
    rw [hexpr]
    exact Shape.endsIn_expr .itself presentation.mapType mapped.shape

/-- A plan refers to declared types only exactly if the traversal lists what it refers to. -/
theorem refersToDeclared_iff_closed (h : plan.For config types root) (presentation : Presentation) :
    plan.RefersToDeclared types presentation ↔
      ∀ type ∈ plan.declarations.map (·.output.type), ∀ next ∈ types.successors type,
        next ∈ plan.declarations.map (·.output.type) := by
  have hfields : ∀ planned ∈ plan.declarations, ∀ declaration, planned.output = .message declaration →
      List.Forall₂ (fun field outcome => declareField types plan.info field = .ok outcome)
        declaration.type.fields declaration.fields := by
    intro planned hplanned declaration hdeclaration
    have hdeclare := (h.declares planned hplanned).2
    rw [hdeclaration] at hdeclare
    exact forall₂_of_mapM (mapM_declareField hdeclare)
  constructor
  · -- A successor is what some field leads to, and that field refers to its declaration.
    intro hrefers type htype next hnext
    obtain ⟨planned, hplanned, rfl⟩ := List.mem_map.1 htype
    cases hdeclaration : planned.output with
    | enum declaration =>
        rw [hdeclaration] at hnext
        cases hnext
    | message declaration =>
        rw [hdeclaration] at hnext
        obtain ⟨field, hfield, hleads⟩ := List.mem_filterMap.1 hnext
        have hlisted : List.Forall₂ (fun field outcome =>
            (∀ type, field.leadsTo? types = some type →
              type ∈ plan.declarations.map (·.output.type)) ∧
            declareField types plan.info field = .ok outcome)
            declaration.type.fields declaration.fields :=
          (hfields planned hplanned declaration hdeclaration).mp
            (fun _ _ hdeclared hrefersTo =>
              ⟨fun type htype => (h.refersTo_iff presentation hdeclared htype).1
                (hrefersTo type htype), hdeclared⟩)
            (hrefers planned hplanned declaration hdeclaration)
        exact ((List.forall₂_and_left _ _).1 hlisted).1 field hfield next hleads
  · intro hclosed planned hplanned declaration hdeclaration
    have hmem : DeclaredType.message declaration.type ∈ plan.declarations.map (·.output.type) := by
      refine List.mem_map.2 ⟨planned, hplanned, ?_⟩
      rw [hdeclaration]
      rfl
    have hboth := (List.forall₂_and_left _ _).2
      ⟨fun field (hfield : field ∈ declaration.type.fields) => hfield,
        hfields planned hplanned declaration hdeclaration⟩
    refine hboth.imp fun field outcome hfield type htype => ?_
    refine (h.refersTo_iff presentation hfield.2 htype).2 (hclosed _ hmem type ?_)
    exact List.mem_filterMap.2 ⟨field, hfield.1, htype⟩

/-- A plan refers to declared types only exactly if no reachable message and enum share a full name. -/
theorem refersToDeclared_iff_namesApart (h : plan.For config types root)
    (presentation : Presentation) :
    plan.RefersToDeclared types presentation ↔ types.NamesApart (.message root) :=
  (h.refersToDeclared_iff_closed presentation).trans (h.traverses.closed_iff_namesApart h.registered)

end ResourcePlan.For

end CustomResource
