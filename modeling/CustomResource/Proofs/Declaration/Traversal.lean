import CustomResource.Declaration.Reachable
import CustomResource.Proofs.Planner.Failure

/-!
# The traversal of the type graph

The drain that declares the types reachable from a root goes through them in an order of its own, which
`TypeTable.Traverses` describes: every type that is listed or referred to has its name listed once, in the
order of first references, with the first type of that name.

Whether the order holds every reachable type is a matter of names.  A message and an enum may share a full
name, and then one of them is passed over.  Where no reachable two do, the order is the breadth-first one.

The order does not depend on which types fail.  A drain that goes on where one of them does, `surveyStep`, lists
them all, and a run declares the types in that order up to the first failure, see `exists_traverses_reachable`.
-/

namespace CustomResource

open Request

/-! ## Reachability -/

namespace TypeTable

variable {types : TypeTable} {root : DeclaredType}

/-- A type is reachable from another along references of fields. -/
def Reaches (types : TypeTable) : DeclaredType → DeclaredType → Prop :=
  Relation.ReflTransGen fun type next => next ∈ types.successors type

theorem Reaches.registered {type : DeclaredType} (h : types.Reaches root type)
    (hroot : types.Registered root) : types.Registered type := by
  cases h with
  | refl => exact hroot
  | tail _ hstep => exact registered_of_mem_successors hstep

/-- No message and enum that are reachable share a full name. -/
def NamesApart (types : TypeTable) (root : DeclaredType) : Prop :=
  ∀ message enum, types.Reaches root (.message message) → types.Reaches root (.enum enum) →
    message.fullName ≠ enum.fullName

/-- A table that holds no full name twice keeps names apart. -/
theorem namesApart_of_disjoint (hroot : types.Registered root)
    (h : ∀ name ∈ types.messages, name ∉ types.enums) : types.NamesApart root := by
  intro message enum hmessage henum hname
  have hmem := hmessage.registered hroot
  have hother := henum.registered hroot
  simp only [Registered] at hmem hother
  rw [hname] at hmem
  exact h enum.fullName
    (Std.ExtTreeMap.mem_iff_isSome_getElem?.2 (Option.isSome_of_eq_some hmem))
    (Std.ExtTreeMap.mem_iff_isSome_getElem?.2 (Option.isSome_of_eq_some hother))

/-- Where names are kept apart, a reachable type is told by its full name. -/
theorem NamesApart.eq_of_fullName (h : types.NamesApart root) (hroot : types.Registered root)
    {first second : DeclaredType} (hfirst : types.Reaches root first)
    (hsecond : types.Reaches root second) (hname : first.fullName = second.fullName) :
    first = second := by
  have hmem := hfirst.registered hroot
  have hother := hsecond.registered hroot
  cases first with
  | message first =>
      cases second with
      | message second =>
          simp only [Registered] at hmem hother
          simp only [DeclaredType.fullName] at hname
          rw [hname, hother, Option.some.injEq] at hmem
          cases first
          cases second
          cases hname
          cases hmem
          rfl
      | enum second => exact absurd hname (h first second hfirst hsecond)
  | enum first =>
      cases second with
      | message second => exact absurd hname.symm (h second first hsecond hfirst)
      | enum second =>
          simp only [Registered] at hmem hother
          simp only [DeclaredType.fullName] at hname
          rw [hname, hother, Option.some.injEq] at hmem
          cases first
          cases second
          cases hname
          cases hmem
          rfl

/-! ## Orders -/

/-- An order in which a traversal lists types.  The names are those of the root and of all successors of
what is listed, each with the first type of that name. -/
structure Traverses (types : TypeTable) (root : DeclaredType) (order : List DeclaredType) : Prop where
  names_eq : order.map (·.fullName) =
    ((root :: order.flatMap types.successors).map (·.fullName)).eraseDups
  first : ∀ type ∈ order, (root :: order.flatMap types.successors).find?
    (fun other => other.fullName == type.fullName) = some type
  reaches : ∀ type ∈ order, types.Reaches root type

namespace Traverses

variable {order : List DeclaredType}

theorem nodup (h : types.Traverses root order) : order.Nodup := by
  have hnames := nodup_eraseDups ((root :: order.flatMap types.successors).map (·.fullName))
  rw [← h.names_eq] at hnames
  exact hnames.of_map

/-- Some type is listed under the name of every type that is referred to. -/
theorem exists_mem (h : types.Traverses root order) {type : DeclaredType}
    (htype : type ∈ root :: order.flatMap types.successors) :
    ∃ listed ∈ order, listed.fullName = type.fullName := by
  have hname : type.fullName ∈ order.map (·.fullName) := by
    rw [h.names_eq, List.mem_eraseDups]
    exact List.mem_map_of_mem htype
  exact List.mem_map.1 hname

theorem root_mem (h : types.Traverses root order) : root ∈ order := by
  obtain ⟨type, htype, hname⟩ := h.exists_mem List.mem_cons_self
  have hfirst := h.first type htype
  rw [List.find?_cons_of_pos (by rw [hname]; exact beq_self_eq_true _)] at hfirst
  cases hfirst
  exact htype

/-- The listed types are told by their full names. -/
theorem eq_of_fullName (h : types.Traverses root order) {first second : DeclaredType}
    (hfirst : first ∈ order) (hsecond : second ∈ order) (hname : first.fullName = second.fullName) :
    first = second := by
  have hfound := h.first first hfirst
  rw [hname, h.first second hsecond] at hfound
  exact (Option.some.inj hfound).symm

/-- The root is listed first. -/
theorem exists_cons (h : types.Traverses root order) : ∃ rest, order = root :: rest := by
  have hnames := h.names_eq
  rw [List.map_cons, List.eraseDups_cons] at hnames
  cases order with
  | nil => cases hnames
  | cons first rest =>
      have hname : first.fullName = root.fullName := (List.cons.inj hnames).1
      exact ⟨rest, by rw [h.eq_of_fullName List.mem_cons_self h.root_mem hname]⟩

/-- An order that lists every successor of its members lists all that is reachable. -/
theorem mem_of_reaches (h : types.Traverses root order)
    (hclosed : ∀ type ∈ order, ∀ next ∈ types.successors type, next ∈ order) {type : DeclaredType}
    (htype : types.Reaches root type) : type ∈ order := by
  induction htype with
  | refl => exact h.root_mem
  | tail _ hstep ih => exact hclosed _ ih _ hstep

/-- A traversal lists what it refers to exactly if reachable messages and enums have different names. -/
theorem closed_iff_namesApart (h : types.Traverses root order) (hroot : types.Registered root) :
    (∀ type ∈ order, ∀ next ∈ types.successors type, next ∈ order) ↔ types.NamesApart root := by
  constructor
  · intro hclosed message enum hmessage henum hname
    have hsame := h.eq_of_fullName (h.mem_of_reaches hclosed hmessage)
      (h.mem_of_reaches hclosed henum) hname
    cases hsame
  · intro hapart type htype next hnext
    obtain ⟨listed, hlisted, hname⟩ := h.exists_mem
      (List.mem_cons_of_mem _ (List.mem_flatMap.2 ⟨type, htype, hnext⟩))
    have hsame := hapart.eq_of_fullName hroot (h.reaches listed hlisted)
      ((h.reaches type htype).tail hnext) hname
    exact hsame ▸ hlisted

/-- Where names are kept apart, one more round of successors repeats the order. -/
theorem eq_eraseDups (h : types.Traverses root order) (hroot : types.Registered root)
    (hapart : types.NamesApart root) :
    order = (root :: order.flatMap types.successors).eraseDups := by
  -- Reachable types are told by their names, so the names can be dropped from `names_eq`.
  have hreaches : ∀ type ∈ root :: order.flatMap types.successors, types.Reaches root type := by
    intro type htype
    rcases List.mem_cons.1 htype with rfl | htype
    · exact .refl
    · obtain ⟨listed, hlisted, hnext⟩ := List.mem_flatMap.1 htype
      exact (h.reaches listed hlisted).tail hnext
  have hnames := h.names_eq
  rw [eraseDups_map_of_injOn fun first hfirst second hsecond hname =>
    hapart.eq_of_fullName hroot (hreaches first hfirst) (hreaches second hsecond) hname] at hnames
  refine eq_of_map_eq_map hnames fun first hfirst second hsecond hname => ?_
  exact hapart.eq_of_fullName hroot (h.reaches first hfirst)
    (hreaches second (List.mem_eraseDups.1 hsecond)) hname

/-- Where names are kept apart, exactly the reachable types are listed. -/
theorem mem_iff_reaches (h : types.Traverses root order) (hroot : types.Registered root)
    (hapart : types.NamesApart root) (type : DeclaredType) :
    type ∈ order ↔ types.Reaches root type :=
  ⟨h.reaches type, h.mem_of_reaches ((h.closed_iff_namesApart hroot).2 hapart)⟩

/-- A traversal lists no more types than the table holds. -/
theorem length_le (h : types.Traverses root order) (hroot : types.Registered root) :
    order.length ≤ types.names.length := by
  have hnodup := nodup_eraseDups ((root :: order.flatMap types.successors).map (·.fullName))
  rw [← h.names_eq] at hnodup
  have hnames : ∀ name ∈ order.map (·.fullName), name ∈ types.names := by
    intro name hname
    obtain ⟨type, htype, rfl⟩ := List.mem_map.1 hname
    exact ((h.reaches type htype).registered hroot).fullName_mem_names
  have hlength := (List.subperm_of_subset hnodup hnames).length_le
  rwa [List.length_map] at hlength

/-- Where names are kept apart, the order is the breadth-first one. -/
theorem breadthFirst_eq (h : types.Traverses root order) (hroot : types.Registered root)
    (hapart : types.NamesApart root) {rounds : Nat} (hrounds : order.length ≤ rounds) :
    breadthFirst types.successors root rounds = order :=
  breadthFirst_eq_of_fixed (h.eq_eraseDups hroot hapart) h.reaches hrounds

end Traverses

end TypeTable

/-! ## The drain that declares -/

/-- The script of a declaration as a generator without memory. -/
def declareStep (types : TypeTable) (info : ResourceInfo) (_ : Unit) (type : DeclaredType) :
    Script DeclaredType GenerateError (Unit × Declaration) :=
  (declareScript types info type).map fun declaration => ((), declaration)

/-- A call that declares a type yields the declaration of the type and requests its successors. -/
theorem run_declareStep {types : TypeTable} {info : ResourceInfo} {type : DeclaredType}
    {planner : Planner DeclaredType} {declaration : Declaration}
    (h : ((declareStep types info () type).run planner).2.map Prod.snd = .ok declaration) :
    declare types info type = .ok declaration ∧
      ((declareStep types info () type).requests planner).map Request.entry =
        (types.successors type).map fun next => (next.fullName, next) := by
  unfold declareStep declareScript at h ⊢
  rw [Script.run_map] at h
  rw [Script.requests_map]
  cases hdeclare : declare types info type with
  | error error =>
      rw [hdeclare] at h
      cases h
  | ok result =>
      rw [hdeclare, Script.run_requestAll] at h
      cases h
      refine ⟨rfl, ?_⟩
      rw [Script.requests_requestAll, List.map_append, Planner.map_entry_answers,
        references_eq_successors hdeclare]
      exact List.append_nil _

/-- The request that a run begins with. -/
def rootRequest (root : MessageType) : Request DeclaredType :=
  ⟨root.fullName, .message root, true⟩

/-- The planner of a run was asked for the root. -/
theorem records_rootPlanner (root : MessageType) :
    (rootPlanner root).Records [rootRequest root] [] := by
  have hrecords := (Planner.records_requestAll [(root.fullName, DeclaredType.message root)]).withState
    .draining
  have hanswer : (({} : Planner DeclaredType).request root.fullName (.message root)).2 = true := by
    rw [Planner.records_empty.queued_iff]
    exact List.not_mem_nil
  simp only [Planner.answers, hanswer] at hrecords
  exact hrecords

/-! ## The drain that goes on -/

/-- Request the successors of a type, whether it is declared or not. -/
def surveyStep (types : TypeTable) (info : ResourceInfo) (_ : Unit) (type : DeclaredType) :
    Script DeclaredType Empty (Unit × Except GenerateError Declaration) :=
  .requestAll ((types.successors type).map fun next => (next.fullName, next))
    (.done ((), declare types info type))

theorem recoveredBy_surveyStep (types : TypeTable) (info : ResourceInfo) (memory : Unit)
    (type : DeclaredType) :
    (declareStep types info memory type).RecoveredBy (surveyStep types info memory type) := by
  unfold declareStep declareScript surveyStep
  cases hdeclare : declare types info type with
  | error error => exact .fail (.requestAll (.done ()) _)
  | ok declaration =>
      simp only [references_eq_successors hdeclare, Script.map_requestAll]
      exact .requestAll (.done () declaration) _

theorem surveyStep_requestsIn (types : TypeTable) (info : ResourceInfo) (memory : Unit)
    (type : DeclaredType) : (surveyStep types info memory type).RequestsIn types.names := by
  refine Script.RequestsIn.requestAll (.done _) _ fun request hrequest => ?_
  obtain ⟨next, hnext, rfl⟩ := List.mem_map.1 hrequest
  exact (TypeTable.registered_of_mem_successors hnext).fullName_mem_names

section

variable {types : TypeTable} {info : ResourceInfo} {root : MessageType}
  {order : List (Call DeclaredType Empty (Except GenerateError Declaration))}
  {final : Planner DeclaredType}

/-- Every call puts down what becomes of its type and requests the successors. -/
theorem outcome_and_requests_of_surveys
    (h : Planner.Drains (surveyStep types info) () (rootPlanner root) order final)
    {call : Call DeclaredType Empty (Except GenerateError Declaration)} (hcall : call ∈ order) :
    call.outcome = .ok (declare types info call.generator) ∧
      call.requests.map Request.entry =
        (types.successors call.generator).map fun next => (next.fullName, next) := by
  obtain ⟨_, planner, hrequests, houtcome⟩ := h.exists_run call hcall
  rw [surveyStep, Script.run_requestAll] at houtcome
  rw [surveyStep, Script.requests_requestAll] at hrequests
  refine ⟨houtcome, ?_⟩
  rw [hrequests, List.map_append, Planner.map_entry_answers]
  exact List.append_nil _

/-- Every call is for a reachable type under its full name. -/
theorem forall_reaches_of_surveys
    (h : Planner.Drains (surveyStep types info) () (rootPlanner root) order final) :
    ∀ call ∈ order, call.name = call.generator.fullName ∧
      types.Reaches (.message root) call.generator := by
  refine h.entry_induction
    (P := fun entry => entry.1 = entry.2.fullName ∧ types.Reaches (.message root) entry.2) ?_ ?_
  · intro entry hentry
    have hqueue : (rootPlanner root).queue = [(root.fullName, .message root)] := by
      exact (records_rootPlanner root).granted_eq.symm
    rw [hqueue, List.mem_singleton] at hentry
    subst hentry
    exact ⟨rfl, .refl⟩
  · intro call hcall hreaches request hrequest
    have hentry := List.mem_map_of_mem (f := Request.entry) hrequest
    rw [(outcome_and_requests_of_surveys h hcall).2] at hentry
    obtain ⟨next, hnext, hsame⟩ := List.mem_map.1 hentry
    rw [← hsame]
    exact ⟨rfl, hreaches.2.tail hnext⟩

/-- What is asked for: the root and the successors of all types that are called for. -/
theorem entries_of_surveys
    (h : Planner.Drains (surveyStep types info) () (rootPlanner root) order final) :
    ([rootRequest root] ++ order.flatMap (·.requests)).map Request.entry =
      (.message root :: (order.map (·.generator)).flatMap types.successors).map
        fun type => (type.fullName, type) := by
  rw [List.singleton_append, List.map_cons, List.map_cons, List.map_flatMap, List.flatMap_map,
    List.map_flatMap]
  congr 1
  exact List.flatMap_congr fun call hcall => (outcome_and_requests_of_surveys h hcall).2

/-- The drain traverses the types it calls for. -/
theorem traverses_of_surveys
    (h : Planner.Drains (surveyStep types info) () (rootPlanner root) order final) :
    types.Traverses (.message root) (order.map (·.generator)) := by
  have hrecords := records_rootPlanner root
  have hreaches := forall_reaches_of_surveys h
  have hentries := entries_of_surveys h
  have houtcomes : ∀ call ∈ order, ∃ result, call.outcome = .ok result :=
    fun call hcall => ⟨_, (outcome_and_requests_of_surveys h hcall).1⟩
  refine ⟨?_, ?_, ?_⟩
  · have hlisted : (order.map (·.generator)).map (·.fullName) = order.map (·.name) := by
      rw [List.map_map]
      exact List.map_congr_left fun call hcall => (hreaches call hcall).1.symm
    have hnames := congrArg (List.map Prod.fst) hentries
    rw [List.map_map, List.map_map] at hnames
    rw [hlisted, hrecords.names_eq h houtcomes]
    exact congrArg List.eraseDups hnames
  · -- The first request for a name is the first entry with it, whose type is the one called for.
    intro type htype
    obtain ⟨call, hcall, rfl⟩ := List.mem_map.1 htype
    have hfound := congrArg (Option.map Request.entry) (hrecords.find?_eq h houtcomes hcall)
    have hsame := congrArg (List.find? fun entry => entry.1 == call.name) hentries
    rw [List.find?_map, List.find?_map] at hsame
    rw [(hreaches call hcall).1] at hfound hsame
    obtain ⟨found, hfind, hentry⟩ := Option.map_eq_some_iff.1 (hsame.symm.trans hfound)
    have htypes : found = call.generator := congrArg Prod.snd hentry
    rw [← htypes]
    rw [← htypes] at hfind
    exact hfind
  · intro type htype
    obtain ⟨call, hcall, rfl⟩ := List.mem_map.1 htype
    exact (hreaches call hcall).2

end

/-! ## The declarations of a run -/

/-- The declaration of a type under the full name of the type, as a run has it or fails with. -/
def declareNamed (types : TypeTable) (info : ResourceInfo) (type : DeclaredType) :
    Except Error (Planned Declaration) :=
  ((declare types info type).map (Planned.mk type.fullName)).mapError (.generation type.fullName)

theorem mapM_declareNamed (types : TypeTable) (info : ResourceInfo) (order : List DeclaredType) :
    (Planned.outputs (order.map fun type => ⟨type.fullName, declare types info type⟩)).mapError
        (fun failure => Error.generation failure.name failure.output) =
      order.mapM (declareNamed types info) := by
  induction order with
  | nil => rfl
  | cons first rest ih =>
      rw [List.map_cons, List.mapM_cons, ← ih, declareNamed]
      cases declare types info first with
      | error error => rfl
      | ok declaration =>
          rw [Planned.outputs]
          cases Planned.outputs (rest.map fun type => ⟨type.fullName, declare types info type⟩) <;> rfl

/-- A run declares one type after the other, in an order that does not depend on which of them fail. -/
theorem exists_traverses_reachable (types : TypeTable) (info : ResourceInfo) {root : MessageType}
    (hroot : root.fullName ∈ types.names) :
    ∃ order, types.Traverses (.message root) order ∧
      reachable types info root hroot = order.mapM (declareNamed types info) := by
  obtain ⟨order, final, hdrains, -⟩ :=
    (records_rootPlanner root).exists_drains (surveyStep_requestsIn types info) ()
  obtain ⟨log, last, hlog, hupTo⟩ := hdrains.exists_upToFailure (recoveredBy_surveyStep types info)
  refine ⟨order.map (·.generator), traverses_of_surveys hdrains, ?_⟩
  have hcalls : reachableCalls types info root hroot = log.map (·.planned) := by
    -- The drain of a run has a log too, and with enough fuel for both logs they are the same.
    have hrun : (rootPlanner root).callsFrom? (declareStep types info) types.names.length () =
        some (reachableCalls types info root hroot) :=
      (Option.some_get (reachableCalls_isSome info hroot)).symm
    obtain ⟨own, _, hown, hsame, _⟩ := Planner.exists_drains_of_callsFrom? _ hrun
    have hmore := hown.callsFrom?_eq (own.length + log.length) (Nat.le_add_right _ _)
    rw [hlog.callsFrom?_eq _ (Nat.le_add_left _ _), Option.some.injEq] at hmore
    rw [hsame, hmore]
  have hresults : order.map (·.planned) =
      ((order.map (·.generator)).map fun type =>
        ⟨type.fullName, declare types info type⟩).map Planned.succeeded := by
    rw [List.map_map, List.map_map]
    refine List.map_congr_left fun call hcall => ?_
    rw [Call.planned, (outcome_and_requests_of_surveys hdrains hcall).1,
      (forall_reaches_of_surveys hdrains call hcall).1]
    rfl
  rw [reachable, hcalls, hupTo.outputs_eq hresults, mapM_declareNamed]

/-- The types reachable from a root, in breadth-first order: as many rounds as there are types suffice. -/
def TypeTable.reachableTypes (types : TypeTable) (root : MessageType) : List DeclaredType :=
  breadthFirst types.successors (.message root) types.names.length

/-- Where no message and enum share a full name, a run declares exactly the reachable types, in breadth-first
order, and more rounds would list no other. -/
theorem reachable_eq_mapM_reachableTypes {types : TypeTable}
    (hnames : ∀ name ∈ types.messages, name ∉ types.enums) (info : ResourceInfo)
    {root : MessageType} (hregistered : types.Registered (.message root))
    (hroot : root.fullName ∈ types.names) :
    (∀ type, type ∈ types.reachableTypes root ↔ types.Reaches (.message root) type) ∧
      (∀ rounds, types.names.length ≤ rounds →
        breadthFirst types.successors (.message root) rounds = types.reachableTypes root) ∧
      reachable types info root hroot = (types.reachableTypes root).mapM (declareNamed types info) := by
  have hapart := TypeTable.namesApart_of_disjoint hregistered hnames
  obtain ⟨order, horder, hreachable⟩ := exists_traverses_reachable types info hroot
  have hrounds : ∀ rounds, types.names.length ≤ rounds →
      breadthFirst types.successors (.message root) rounds = order := fun rounds hrounds =>
    horder.breadthFirst_eq hregistered hapart (Nat.le_trans (horder.length_le hregistered) hrounds)
  have hsame : types.reachableTypes root = order := hrounds _ (Nat.le_refl _)
  rw [hsame]
  exact ⟨horder.mem_iff_reaches hregistered hapart, hrounds, hreachable⟩

theorem declareNamed_eq_ok_iff {types : TypeTable} {info : ResourceInfo} {type : DeclaredType}
    {planned : Planned Declaration} :
    declareNamed types info type = .ok planned ↔
      planned.name = type.fullName ∧ declare types info type = .ok planned.output := by
  rw [declareNamed, mapError_eq_ok_iff, map_eq_ok_iff]
  constructor
  · rintro ⟨declaration, hdeclaration, rfl⟩
    exact ⟨rfl, hdeclaration⟩
  · rintro ⟨hname, hdeclaration⟩
    exact ⟨planned.output, hdeclaration, by rw [← hname]⟩

/-- The declarations of a run are those of the types it traverses, each under the full name of its type. -/
theorem traverses_of_reachable {types : TypeTable} {info : ResourceInfo} {root : MessageType}
    {hroot : root.fullName ∈ types.names} {declarations : List (Planned Declaration)}
    (h : reachable types info root hroot = .ok declarations) :
    types.Traverses (.message root) (declarations.map (·.output.type)) ∧
      ∀ planned ∈ declarations, planned.name = planned.output.type.fullName ∧
        declare types info planned.output.type = .ok planned.output := by
  obtain ⟨order, horder, hreachable⟩ := exists_traverses_reachable types info hroot
  rw [hreachable] at h
  have htype : ∀ type planned, declareNamed types info type = .ok planned →
      planned.output.type = type := fun type planned hplanned =>
    (type_and_identifier_of_declare (declareNamed_eq_ok_iff.1 hplanned).2).1
  constructor
  · have hsame : declarations.map (·.output.type) = order.map id := map_eq_of_mapM htype h
    rw [hsame, List.map_id]
    exact horder
  · intro planned hplanned
    obtain ⟨type, -, hdeclared⟩ := exists_mem_of_mem_mapM h planned hplanned
    rw [htype type planned hdeclared]
    exact declareNamed_eq_ok_iff.1 hdeclared

end CustomResource
