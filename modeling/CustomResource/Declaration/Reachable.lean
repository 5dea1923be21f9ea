import CustomResource.Declaration.References
import CustomResource.Planner.Termination

/-!
# Declarations of all reachable types

The types reachable from a root are declared by draining a planner: the declaration of a type requests the
types it refers to.  All of them are registered, so the drain ends, and `reachable` has a result for every
root that a lookup yields.
-/

namespace CustomResource

/-! ## References are registered -/

namespace TypeTable

/-- The full names of all registered types. -/
def names (types : TypeTable) : List String :=
  types.messages.keys ++ types.enums.keys

theorem Registered.fullName_mem_names {types : TypeTable} {type : DeclaredType}
    (h : types.Registered type) : type.fullName ∈ types.names := by
  cases type with
  | message message =>
      refine List.mem_append_left _ (Std.ExtTreeMap.mem_keys.2 ?_)
      exact Std.ExtTreeMap.mem_iff_isSome_getElem?.2 (Option.isSome_of_eq_some h)
  | enum enum =>
      refine List.mem_append_right _ (Std.ExtTreeMap.mem_keys.2 ?_)
      exact Std.ExtTreeMap.mem_iff_isSome_getElem?.2 (Option.isSome_of_eq_some h)

theorem fullName_mem_names_of_message? {types : TypeTable} {reference : String}
    {message : MessageType} (h : types.message? reference = some message) :
    message.fullName ∈ types.names :=
  (registered_of_message? h).fullName_mem_names

end TypeTable

/-- A declaration refers to registered types only. -/
theorem references_mem_names {types : TypeTable} {info : ResourceInfo} {declared : DeclaredType}
    {declaration : Declaration} (h : declare types info declared = .ok declaration)
    {type : DeclaredType} (htype : type ∈ declaration.references) :
    type.fullName ∈ types.names := by
  rw [references_eq_successors h] at htype
  exact (TypeTable.registered_of_mem_successors htype).fullName_mem_names

/-! ## The drain -/

/-- Declare a type and request the types it refers to. -/
def declareScript (types : TypeTable) (info : ResourceInfo) (type : DeclaredType) :
    Script DeclaredType GenerateError Declaration :=
  match declare types info type with
  | .error error => .fail error
  | .ok declaration =>
      .requestAll (declaration.references.map fun type => (type.fullName, type)) (.done declaration)

theorem declareScript_requestsIn (types : TypeTable) (info : ResourceInfo) (type : DeclaredType) :
    (declareScript types info type).RequestsIn types.names := by
  unfold declareScript
  split
  · exact .fail _
  · next declaration hdeclaration =>
      refine Script.RequestsIn.requestAll (.done _) _ fun request hrequest => ?_
      obtain ⟨reference, hreference, rfl⟩ := List.mem_map.1 hrequest
      exact references_mem_names hdeclaration hreference

/-- The planner of a run, with the root queued and the drain begun. -/
def rootPlanner (root : MessageType) : Planner DeclaredType :=
  { (({} : Planner DeclaredType).request root.fullName (.message root)).1 with state := .draining }

/-- The calls of the drain from a registered root. -/
theorem reachableCalls_isSome {types : TypeTable} (info : ResourceInfo) {root : MessageType}
    (hroot : root.fullName ∈ types.names) :
    (Planner.calls? (declareScript types info) types.names.length (rootPlanner root)).isSome = true := by
  have hqueued := Planner.consistent_empty.request root.fullName (DeclaredType.message root)
  refine Planner.calls?_isSome (declareScript_requestsIn types info) _ ?_ ?_ ?_
  · exact ⟨hqueued.nodup, hqueued.pending_iff, hqueued.fresh⟩
  · intro name hname
    have hname : name ∈ (({} : Planner DeclaredType).request root.fullName (.message root)).1.names :=
      hname
    rcases Planner.mem_names_request hname with rfl | hname
    · exact hroot
    · cases hname
  · exact List.length_filter_le _ _

/-- The calls that declare the types reachable from a root, in breadth-first order up to the first that
fails. -/
def reachableCalls (types : TypeTable) (info : ResourceInfo) (root : MessageType)
    (hroot : root.fullName ∈ types.names) : List (Planned (Except GenerateError Declaration)) :=
  (Planner.calls? (declareScript types info) types.names.length (rootPlanner root)).get
    (reachableCalls_isSome info hroot)

/-- The declarations of the types reachable from a root, in breadth-first order, or the first failure. -/
def reachable (types : TypeTable) (info : ResourceInfo) (root : MessageType)
    (hroot : root.fullName ∈ types.names) : Except Error (List (Planned Declaration)) :=
  (Planned.outputs (reachableCalls types info root hroot)).mapError fun failure =>
    .generation failure.name failure.output

end CustomResource
