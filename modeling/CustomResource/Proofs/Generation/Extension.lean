import CustomResource.Proofs.Generation.Coverage
import CustomResource.Proofs.Registry.Replay

/-!
# Generation with more types

Types of new names do not change what is generated.  A reference that means a registered type goes on meaning
it, so every step of a run has the result it had, `Except.KeptUnless`, unless it failed because a type was not
registered.  The steps are taken one after the other, from the kind of a field to the drain and the whole run,
and the runs with fewer and with more types stay together up to such a failure.
-/

namespace CustomResource

open Descriptor

/-! ## Results that are kept -/

section

variable {α β E F : Type} {curable : E → Prop}

/-- The second result is the first, unless the first is an error of some sort. -/
def KeptUnless (curable : E → Prop) (first second : Except E α) : Prop :=
  second = first ∨ ∃ error, curable error ∧ first = .error error

namespace KeptUnless

theorem refl (curable : E → Prop) (result : Except E α) : KeptUnless curable result result :=
  Or.inl rfl

theorem bind {first second : Except E α} {f g : α → Except E β} (h : KeptUnless curable first second)
    (hrest : ∀ a, first = .ok a → KeptUnless curable (f a) (g a)) :
    KeptUnless curable (first >>= f) (second >>= g) := by
  rcases h with rfl | ⟨error, hcurable, rfl⟩
  · cases second with
    | error error => exact Or.inl rfl
    | ok a => exact hrest a rfl
  · exact Or.inr ⟨error, hcurable, rfl⟩

theorem map {first second : Except E α} (h : KeptUnless curable first second) (f : α → β) :
    KeptUnless curable (first.map f) (second.map f) := by
  rcases h with rfl | ⟨error, hcurable, rfl⟩
  · exact Or.inl rfl
  · exact Or.inr ⟨error, hcurable, rfl⟩

theorem mapError {other : F → Prop} {first second : Except E α} (h : KeptUnless curable first second)
    {f : E → F} (hf : ∀ error, curable error → other (f error)) :
    KeptUnless other (first.mapError f) (second.mapError f) := by
  rcases h with rfl | ⟨error, hcurable, rfl⟩
  · exact Or.inl rfl
  · exact Or.inr ⟨f error, hf error hcurable, rfl⟩

theorem mapM {f g : α → Except E β} {list : List α} (h : ∀ a ∈ list, KeptUnless curable (f a) (g a)) :
    KeptUnless curable (list.mapM f) (list.mapM g) := by
  induction list with
  | nil => exact refl curable _
  | cons first rest ih =>
      rw [List.mapM_cons, List.mapM_cons]
      refine (h first List.mem_cons_self).bind fun b _ => ?_
      exact (ih fun a ha => h a (List.mem_cons_of_mem _ ha)).bind fun more _ => refl curable _

end KeptUnless

end

/-! ## Tables with more types -/

/-- A field refers to a type that is not registered. -/
def GenerateError.Unresolved : GenerateError → Prop
  | .unresolvedType .. => True
  | _ => False

namespace TypeTable

/-- What a reference means in the first table it means in the second too. -/
structure Extends (types more : TypeTable) : Prop where
  message : ∀ {reference message}, types.message? reference = some message →
    more.message? reference = some message
  enum : ∀ {reference enum}, types.enum? reference = some enum → more.enum? reference = some enum
  /-- A reference without a type means a message before an enum, so no message may come before an enum. -/
  unshadowed : ∀ {reference enum}, types.message? reference = none → types.enum? reference = some enum →
    more.message? reference = none

theorem mem_names_iff {types : TypeTable} {name : String} :
    name ∈ types.names ↔ types.messages[name]? ≠ none ∨ types.enums[name]? ≠ none := by
  rw [names, List.mem_append, Std.ExtTreeMap.mem_keys, Std.ExtTreeMap.mem_keys,
    Std.ExtTreeMap.mem_iff_isSome_getElem?, Std.ExtTreeMap.mem_iff_isSome_getElem?,
    Option.isSome_iff_ne_none, Option.isSome_iff_ne_none]

/-- Declarations of new names leave what is registered. -/
theorem getElem?_add_of_mem_names {types : TypeTable} {declarations : Declarations}
    (hnew : ∀ name ∈ declarations.names, name ∉ types.names) {name : String}
    (hname : name ∈ types.names) :
    (types.add declarations).messages[name]? = types.messages[name]? ∧
      (types.add declarations).enums[name]? = types.enums[name]? := by
  have hmessage : name ∉ declarations.messages.map Prod.fst :=
    fun hmem => hnew name (List.mem_append_left _ hmem) hname
  have henum : name ∉ declarations.enums.map Prod.fst :=
    fun hmem => hnew name (List.mem_append_right _ hmem) hname
  rw [getElem?_messages_add, getElem?_enums_add, lastNamed?_eq_none_iff.2 hmessage,
    lastNamed?_eq_none_iff.2 henum, Option.none_or, Option.none_or]
  exact ⟨rfl, rfl⟩

theorem extends_add {types : TypeTable} {declarations : Declarations}
    (hnew : ∀ name ∈ declarations.names, name ∉ types.names) :
    types.Extends (types.add declarations) where
  message := by
    intro reference message hmessage
    have hname : (QualifiedName.ofReference reference).text ∈ types.names := by
      rw [mem_names_iff]
      exact Or.inl fun hnone => by simp [message?, hnone] at hmessage
    rwa [message?, (getElem?_add_of_mem_names hnew hname).1]
  enum := by
    intro reference enum henum
    have hname : (QualifiedName.ofReference reference).text ∈ types.names := by
      rw [mem_names_iff]
      exact Or.inr fun hnone => by simp [enum?, hnone] at henum
    rwa [enum?, (getElem?_add_of_mem_names hnew hname).2]
  unshadowed := by
    intro reference enum hmessage henum
    have hname : (QualifiedName.ofReference reference).text ∈ types.names := by
      rw [mem_names_iff]
      exact Or.inr fun hnone => by simp [enum?, hnone] at henum
    rwa [message?, (getElem?_add_of_mem_names hnew hname).1]

end TypeTable

/-! ## Fields -/

section

variable {types more : TypeTable} (h : types.Extends more)

include h

namespace MessageField

theorem referredMessage_kept (field : MessageField) :
    KeptUnless GenerateError.Unresolved (field.referredMessage types) (field.referredMessage more) := by
  refine (KeptUnless.refl _ field.typeName).bind fun name _ => ?_
  cases hmessage : types.message? name with
  | none => exact Or.inr ⟨.unresolvedType field.fullName name, trivial, rfl⟩
  | some message =>
      rw [h.message hmessage]
      exact KeptUnless.refl _ _

theorem referredEnum_kept (field : MessageField) :
    KeptUnless GenerateError.Unresolved (field.referredEnum types) (field.referredEnum more) := by
  refine (KeptUnless.refl _ field.typeName).bind fun name _ => ?_
  cases henum : types.enum? name with
  | none => exact Or.inr ⟨.unresolvedType field.fullName name, trivial, rfl⟩
  | some enum =>
      rw [h.enum henum]
      exact KeptUnless.refl _ _

theorem unlinkedKind_kept (field : MessageField) :
    KeptUnless GenerateError.Unresolved (field.unlinkedKind types) (field.unlinkedKind more) := by
  refine (KeptUnless.refl _ field.typeName).bind fun name _ => ?_
  cases hmessage : types.message? name with
  | some message =>
      rw [h.message hmessage]
      exact KeptUnless.refl _ _
  | none =>
      cases henum : types.enum? name with
      | none => exact Or.inr ⟨.unresolvedType field.fullName name, trivial, rfl⟩
      | some enum =>
          -- The enum is found only because no message has its name, which has to stay so.
          rw [h.unshadowed hmessage henum, h.enum henum]
          exact KeptUnless.refl _ _

theorem kind_kept (field : MessageField) :
    KeptUnless GenerateError.Unresolved (field.kind types) (field.kind more) := by
  unfold MessageField.kind
  split
  · exact field.unlinkedKind_kept h
  · split
    · exact KeptUnless.refl _ _
    · exact KeptUnless.refl _ _
    · exact (field.referredMessage_kept h).map _
    · exact (field.referredMessage_kept h).map _
    · exact (field.referredEnum_kept h).map _

theorem mapEntry?_kept (field : MessageField) :
    KeptUnless GenerateError.Unresolved (field.mapEntry? types) (field.mapEntry? more) := by
  unfold MessageField.mapEntry?
  split
  · exact KeptUnless.refl _ _
  · exact (field.kind_kept h).bind fun kind _ => KeptUnless.refl _ _

/-- A kind that there is is kept. -/
theorem kind_eq_of_ok {field : MessageField} {kind : Kind} (hkind : field.kind types = .ok kind) :
    field.kind more = .ok kind := by
  rcases field.kind_kept h with hsame | ⟨error, _, herror⟩
  · rw [hsame, hkind]
  · rw [hkind] at herror
    cases herror

end MessageField

/-- The shape of a field depends on its kind only. -/
theorem shapeOf_eq {field : MessageField} {kind : Kind} (hkind : field.kind types = .ok kind) :
    shapeOf more field kind = shapeOf types field kind := by
  have hmore := MessageField.kind_eq_of_ok h hkind
  simp only [shapeOf, MessageField.isList, MessageField.isMap, MessageField.hasPresence, hkind, hmore]

/-- A field with an entry has a kind. -/
theorem mapKey_eq {field : MessageField} {entry : MapEntry}
    (hentry : field.mapEntry? types = .ok (some entry)) (kind : Kind) :
    mapKey more field kind = mapKey types field kind := by
  have hfield : ∃ fieldKind, field.kind types = .ok fieldKind := by
    unfold MessageField.mapEntry? at hentry
    split at hentry
    · cases hentry
    · obtain ⟨fieldKind, hkind, _⟩ := bind_eq_ok_iff.1 hentry
      exact ⟨fieldKind, hkind⟩
  obtain ⟨fieldKind, hkind⟩ := hfield
  simp only [mapKey, mapKey.malformed, hkind, MessageField.kind_eq_of_ok h hkind]

theorem mapField_kept (info : ResourceInfo) (field : MessageField) :
    KeptUnless GenerateError.Unresolved (mapField types info field) (mapField more info field) := by
  refine (field.mapEntry?_kept h).bind fun entry hentry => ?_
  cases entry with
  | none =>
      refine (field.kind_kept h).bind fun kind hkind => ?_
      rw [shapeOf_eq h hkind]
      exact KeptUnless.refl _ _
  | some entry =>
      refine (entry.key.kind_kept h).bind fun keyKind _ => ?_
      rw [mapKey_eq h hentry]
      refine (KeptUnless.refl _ _).bind fun key _ => ?_
      exact (entry.value.kind_kept h).bind fun kind _ => KeptUnless.refl _ _

/-! ## Declarations -/

theorem declareField_kept (info : ResourceInfo) (field : MessageField) :
    KeptUnless GenerateError.Unresolved (declareField types info field) (declareField more info field) :=
  (mapField_kept h info field).bind fun _ _ => KeptUnless.refl _ _

theorem declareMessage_kept (info : ResourceInfo) (message : MessageType) :
    KeptUnless GenerateError.Unresolved (declareMessage types info message)
      (declareMessage more info message) :=
  (KeptUnless.mapM fun field _ => declareField_kept h info field).bind fun _ _ => KeptUnless.refl _ _

theorem declare_kept (info : ResourceInfo) (type : DeclaredType) :
    KeptUnless GenerateError.Unresolved (declare types info type) (declare more info type) := by
  cases type with
  | message message => exact (declareMessage_kept h info message).map _
  | enum enum => exact KeptUnless.refl _ _

/-- A drain does the same for a type, or fails there for the lack of another one. -/
theorem declareStep_kept (info : ResourceInfo) (memory : Unit) (type : DeclaredType) :
    declareStep more info memory type = declareStep types info memory type ∨
      ∃ error : GenerateError, error.Unresolved ∧ declareStep types info memory type = .fail error := by
  unfold declareStep declareScript
  rcases declare_kept h info type with hsame | ⟨error, hunresolved, herror⟩
  · exact Or.inl (by rw [hsame])
  · refine Or.inr ⟨error, hunresolved, ?_⟩
    rw [herror]
    rfl

end

/-! ## Drains -/

theorem Planner.callsFrom?_of_queue_eq_nil {S G E T : Type} (generate : S → G → Script G E (S × T))
    (fuel : Nat) (memory : S) {planner : Planner G} (hqueue : planner.queue = []) :
    planner.callsFrom? generate fuel memory = some [] := by
  cases fuel <;> simp [callsFrom?, hqueue]

/-- Two drains from one planner, whose generators do the same up to a failure of some sort, have the same
outputs up to such a failure, whatever fuel each of them has. -/
theorem Planner.outputs_kept {S G E T : Type} {generate other : S → G → Script G E (S × T)}
    {curable : E → Prop}
    (hsame : ∀ memory generator, other memory generator = generate memory generator ∨
      ∃ error, curable error ∧ generate memory generator = .fail error) :
    ∀ (fuel more : Nat) (memory : S) (planner : Planner G) {calls others : List (Planned (Except E T))},
      planner.callsFrom? generate fuel memory = some calls →
      planner.callsFrom? other more memory = some others →
      KeptUnless (fun failure : Planned E => curable failure.output) (Planned.outputs calls)
        (Planned.outputs others) := by
  intro fuel
  induction fuel with
  | zero =>
      intro more memory planner calls others hcalls hothers
      have hqueue : planner.queue = [] := by
        by_contra hne
        simp [callsFrom?, hne] at hcalls
      rw [callsFrom?_of_queue_eq_nil _ _ _ hqueue, Option.some.injEq] at hcalls hothers
      rw [← hcalls, ← hothers]
      exact KeptUnless.refl _ _
  | succ fuel ih =>
      intro more memory planner calls others hcalls hothers
      cases hqueue : planner.queue with
      | nil =>
          rw [callsFrom?_of_queue_eq_nil _ _ _ hqueue, Option.some.injEq] at hcalls hothers
          rw [← hcalls, ← hothers]
          exact KeptUnless.refl _ _
      | cons first rest =>
          obtain ⟨name, generator⟩ := first
          cases more with
          | zero => simp [callsFrom?, hqueue] at hothers
          | succ more =>
              rw [callsFrom?] at hcalls hothers
              simp only [hqueue] at hcalls hothers
              rcases hsame memory generator with hgenerate | ⟨error, hcurable, hfail⟩
              · -- Both call the same script, so they fail together or go on from the same planner.
                rw [hgenerate] at hothers
                cases hrun : (generate memory generator).run (planner.handOut name rest) with
                | mk after outcome =>
                    rw [hrun] at hcalls hothers
                    cases outcome with
                    | error error =>
                        cases hcalls
                        cases hothers
                        exact KeptUnless.refl _ _
                    | ok result =>
                        obtain ⟨tail, htail, rfl⟩ := Option.map_eq_some_iff.1 hcalls
                        obtain ⟨otherTail, hotherTail, rfl⟩ := Option.map_eq_some_iff.1 hothers
                        exact (ih more result.1 after htail hotherTail).map _
              · rw [hfail] at hcalls
                cases hcalls
                exact Or.inr ⟨⟨name, error⟩, hcurable, rfl⟩

/-! ## Runs -/

/-- A run fails because its root or a type that a field refers to is not registered. -/
def Error.Unresolved : Error → Prop
  | .notFound _ => True
  | .generation _ cause => cause.Unresolved
  | _ => False

section

variable {types more : TypeTable} (h : types.Extends more)

include h

theorem reachable_kept (info : ResourceInfo) {root : MessageType} (hroot : root.fullName ∈ types.names)
    (hmore : root.fullName ∈ more.names) :
    KeptUnless Error.Unresolved (reachable types info root hroot) (reachable more info root hmore) := by
  -- A larger table gives the drain more fuel, which it does not need.
  have houtputs := Planner.outputs_kept (declareStep_kept h info) types.names.length more.names.length ()
    (rootPlanner root)
    (Option.some_get (reachableCalls_isSome info hroot)).symm
    (Option.some_get (reachableCalls_isSome info hmore)).symm
  exact houtputs.mapError fun failure hunresolved => hunresolved

theorem planResource_kept (info : ResourceInfo) {root : MessageType} (hroot : root.fullName ∈ types.names)
    (hmore : root.fullName ∈ more.names) :
    KeptUnless Error.Unresolved (planResource types info root hroot) (planResource more info root hmore) :=
  (reachable_kept h info hroot hmore).bind fun _ _ => KeptUnless.refl _ _

end

theorem generate_kept {types more : TypeTable} (h : types.Extends more) (config : Config)
    (typeName : String) :
    KeptUnless Error.Unresolved (generate config types typeName) (generate config more typeName) := by
  refine KeptUnless.map ?_ _
  cases hroot : types.message? typeName with
  | none =>
      rw [generatePlan_of_message?_eq_none hroot]
      exact Or.inr ⟨.notFound typeName, trivial, rfl⟩
  | some root =>
      rw [generatePlan_of_message? hroot, generatePlan_of_message? (h.message hroot)]
      refine (KeptUnless.refl _ _).bind fun presentation _ => ?_
      refine (KeptUnless.refl _ _).bind fun moduleName _ => ?_
      exact (planResource_kept h _ _ _).bind fun _ _ => KeptUnless.refl _ _

theorem extends_addFile {registry : Registry} {file : File}
    (hnew : ∀ name ∈ (Declarations.ofFile file).names, name ∉ registry.types.names) :
    registry.types.Extends (registry.addFile file).types := by
  cases hfile : registry.hasFile file.fileName with
  | true =>
      rw [Registry.addFile_of_hasFile hfile]
      exact ⟨id, id, fun hnone _ => hnone⟩
  | false =>
      rw [Registry.addFile_of_not_hasFile hfile]
      exact TypeTable.extends_add hnew

/-- Add a file to a registry that knows none of the full names the file declares, neither as a message nor as an
enum.  Whatever was generated before is generated again with the same text.  Every error stays as it is, unless
the root or a type that a field refers to was missing. -/
theorem generate_addFile_of_new {registry : Registry} {file : File}
    (hnew : ∀ name ∈ (Declarations.ofFile file).names, name ∉ registry.types.names) (config : Config)
    (typeName : String) :
    (∀ text, generate config registry.types typeName = .ok text →
      generate config (registry.addFile file).types typeName = .ok text) ∧
    ∀ error, generate config registry.types typeName = .error error →
      (∀ name, error ≠ .notFound name) →
      (∀ type field name, error ≠ .generation type (.unresolvedType field name)) →
        generate config (registry.addFile file).types typeName = .error error := by
  have hkept := generate_kept (extends_addFile hnew) config typeName
  constructor
  · intro text htext
    rcases hkept with hsame | ⟨error, _, herror⟩
    · rw [hsame, htext]
    · rw [htext] at herror
      cases herror
  · intro error herror hfound hresolved
    rcases hkept with hsame | ⟨other, hunresolved, hother⟩
    · rw [hsame, herror]
    · rw [herror, Except.error.injEq] at hother
      subst hother
      cases error with
      | notFound name => exact absurd rfl (hfound name)
      | generation type cause =>
          cases cause with
          | unresolvedType field name => exact absurd rfl (hresolved type field name)
          | _ => cases hunresolved
      | _ => cases hunresolved

/-- A file that has nothing to do with others. -/
def unrelatedFile : File where
  name := some "u.proto"
  package := some "u"
  messages := [{ name := some "M" }]
  enums := [{ name := some "E", values := [{ name := some "X", number := some 0 }] }]

/-- A message with a field that refers to nothing. -/
def namelessReferenceFile : File where
  package := some "t"
  messages := [{ name := some "M", fields := [{ name := some "next", number := some 1, type := some 11 }] }]

/-- Neither a text nor an error changes with the unrelated file. -/
theorem unrelatedFile_changes_nothing :
    let registry := Registry.ofFiles [cyclicFile]
    let failing := Registry.ofFiles [namelessReferenceFile]
    (∀ name ∈ (Declarations.ofFile unrelatedFile).names, name ∉ registry.types.names) ∧
      (∃ text, generate {} registry.types "t.M" = .ok text ∧
        generate {} (registry.addFile unrelatedFile).types "t.M" = .ok text) ∧
      (∀ name ∈ (Declarations.ofFile unrelatedFile).names, name ∉ failing.types.names) ∧
      generate {} failing.types "t.M" = .error (.generation "t.M" (.missingTypeName "t.M.next")) ∧
      generate {} (failing.addFile unrelatedFile).types "t.M" =
        .error (.generation "t.M" (.missingTypeName "t.M.next")) := by
  intro registry failing
  have hnew : ∀ name ∈ (Declarations.ofFile unrelatedFile).names, name ∉ registry.types.names := by
    decide +kernel
  have hfresh : ∀ name ∈ (Declarations.ofFile unrelatedFile).names, name ∉ failing.types.names := by
    decide +kernel
  obtain ⟨result, hresult, _⟩ := generatePlan_cyclicTypes
  have htext := generate_eq_ok_iff.2 ⟨result.1, result.2, hresult, rfl⟩
  have herror : generate {} failing.types "t.M" =
      .error (.generation "t.M" (.missingTypeName "t.M.next")) := by
    have hmap : ((generate {} failing.types "t.M").map fun _ => ()) =
        .error (.generation "t.M" (.missingTypeName "t.M.next")) := by
      decide +kernel
    cases hgenerate : generate {} failing.types "t.M" with
    | ok text =>
        rw [hgenerate] at hmap
        cases hmap
    | error error =>
        rw [hgenerate] at hmap
        rw [Except.error.inj hmap]
  refine ⟨hnew, ⟨_, htext, (generate_addFile_of_new hnew {} "t.M").1 _ htext⟩, hfresh, herror, ?_⟩
  refine (generate_addFile_of_new hfresh {} "t.M").2 _ herror ?_ ?_
  · exact fun name hname => Error.noConfusion hname
  · intro type field name hsame
    exact GenerateError.noConfusion (Error.generation.inj hsame).2

end CustomResource
