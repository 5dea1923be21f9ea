import CustomResource.Descriptor.Encoding
import CustomResource.Proofs.Command.Session
import CustomResource.Proofs.Registry.Circles

/-!
# Commands that fail

`Invocation.FailsWith` lists where a command can fail, and with what: at the first descriptor set that cannot
be loaded, for want of any, at the first name or field that does not resolve, in the generation, at the file
to be written.  A process fails in these cases and in no others, and whatever had gone well before the fault,
it has printed and saved nothing then.

A process that does not fail comes to its end, with the one exception that `Invocation.Endless` tells: it
searches for the messages that contain a type, and the search circles (see `TypeTable.Circles`).
-/

namespace CustomResource.Command

open Descriptor Wire

/-! ## Causes -/

section Causes

variable (registry : Registry) (directory : Directory)

/-- A request fails for a cause. -/
inductive Request.FailsWith : Request → Failure → Prop
  /-- Nothing can be generated. -/
  | generating {typeName : String} {config : Config} {cause : Error} (output : Option String)
      (h : CustomResource.generate config registry.types typeName = .error cause) :
      FailsWith (.generate typeName config output) (.generating typeName cause)
  /-- What is generated cannot be written to the file. -/
  | writing {typeName path source : String} {config : Config} {cause : FileError}
      (hsource : CustomResource.generate config registry.types typeName = .ok source)
      (h : directory.write path source.toUTF8.toList = .error cause) :
      FailsWith (.generate typeName config (some path)) (.writing path cause)
  /-- There is no message to show. -/
  | unknownMessage {typeName : String} (format : ShowFormat)
      (h : registry.types.message? typeName = none) :
      FailsWith (.show typeName format) (.unknownType typeName)
  /-- The kind of a field to show does not resolve; those of the fields before it do. -/
  | field {typeName : String} {message : MessageType} {before after : List MessageField}
      {field : MessageField} {cause : GenerateError}
      (hmessage : registry.types.message? typeName = some message)
      (hfields : message.fields = before ++ field :: after)
      (hbefore : ∀ earlier ∈ before, ∃ kind, earlier.kind registry.types = .ok kind)
      (h : field.kind registry.types = .error cause) :
      FailsWith (.show typeName .fields) (.field cause)
  /-- A message is there, but its defaults cannot be told. -/
  | document {typeName : String} {message : MessageType} {format : ShowFormat} {failure : Failure}
      (hformat : format ≠ .fields) (hmessage : registry.types.message? typeName = some message)
      (h : showDefault registry typeName = .error failure) : FailsWith (.show typeName format) failure
  /-- There is no type to be contained. -/
  | unknownContained {typeName : String} (hmessage : registry.types.message? typeName = none)
      (henum : registry.types.enum? typeName = none) :
      FailsWith (.contains typeName) (.unknownType typeName)
  /-- A name has no type URL; those before it do. -/
  | unknownUrl {before after : List String} {typeName : String}
      (hbefore : ∀ earlier ∈ before, ∃ url, registry.types.typeUrl? earlier = some url)
      (h : registry.types.typeUrl? typeName = none) :
      FailsWith (.url (before ++ typeName :: after)) (.unknownType typeName)

/-- A request starts a search that has no end. -/
inductive Request.Endless : Request → Prop
  /-- The type to be contained is there, and the search for the messages that contain it circles. -/
  | contains {typeName : String}
      (hfound : (registry.types.message? typeName).isSome ∨ (registry.types.enum? typeName).isSome)
      (h : registry.types.messagesContaining? typeName = none) : Endless (.contains typeName)

end Causes

/-- A command that needs no compiler fails for a cause. -/
inductive Invocation.FailsWith (directory : Directory) (invocation : Invocation) : Failure → Prop
  /-- A descriptor set cannot be loaded; those before it can. -/
  | loading {before after : List String} {path : String} {cause : LoadError}
      (hpaths : invocation.descriptorSets = before ++ path :: after)
      (hbefore : ∀ earlier ∈ before, ∃ files, loadFile directory.read earlier = .ok files)
      (h : loadFile directory.read path = .error cause) : FailsWith directory invocation (.loading path cause)
  /-- No descriptor sets are given. -/
  | noDescriptors (h : invocation.descriptorSets = []) : FailsWith directory invocation .noDescriptors
  /-- All descriptor sets are loaded, but not what is asked for can be done. -/
  | request {sets : List FileSet} {failure : Failure} (hsome : invocation.descriptorSets ≠ [])
      (hsets : invocation.descriptorSets.mapM (loadFile directory.read) = .ok sets)
      (h : invocation.request.FailsWith (.ofFiles sets.flatten) directory failure) :
      FailsWith directory invocation failure

/-- All descriptor sets of a command are loaded, and then it starts a search that has no end. -/
def Invocation.Endless (directory : Directory) (invocation : Invocation) : Prop :=
  invocation.descriptorSets ≠ [] ∧
    ∃ sets, invocation.descriptorSets.mapM (loadFile directory.read) = .ok sets ∧
      invocation.request.Endless (.ofFiles sets.flatten)

/-! ## Requests -/

namespace Work

variable {registry : Registry} {failure : Failure}

theorem findMessage_eq_ok_iff {typeName : String} {message : MessageType} :
    findMessage registry typeName = .ok message ↔ registry.types.message? typeName = some message := by
  rw [findMessage]
  cases registry.types.message? typeName <;> simp

theorem findMessage_eq_error_iff {typeName : String} :
    findMessage registry typeName = .error failure ↔
      registry.types.message? typeName = none ∧ .unknownType typeName = failure := by
  rw [findMessage]
  cases registry.types.message? typeName <;> simp

theorem typeUrl_eq_ok_iff {typeName url : String} :
    typeUrl registry typeName = .ok url ↔ registry.types.typeUrl? typeName = some url := by
  rw [typeUrl]
  cases registry.types.typeUrl? typeName <;> simp

theorem typeUrl_eq_error_iff {typeName : String} :
    typeUrl registry typeName = .error failure ↔
      registry.types.typeUrl? typeName = none ∧ .unknownType typeName = failure := by
  rw [typeUrl]
  cases registry.types.typeUrl? typeName <;> simp

/-- The rows of a message fail with the first of its fields whose kind does. -/
theorem messageRows_eq_error_iff {message : MessageType} {cause : GenerateError} {types : TypeTable} :
    messageRows types message = .error cause ↔
      ∃ before field after, message.fields = before ++ field :: after ∧ field.kind types = .error cause ∧
        ∀ earlier ∈ before, ∃ kind, earlier.kind types = .ok kind := by
  have hfield : ∀ field : MessageField,
      failure? (do return fieldRows field (← field.kind types)) = failure? (field.kind types) :=
    fun field => failure?_bind_eq_left fun _ => rfl
  rw [← failure?_eq_some_iff, messageRows, failure?_bind_eq_left fun _ => rfl, failure?_eq_some_iff,
    mapM_eq_error_iff]
  simp only [← failure?_eq_some_iff, ← failure?_eq_none_iff, hfield]

theorem showFields_eq_error_iff {typeName : String} :
    showMessage registry typeName .fields = .error failure ↔
      (registry.types.message? typeName = none ∧ .unknownType typeName = failure) ∨
        ∃ message cause, registry.types.message? typeName = some message ∧
          messageRows registry.types message = .error cause ∧ .field cause = failure := by
  rw [showMessage]
  cases hmessage : findMessage registry typeName with
  | error other =>
      obtain ⟨hnone, rfl⟩ := findMessage_eq_error_iff.1 hmessage
      simp [hnone, bind, Except.bind]
  | ok message =>
      have hsome := findMessage_eq_ok_iff.1 hmessage
      cases hrows : messageRows registry.types message with
      | error cause => simp [hsome, hrows, bind, Except.bind, Except.mapError]
      | ok rows => simp [hsome, hrows, bind, Except.bind, Except.mapError]

theorem containingMessages?_eq_error_iff {typeName : String} :
    containingMessages? registry typeName = some (.error failure) ↔
      registry.types.message? typeName = none ∧ registry.types.enum? typeName = none ∧
        .unknownType typeName = failure := by
  rw [containingMessages?]
  cases registry.types.message? typeName <;> cases registry.types.enum? typeName <;> simp

theorem containingMessages?_eq_none_iff {typeName : String} :
    containingMessages? registry typeName = none ↔
      ((registry.types.message? typeName).isSome ∨ (registry.types.enum? typeName).isSome) ∧
        registry.types.messagesContaining? typeName = none := by
  rw [containingMessages?]
  cases registry.types.message? typeName <;> cases registry.types.enum? typeName <;> simp

section Perform

variable {session : Session}

/-- What is only printed fails as its text does. -/
theorem on_perform_of_print {α : Type} {request : Request} {result? : Option (Except Failure α)}
    {text : α → String} (h : answer? registry request = result?.map (·.map fun a => .print (text a))) :
    ((perform registry request).on session).1 = some (.error failure) ↔ result? = some (.error failure) := by
  rw [on_perform, h]
  rcases result? with _ | (_ | _) <;> simp [Except.map]

theorem perform_generate_fails_iff {typeName : String} {config : Config} {output : Option String} :
    ((perform registry (.generate typeName config output)).on session).1 = some (.error failure) ↔
      (Request.generate typeName config output).FailsWith registry session.directory failure := by
  rw [on_perform]
  constructor
  · intro hfailure
    cases hsource : CustomResource.generate config registry.types typeName with
    | error cause =>
        rw [answer?, hsource] at hfailure
        cases hfailure
        exact .generating output hsource
    | ok source =>
        rw [answer?, hsource] at hfailure
        cases output with
        | none => cases hfailure
        | some path =>
            change ((save path source).on session).1 = some (.error failure) at hfailure
            rw [on_save] at hfailure
            cases hwrite : session.directory.write path source.toUTF8.toList with
            | ok directory =>
                rw [hwrite] at hfailure
                cases hfailure
            | error cause =>
                rw [hwrite] at hfailure
                cases hfailure
                exact .writing hsource hwrite
  · intro hfails
    cases hfails with
    | generating _ h =>
        rw [answer?, h]
        rfl
    | @writing _ path source _ _ hsource h =>
        rw [answer?, hsource]
        change ((save path source).on session).1 = _
        rw [on_save, h]

theorem showDefault_fails_iff {typeName : String} {format : ShowFormat} {directory : Directory}
    (hformat : format ≠ .fields) :
    showDefault registry typeName = .error failure ↔
      (Request.show typeName format).FailsWith registry directory failure := by
  constructor
  · intro hdefault
    cases hmessage : registry.types.message? typeName with
    | none =>
        rw [showDefault, findMessage_eq_error_iff.2 ⟨hmessage, rfl⟩] at hdefault
        cases hdefault
        exact .unknownMessage format hmessage
    | some message => exact .document hformat hmessage hdefault
  · intro hfails
    cases hfails with
    | unknownMessage _ hnone =>
        rw [showDefault, findMessage_eq_error_iff.2 ⟨hnone, rfl⟩]
        rfl
    | field _ _ _ _ => exact absurd rfl hformat
    | document _ _ hdefault => exact hdefault

theorem perform_show_fails_iff {typeName : String} {format : ShowFormat} :
    ((perform registry (.show typeName format)).on session).1 = some (.error failure) ↔
      (Request.show typeName format).FailsWith registry session.directory failure := by
  have hanswer : answer? registry (.show typeName format) =
      (some (showMessage registry typeName format)).map (·.map fun text => .print text) := rfl
  rw [on_perform_of_print hanswer, Option.some_inj]
  cases format with
  | fields =>
      rw [showFields_eq_error_iff]
      constructor
      · rintro (⟨hnone, rfl⟩ | ⟨message, cause, hmessage, hrows, rfl⟩)
        · exact .unknownMessage .fields hnone
        · obtain ⟨before, field, after, hfields, hcause, hbefore⟩ := messageRows_eq_error_iff.1 hrows
          exact .field hmessage hfields hbefore hcause
      · intro hfails
        cases hfails with
        | unknownMessage _ hnone => exact Or.inl ⟨hnone, rfl⟩
        | field hmessage hfields hbefore hcause =>
            exact Or.inr ⟨_, _, hmessage, messageRows_eq_error_iff.2 ⟨_, _, _, hfields, hcause, hbefore⟩, rfl⟩
        | document hformat _ _ => exact absurd rfl hformat
  | json =>
      have hjson : failure? (showMessage registry typeName .json) = failure? (showDefault registry typeName) :=
        failure?_map _ _
      rw [← failure?_eq_some_iff, hjson, failure?_eq_some_iff]
      exact showDefault_fails_iff nofun
  | yaml =>
      have hyaml : failure? (showMessage registry typeName .yaml) = failure? (showDefault registry typeName) :=
        failure?_map _ _
      rw [← failure?_eq_some_iff, hyaml, failure?_eq_some_iff]
      exact showDefault_fails_iff nofun

theorem perform_contains_fails_iff {typeName : String} :
    ((perform registry (.contains typeName)).on session).1 = some (.error failure) ↔
      (Request.contains typeName).FailsWith registry session.directory failure := by
  rw [on_perform_of_print rfl, containingMessages?_eq_error_iff]
  constructor
  · rintro ⟨hmessage, henum, rfl⟩
    exact .unknownContained hmessage henum
  · intro hfails
    cases hfails with
    | unknownContained hmessage henum => exact ⟨hmessage, henum, rfl⟩

theorem perform_url_fails_iff {typeNames : List String} :
    ((perform registry (.url typeNames)).on session).1 = some (.error failure) ↔
      (Request.url typeNames).FailsWith registry session.directory failure := by
  have hanswer : answer? registry (.url typeNames) =
      (some (typeNames.mapM (typeUrl registry))).map (·.map fun urls => .print (linesText urls)) := rfl
  rw [on_perform_of_print hanswer, Option.some_inj, mapM_eq_error_iff]
  simp only [typeUrl_eq_ok_iff, typeUrl_eq_error_iff]
  constructor
  · rintro ⟨before, typeName, after, rfl, ⟨hnone, rfl⟩, hbefore⟩
    exact .unknownUrl hbefore hnone
  · intro hfails
    cases hfails with
    | unknownUrl hbefore hnone => exact ⟨_, _, _, rfl, ⟨hnone, rfl⟩, hbefore⟩

/-- A request that fails or is stuck has printed nothing and saved nothing: all that can fail or be stuck comes
before. -/
theorem eq_of_perform_ne_ok {request : Request} {result? : Option (Except Failure Unit)} {after : Session}
    (h : (perform registry request).on session = (result?, after)) (hne : result? ≠ some (.ok ())) :
    after = session := by
  rw [on_perform] at h
  generalize answer? registry request = answer at h
  rcases answer with _ | (_ | (text | ⟨path, text⟩))
  · exact (Prod.mk.inj h).2.symm
  · exact (Prod.mk.inj h).2.symm
  · exact absurd (Prod.mk.inj h).1.symm hne
  · dsimp only at h
    rw [on_save] at h
    cases hwrite : session.directory.write path text.toUTF8.toList with
    | error cause =>
        rw [hwrite] at h
        exact (Prod.mk.inj h).2.symm
    | ok directory =>
        rw [hwrite] at h
        exact absurd (Prod.mk.inj h).1.symm hne

/-- A request has no end only in a search. -/
theorem perform_endless_iff {request : Request} :
    ((perform registry request).on session).1 = none ↔ request.Endless registry := by
  -- What is saved or printed has an end, so only the answer can be missing.
  have hanswer : ((perform registry request).on session).1 = none ↔ answer? registry request = none := by
    rw [on_perform]
    rcases answer? registry request with _ | (_ | (text | ⟨path, text⟩)) <;> simp only [reduceCtorEq]
    rw [on_save]
    cases session.directory.write path text.toUTF8.toList <;> simp
  rw [hanswer]
  constructor
  · intro hnone
    cases request with
    | contains typeName =>
        have hsearch : containingMessages? registry typeName = none := by
          rwa [answer?, Option.map_eq_none_iff] at hnone
        obtain ⟨hfound, hcircle⟩ := containingMessages?_eq_none_iff.1 hsearch
        exact .contains hfound hcircle
    | _ => cases hnone
  · intro hendless
    cases hendless with
    | contains hfound hcircle =>
        rw [answer?, containingMessages?_eq_none_iff.2 ⟨hfound, hcircle⟩]
        rfl

/-- A request fails in the listed cases and in no others. -/
theorem perform_fails_iff {request : Request} :
    ((perform registry request).on session).1 = some (.error failure) ↔
      request.FailsWith registry session.directory failure := by
  cases request with
  | generate typeName config output => exact perform_generate_fails_iff
  | list =>
      have hlist : ((perform registry .list).on session).1 = some (.ok ()) := by
        rw [perform, on_printLines]
      rw [hlist]
      constructor
      · intro hfailure
        cases hfailure
      · intro hfails
        cases hfails
  | «show» typeName format => exact perform_show_fails_iff
  | contains typeName => exact perform_contains_fails_iff
  | url typeNames => exact perform_url_fails_iff

end Perform

end Work

/-! ## Commands -/

section Loading

variable {read : ReadFile}

/-- All sets that can be loaded are added as one. -/
theorem loadFiles_of_mapM {paths : List String} {sets : List FileSet}
    (h : paths.mapM (loadFile read) = .ok sets) (registry : Registry) :
    loadFiles read registry paths = (registry.addFiles sets.flatten, none) := by
  induction paths generalizing registry sets with
  | nil =>
      rw [List.mapM_nil, pure_eq_ok_iff] at h
      subst h
      rfl
  | cons path rest ih =>
      obtain ⟨files, more, hfiles, hmore, rfl⟩ := mapM_cons_eq_ok_iff.1 h
      rw [loadFiles, hfiles]
      show loadFiles read (registry.addFiles files) rest = _
      rw [ih hmore, List.flatten_cons, Registry.addFiles, Registry.addFiles, Registry.addFiles,
        List.foldl_append]

/-- Loading stops at the first set that cannot be loaded. -/
theorem loadFiles_of_error {before : List String} {path : String} {cause : LoadError}
    (hbefore : ∀ earlier ∈ before, ∃ files, loadFile read earlier = .ok files)
    (h : loadFile read path = .error cause) (after : List String) (registry : Registry) :
    ∃ loaded, loadFiles read registry (before ++ path :: after) = (loaded, some (.loading path cause)) := by
  induction before generalizing registry with
  | nil =>
      rw [List.nil_append, loadFiles, h]
      exact ⟨registry, rfl⟩
  | cons earlier rest ih =>
      obtain ⟨files, hfiles⟩ := hbefore earlier List.mem_cons_self
      rw [List.cons_append, loadFiles, hfiles]
      exact ih (fun other hother => hbefore other (List.mem_cons_of_mem _ hother)) _

end Loading

section Process

variable {directory : Directory} {invocation : Invocation} {failure : Failure}

/-- A process fails at the first set that cannot be loaded. -/
theorem process_of_loading_error {before after : List String} {path : String} {cause : LoadError}
    (hpaths : invocation.descriptorSets = before ++ path :: after)
    (hbefore : ∀ earlier ∈ before, ∃ files, loadFile directory.read earlier = .ok files)
    (h : loadFile directory.read path = .error cause) :
    ((Work.process invocation).on { directory }).1 = some (.error (.loading path cause)) := by
  obtain ⟨registry, hstop⟩ := loadFiles_of_error hbefore h after {}
  rw [Work.on_process, hpaths, hstop]

theorem process_of_nil (hsources : invocation.sources = []) (hempty : invocation.descriptorSets = []) :
    ((Work.process invocation).on { directory }).1 = some (.error .noDescriptors) := by
  rw [Work.on_process, hsources, hempty]
  rfl

/-- Once all sets are loaded, a process does what is asked for. -/
theorem process_of_sets {sets : List FileSet} (hsources : invocation.sources = [])
    (hsome : invocation.descriptorSets ≠ [])
    (hsets : invocation.descriptorSets.mapM (loadFile directory.read) = .ok sets) :
    (Work.process invocation).on { directory } =
      (Work.perform (.ofFiles sets.flatten) invocation.request).on
        (Work.loaded directory (.ofFiles sets.flatten)) := by
  have hisEmpty : invocation.descriptorSets.isEmpty = false := by simpa using hsome
  rw [Work.on_process, hsources, loadFiles_of_mapM hsets, hisEmpty]
  rfl

theorem process_fails_of_failsWith (hsources : invocation.sources = [])
    (h : invocation.FailsWith directory failure) :
    ((Work.process invocation).on { directory }).1 = some (.error failure) := by
  cases h with
  | loading hpaths hbefore hcause => exact process_of_loading_error hpaths hbefore hcause
  | noDescriptors hempty => exact process_of_nil hsources hempty
  | request hsome hsets hrequest =>
      rw [process_of_sets hsources hsome hsets]
      exact Work.perform_fails_iff.2 hrequest

theorem failsWith_of_process_fails (hsources : invocation.sources = [])
    (h : ((Work.process invocation).on { directory }).1 = some (.error failure)) :
    invocation.FailsWith directory failure := by
  by_cases hempty : invocation.descriptorSets = []
  · rw [process_of_nil hsources hempty] at h
    cases h
    exact .noDescriptors hempty
  · cases hsets : invocation.descriptorSets.mapM (loadFile directory.read) with
    | error cause =>
        obtain ⟨before, path, after, hpaths, hcause, hbefore⟩ := mapM_eq_error_iff.1 hsets
        rw [process_of_loading_error hpaths hbefore hcause] at h
        cases h
        exact .loading hpaths hbefore hcause
    | ok sets =>
        rw [process_of_sets hsources hempty hsets] at h
        exact .request hempty hsets (Work.perform_fails_iff.1 h)

/-- A process fails in the listed cases and in no others. -/
theorem process_fails_iff (hsources : invocation.sources = []) :
    ((Work.process invocation).on { directory }).1 = some (.error failure) ↔
      invocation.FailsWith directory failure :=
  ⟨failsWith_of_process_fails hsources, process_fails_of_failsWith hsources⟩

/-- A process has no end in the listed case and in no other. -/
theorem process_endless_iff (hsources : invocation.sources = []) :
    ((Work.process invocation).on { directory }).1 = none ↔ invocation.Endless directory := by
  constructor
  · intro h
    by_cases hempty : invocation.descriptorSets = []
    · rw [process_of_nil hsources hempty] at h
      cases h
    · cases hsets : invocation.descriptorSets.mapM (loadFile directory.read) with
      | error cause =>
          obtain ⟨before, path, after, hpaths, hcause, hbefore⟩ := mapM_eq_error_iff.1 hsets
          rw [process_of_loading_error hpaths hbefore hcause] at h
          cases h
      | ok sets =>
          rw [process_of_sets hsources hempty hsets] at h
          exact ⟨hempty, sets, hsets, Work.perform_endless_iff.1 h⟩
  · rintro ⟨hsome, sets, hsets, hrequest⟩
    rw [process_of_sets hsources hsome hsets]
    exact Work.perform_endless_iff.2 hrequest

/-- A process that failed or has no end has printed nothing and saved nothing, and has reported warnings
only. -/
theorem process_silent_of_ne_ok {result? : Option (Except Failure Unit)} {session : Session}
    (h : (Work.process invocation).on { directory } = (result?, session)) (hne : result? ≠ some (.ok ())) :
    ∃ registry, session = Work.loaded directory registry := by
  rw [Work.on_process] at h
  cases hload : loadFiles directory.read {} invocation.descriptorSets with
  | mk registry cause =>
    refine ⟨registry, ?_⟩
    rw [hload] at h
    cases cause with
    | some cause => exact (Prod.mk.inj h).2.symm
    | none =>
      dsimp only at h
      split at h
      · exact (Prod.mk.inj h).2.symm
      · split at h
        · exact (Prod.mk.inj h).2.symm
        · exact Work.eq_of_perform_ne_ok h hne

/-- A command line that is understood and needs no compiler fails in the listed cases and in no others.  Then
nothing is on standard output and no file was written, although the process prints and saves as it goes: on
standard error there is one message, behind the warnings of the files that were loaded.  Only a search that
circles has no end, and then the process has printed and saved nothing either. -/
theorem run_fails_silently {arguments : List String}
    (hinvocation : Invocation.ofArguments arguments = .ok invocation) (hsources : invocation.sources = [])
    (directory : Directory) :
    directory.run? arguments = Work.response? ((Work.process invocation).on { directory }) ∧
      (∀ failure, ((Work.process invocation).on { directory }).1 = some (.error failure) ↔
        invocation.FailsWith directory failure) ∧
      (∀ failure, invocation.FailsWith directory failure → ∃ warnings, directory.run? arguments =
        some (⟨1, "", warningText warnings ++ ("prost-crd: " ++ ": ".intercalate failure.chain ++ "\n")⟩,
          directory)) ∧
      (∀ response after, directory.run? arguments = some (response, after) → response.exitCode ≠ 0 →
        ∃ failure, invocation.FailsWith directory failure) ∧
      (directory.run? arguments = none ↔ invocation.Endless directory) ∧
      (invocation.Endless directory → ∃ warnings,
        (Work.process invocation).on { directory } = (none, ⟨directory, "", warningText warnings⟩)) := by
  have hrun := Work.run?_eq_response? hinvocation directory
  have hendless : ((Work.process invocation).on { directory }).1 = none ↔ invocation.Endless directory :=
    process_endless_iff hsources
  have hfails : ∀ failure, ((Work.process invocation).on { directory }).1 = some (.error failure) ↔
      invocation.FailsWith directory failure := fun failure => process_fails_iff hsources
  rcases hprocess : (Work.process invocation).on { directory } with ⟨result?, session⟩
  rw [hprocess] at hrun hendless hfails
  refine ⟨hrun, hfails, ?_, ?_, ?_, ?_⟩
  · intro failure hfailure
    obtain rfl : result? = some (.error failure) := (hfails failure).2 hfailure
    obtain ⟨registry, rfl⟩ := process_silent_of_ne_ok hprocess (by simp)
    exact ⟨registry.warnings, hrun⟩
  · intro response after hresponse hcode
    rw [hrun] at hresponse
    rcases result? with _ | (failure | _)
    · cases hresponse
    · exact ⟨failure, (hfails failure).1 rfl⟩
    · cases hresponse
      exact absurd rfl hcode
  · rw [hrun, ← hendless]
    rcases result? with _ | (failure | _) <;> simp [Work.response?]
  · intro h
    obtain rfl : result? = none := hendless.2 h
    obtain ⟨registry, rfl⟩ := process_silent_of_ne_ok hprocess (by simp)
    exact ⟨registry.warnings, rfl⟩

end Process

/-- A directory with the descriptors of one message, in a file of an unknown language level. -/
def storedDirectory : Directory where
  files := [("set.bin", encodeFiles [{
    name := some "t.proto"
    package := some "t"
    messages := [{ name := some "M" }]
    dialect := some "proto9" }])]

/-- Of two names the second is unknown: the URL of the first is not printed. -/
theorem run_url_fails_silently :
    Invocation.ofArguments ["-d", "set.bin", "url", "t.M", "t.X"] =
        .ok ⟨["set.bin"], [], .url ["t.M", "t.X"]⟩ ∧
      Invocation.FailsWith storedDirectory ⟨["set.bin"], [], .url ["t.M", "t.X"]⟩ (.unknownType "t.X") ∧
      ∃ warnings, storedDirectory.run? ["-d", "set.bin", "url", "t.M", "t.X"] =
        some (⟨1, "", warningText warnings ++ "prost-crd: failed to find type \"t.X\"\n"⟩, storedDirectory) := by
  have hinvocation : Invocation.ofArguments ["-d", "set.bin", "url", "t.M", "t.X"] =
      .ok ⟨["set.bin"], [], .url ["t.M", "t.X"]⟩ := by
    decide +kernel
  have hresult : ((Work.process ⟨["set.bin"], [], .url ["t.M", "t.X"]⟩).on
      { directory := storedDirectory }).1 = some (.error (.unknownType "t.X")) := by
    decide +kernel
  have htext : "prost-crd: " ++ ": ".intercalate (Failure.unknownType "t.X").chain ++ "\n" =
      "prost-crd: failed to find type \"t.X\"\n" := by
    decide +kernel
  obtain ⟨-, hfails_iff, hsilent, -⟩ := run_fails_silently hinvocation rfl storedDirectory
  have hfails := (hfails_iff _).1 hresult
  obtain ⟨warnings, hrun⟩ := hsilent _ hfails
  exact ⟨hinvocation, hfails, warnings, hrun.trans (by rw [htext])⟩

/-- A directory with the descriptors of a map entry that searches do not come out of. -/
def circlingDirectory : Directory where
  files := [("set.bin", encodeFiles [circlingFile])]

/-- The search goes through the entry again and again, and the run has no response. -/
example : circlingDirectory.run? ["-d", "set.bin", "contains", "t.M"] = none := by
  decide +kernel

end CustomResource.Command
