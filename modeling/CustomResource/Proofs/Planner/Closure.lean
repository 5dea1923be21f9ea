import CustomResource.Proofs.Planner.Log

/-!
# What a drain hands out

A drain without failures hands out every name that was asked for, before it or by one of its own calls, and
no other.  Since every request is answered by whether it is the first of its name, the order in which names
are handed out is the order of the requests that were granted, see `Records.entries_eq`.

What was asked for is a closure, `Requested`: it begins with the requests made before the drain and goes on
with those that the calls for its members make.
-/

namespace CustomResource

open Request

/-! ## Generators that do not fail -/

namespace Script

variable {G E T : Type}

/-- A script that has an output, whatever the planner answers. -/
inductive Succeeds : Script G E T → Prop where
  | done (output : T) : Succeeds (.done output)
  | request (name : String) (generator : G) (next : Bool → Script G E T)
      (rest : ∀ answer, Succeeds (next answer)) : Succeeds (.request name generator next)
  | visited (name : String) (next : Bool → Script G E T)
      (rest : ∀ answer, Succeeds (next answer)) : Succeeds (.visited name next)
  | state (next : PlannerState → Script G E T)
      (rest : ∀ answer, Succeeds (next answer)) : Succeeds (.state next)

theorem Succeeds.exists_output {script : Script G E T} (h : script.Succeeds) :
    ∀ planner : Planner G, ∃ output, (script.run planner).2 = .ok output := by
  induction h with
  | done output => exact fun _ => ⟨output, rfl⟩
  | request name generator next _ ih => exact fun planner => ih _ _
  | visited name next _ ih => exact fun planner => ih _ planner
  | state next _ ih => exact fun planner => ih _ planner

theorem Succeeds.requestAll {next : Script G E T} (hnext : next.Succeeds) :
    ∀ entries : List (String × G), (Script.requestAll entries next).Succeeds
  | [] => hnext
  | (name, generator) :: rest => .request name generator _ fun _ => hnext.requestAll rest

theorem RequestsIn.mono {known more : List String} {script : Script G E T}
    (h : script.RequestsIn known) (hsub : ∀ name ∈ known, name ∈ more) : script.RequestsIn more := by
  induction h with
  | done output => exact .done _
  | fail error => exact .fail error
  | request name generator next mem _ ih => exact .request name generator next (hsub name mem) ih
  | visited name next _ ih => exact .visited name next ih
  | state next _ ih => exact .state next ih

end Script

/-! ## Outputs -/

namespace Planned

variable {E T : Type}

/-- An output as the outcome of its call. -/
def succeeded (planned : Planned T) : Planned (Except E T) :=
  ⟨planned.name, .ok planned.output⟩

/-- Calls have outputs exactly if each of them has one. -/
theorem outputs_eq_ok_iff {calls : List (Planned (Except E T))} {outputs : List (Planned T)} :
    Planned.outputs calls = .ok outputs ↔ calls = outputs.map succeeded := by
  induction calls generalizing outputs with
  | nil =>
      rw [Planned.outputs, eq_comm (a := []), List.map_eq_nil_iff, Except.ok.injEq, eq_comm]
  | cons call rest ih =>
      obtain ⟨name, outcome⟩ := call
      cases outcome with
      | error error =>
          simp only [Planned.outputs, reduceCtorEq, false_iff]
          intro h
          cases outputs <;> simp [succeeded] at h
      | ok output =>
          rw [Planned.outputs]
          constructor
          · intro h
            cases hrest : Planned.outputs rest with
            | error error => rw [hrest] at h; cases h
            | ok more =>
                rw [hrest] at h
                cases h
                rw [List.map_cons, ← ih.1 hrest]
                rfl
          · intro h
            cases outputs with
            | nil => cases h
            | cons first more =>
                obtain ⟨hcall, hrest⟩ := List.cons.inj h
                rw [ih.2 hrest]
                cases first
                simp only [succeeded, Planned.mk.injEq, Except.ok.injEq] at hcall
                obtain ⟨rfl, rfl⟩ := hcall
                rfl

end Planned

namespace Call

variable {G E T : Type}

/-- Calls without failures have a list of outputs. -/
theorem exists_outputs {log : List (Call G E T)}
    (h : ∀ call ∈ log, ∃ output, call.outcome = .ok output) :
    ∃ outputs : List (Planned T), log.map (·.planned) = outputs.map Planned.succeeded := by
  induction log with
  | nil => exact ⟨[], rfl⟩
  | cons first rest ih =>
      obtain ⟨output, houtput⟩ := h first List.mem_cons_self
      obtain ⟨outputs, houtputs⟩ := ih fun call hcall => h call (List.mem_cons_of_mem _ hcall)
      refine ⟨⟨first.name, output⟩ :: outputs, ?_⟩
      rw [List.map_cons, List.map_cons, houtputs, Call.planned, houtput]
      rfl

end Call

/-! ## Complete drains -/

namespace Planner

variable {S G E T : Type}

/-- The planner after requests on a fresh one. -/
theorem records_requestAll (entries : List (String × G)) :
    (({} : Planner G).requestAll entries).Records (({} : Planner G).answers entries) [] :=
  records_empty.asks (({} : Planner G).asks_answers entries)

/-- The state does not matter for what was asked and handed out. -/
theorem Records.withState {planner : Planner G} {asked : List (Request G)}
    {handed : List (String × G)} (h : planner.Records asked handed) (state : PlannerState) :
    { planner with state := state }.Records asked handed :=
  ⟨h.granted_eq, h.visited_iff, h.pending_iff, h.first⟩

section Complete

variable {generate : S → G → Script G E (S × T)} {memory : S} {planner final : Planner G}
  {log : List (Call G E T)} {initial : List (Request G)}

/-- Every request of a drain is the first of its name exactly if it was granted. -/
theorem Records.firstGranted (hrecords : planner.Records initial [])
    (h : Drains generate memory planner log final) :
    FirstGranted (initial ++ log.flatMap (·.requests)) :=
  (Records.drains h hrecords).first

/-- Without failures, what was granted is what was handed out. -/
theorem Records.entries_eq (hrecords : planner.Records initial [])
    (h : Drains generate memory planner log final)
    (hlog : ∀ call ∈ log, ∃ output, call.outcome = .ok output) :
    granted (initial ++ log.flatMap (·.requests)) = log.map (·.entry) := by
  have hgranted := (Records.drains h hrecords).granted_eq
  rw [h.queue_eq_nil hlog, List.append_nil, List.nil_append] at hgranted
  exact hgranted

/-- The names handed out are those asked for, in the order of their first requests. -/
theorem Records.names_eq (hrecords : planner.Records initial [])
    (h : Drains generate memory planner log final)
    (hlog : ∀ call ∈ log, ∃ output, call.outcome = .ok output) :
    log.map (·.name) = ((initial ++ log.flatMap (·.requests)).map (·.name)).eraseDups := by
  rw [← (hrecords.firstGranted h).names_granted, hrecords.entries_eq h hlog, List.map_map]
  rfl

/-- The generator of a call is the one of the first request for its name. -/
theorem Records.find?_eq (hrecords : planner.Records initial [])
    (h : Drains generate memory planner log final)
    (hlog : ∀ call ∈ log, ∃ output, call.outcome = .ok output) {call : Call G E T}
    (hcall : call ∈ log) :
    (initial ++ log.flatMap (·.requests)).find? (fun request => request.name == call.name) =
      some ⟨call.name, call.generator, true⟩ := by
  refine (hrecords.firstGranted h).find?_eq ?_
  rw [hrecords.entries_eq h hlog]
  exact List.mem_map_of_mem hcall

end Complete

/-! ## Closures -/

/-- A request queues at most the name and the generator it is made with. -/
theorem mem_queue_of_asks {planner after : Planner G} {requests : List (Request G)}
    (h : planner.Asks requests after) {entry : String × G} (hentry : entry ∈ after.queue) :
    entry ∈ planner.queue ∨ ∃ request ∈ requests, entry = request.entry := by
  induction h with
  | nil planner => exact Or.inl hentry
  | @cons planner after name generator rest _ ih =>
      rcases ih hentry with hqueue | ⟨request, hrequest, rfl⟩
      · unfold Planner.request at hqueue
        split at hqueue
        · exact Or.inl hqueue
        · rcases List.mem_append.1 hqueue with hqueue | hlast
          · exact Or.inl hqueue
          · exact Or.inr ⟨_, List.mem_cons_self, List.mem_singleton.1 hlast⟩
      · exact Or.inr ⟨request, List.mem_cons_of_mem _ hrequest, rfl⟩

/-- What holds of the queue, and of the requests of every call it holds of, holds of all calls. -/
theorem Drains.entry_induction {generate : S → G → Script G E (S × T)} {memory : S}
    {planner final : Planner G} {log : List (Call G E T)} {P : String × G → Prop}
    (h : Drains generate memory planner log final) :
    (∀ entry ∈ planner.queue, P entry) →
    (∀ call ∈ log, P call.entry → ∀ request ∈ call.requests, P request.entry) →
    ∀ call ∈ log, P call.entry := by
  induction h with
  | done hqueue => simp
  | fail hqueue hrun =>
      intro hstart _ call hcall
      rw [List.mem_singleton.1 hcall]
      exact hstart _ (by simp [hqueue, Call.entry])
  | @call memory next planner after final name generator rest output log hqueue hrun _ ih =>
      intro hstart hstep
      have hfirst : P (name, generator) := hstart _ (by simp [hqueue])
      have hrequests := hstep _ List.mem_cons_self hfirst
      have hasks := (generate memory generator).asks_requests (planner.handOut name rest)
      rw [hrun] at hasks
      -- The queue that the call leaves was there before or comes from its requests.
      have hrest : ∀ call ∈ log, P call.entry := by
        refine ih (fun entry hentry => ?_) fun call hcall => hstep call (List.mem_cons_of_mem _ hcall)
        rcases mem_queue_of_asks hasks hentry with hentry | ⟨request, hrequest, rfl⟩
        · exact hstart entry (by rw [hqueue]; exact List.mem_cons_of_mem _ hentry)
        · exact hrequests request hrequest
      intro call hcall
      rcases List.mem_cons.1 hcall with rfl | hcall
      · exact hfirst
      · exact hrest call hcall

/-- The names asked for: those of the first requests, and those that the calls for such names ask for. -/
inductive Requested (initial : List (Request G)) (log : List (Call G E T)) : String → Prop where
  | initial {request : Request G} (hrequest : request ∈ initial) :
      Requested initial log request.name
  | call {call : Call G E T} {request : Request G} (hcall : call ∈ log)
      (hname : Requested initial log call.name) (hrequest : request ∈ call.requests) :
      Requested initial log request.name

/-- A drain without failures hands out the closure of the first requests. -/
theorem Drains.mem_names_iff_requested {generate : S → G → Script G E (S × T)} {memory : S}
    {planner final : Planner G} {log : List (Call G E T)} {initial : List (Request G)}
    (hrecords : planner.Records initial []) (h : Drains generate memory planner log final)
    (hlog : ∀ call ∈ log, ∃ output, call.outcome = .ok output) (name : String) :
    name ∈ log.map (·.name) ↔ Requested initial log name := by
  have hnames := hrecords.names_eq h hlog
  constructor
  · intro hname
    obtain ⟨call, hcall, rfl⟩ := List.mem_map.1 hname
    refine h.entry_induction (P := fun entry => Requested initial log entry.1) ?_ ?_ call hcall
    · intro entry hentry
      have hgranted : entry ∈ granted initial := by
        rw [hrecords.granted_eq]
        exact hentry
      obtain ⟨request, hrequest, rfl⟩ := List.mem_map.1 hgranted
      exact .initial (List.mem_filter.1 hrequest).1
    · exact fun call hcall hname request hrequest => .call hcall hname hrequest
  · intro hname
    rw [hnames, List.mem_eraseDups]
    cases hname with
    | initial hrequest => exact List.mem_map_of_mem (List.mem_append_left _ hrequest)
    | call hcall _ hrequest =>
        refine List.mem_map_of_mem (List.mem_append_right _ ?_)
        exact List.mem_flatMap.2 ⟨_, hcall, hrequest⟩

/-! ## The drain of a fresh planner -/

/-- A drain from a planner that holds to the invariant has a log, and as many calls at most as there are
names that may be asked for. -/
theorem Records.exists_drains {generate : S → G → Script G E (S × T)} {planner : Planner G}
    {asked : List (Request G)} {known : List String} (hrecords : planner.Records asked [])
    (hrequests : ∀ memory generator, (generate memory generator).RequestsIn known) (memory : S) :
    ∃ log final, Drains generate memory planner log final ∧
      log.length ≤ known.length + asked.length := by
  -- Names that were asked for before need not be among those that generators ask for.
  have hmore : ∀ memory generator,
      (generate memory generator).RequestsIn (known ++ asked.map (·.name)) :=
    fun memory generator => (hrequests memory generator).mono fun name hname =>
      List.mem_append_left _ hname
  have hsome := callsFrom?_isSome hmore (known.length + asked.length) memory hrecords.consistent
    (fun name hname => List.mem_append_right _ (hrecords.mem_asked_of_mem_names hname)) (by
      have hlength : (planner.remaining (known ++ asked.map (·.name))).length ≤
          (known ++ asked.map (·.name)).length :=
        List.length_filter_le _ _
      simpa using hlength)
  obtain ⟨calls, hcalls⟩ := Option.isSome_iff_exists.1 hsome
  obtain ⟨log, final, hdrains, _, hlength⟩ := exists_drains_of_callsFrom? _ hcalls
  exact ⟨log, final, hdrains, hlength⟩

/-- Calls of generators that do not fail have outputs. -/
theorem Drains.exists_output {generate : S → G → Script G E (S × T)} {memory : S}
    {planner final : Planner G} {log : List (Call G E T)}
    (h : Drains generate memory planner log final)
    (hsucceeds : ∀ memory generator, (generate memory generator).Succeeds) :
    ∀ call ∈ log, ∃ output, call.outcome = .ok output := by
  intro call hcall
  obtain ⟨memory, planner, _, hrun⟩ := h.exists_run call hcall
  obtain ⟨output, houtput⟩ := (hsucceeds memory call.generator).exists_output planner
  rw [houtput] at hrun
  exact ⟨output.2, hrun⟩

/-- Drain a planner after any requests, with generators that do not fail and ask for names of a finite list
only.  The drain ends.  It calls one generator for each name asked for, the generator of the first request
for that name.  Its outputs are in the order of the requests that were granted, and their names are the
closure of the requests made before the drain under those of the calls. -/
theorem drain_outputs_closure_in_granted_order (generate : S → G → Script G E (S × T))
    (known : List String)
    (hsucceeds : ∀ memory generator, (generate memory generator).Succeeds)
    (hrequests : ∀ memory generator, (generate memory generator).RequestsIn known)
    (memory : S) (entries : List (String × G)) :
    let planner := ({} : Planner G).requestAll entries
    let initial := ({} : Planner G).answers entries
    ∃ (log : List (Call G E T)) (outputs : List (Planned T)),
      let asked := initial ++ log.flatMap (·.requests)
      (∃ final, Drains generate memory { planner with state := .draining } log final) ∧
      (∀ fuel, known.length + entries.length ≤ fuel →
        planner.drainFrom? generate fuel memory = some (log.map (·.planned))) ∧
      Planned.outputs (log.map (·.planned)) = .ok outputs ∧
      (log.map (·.name)).Nodup ∧
      (∀ name, name ∈ log.map (·.name) ↔ name ∈ asked.map (·.name)) ∧
      outputs.map (·.name) = (asked.filter (·.queued)).map (·.name) ∧
      (∀ call ∈ log, asked.find? (fun request => request.name == call.name) =
        some ⟨call.name, call.generator, true⟩) ∧
      (∀ name, name ∈ outputs.map (·.name) ↔ Requested initial log name) := by
  intro planner initial
  have hrecords : { planner with state := .draining }.Records initial [] :=
    (records_requestAll entries).withState .draining
  have hinitial : initial.length = entries.length := by
    have hentries := congrArg List.length (map_entry_answers entries ({} : Planner G))
    rw [List.length_map] at hentries
    exact hentries
  obtain ⟨log, final, hdrains, hlength⟩ := hrecords.exists_drains hrequests memory
  have hlog := hdrains.exists_output hsucceeds
  obtain ⟨outputs, houtputs⟩ := Call.exists_outputs hlog
  have hnames := hrecords.names_eq hdrains hlog
  have hsame : outputs.map (·.name) = log.map (·.name) := by
    have hplanned := congrArg (List.map (·.name)) houtputs
    rw [List.map_map, List.map_map] at hplanned
    exact hplanned.symm
  have hentries : (granted (initial ++ log.flatMap (·.requests))).map Prod.fst =
      log.map (·.name) := by
    rw [hrecords.entries_eq hdrains hlog, List.map_map]
    rfl
  refine ⟨log, outputs, ⟨final, hdrains⟩, ?_, Planned.outputs_eq_ok_iff.2 houtputs, ?_, ?_, ?_, ?_, ?_⟩
  · exact fun fuel hfuel => hdrains.callsFrom?_eq fuel (by omega)
  · rw [hnames]
    exact nodup_eraseDups _
  · intro name
    rw [hnames, List.mem_eraseDups]
  · rw [hsame, ← hentries, granted, List.map_map]
    rfl
  · exact fun call hcall => hrecords.find?_eq hdrains hlog hcall
  · intro name
    rw [hsame]
    exact hdrains.mem_names_iff_requested hrecords hlog name

/-- A generator that asks for two names, whatever its own is, and numbers its calls. -/
def askTwice (calls : Nat) (generator : String) : Script String Unit (Nat × String × Nat) :=
  .requestAll [("a", generator ++ "a"), ("c", generator ++ "c")] (.done (calls + 1, generator, calls))

/-- A name that is asked for again and a name that asks for itself are handed out once, to the generator of
their first request. -/
theorem drain_askTwice_outputs :
    ∃ outputs : List (Planned (String × Nat)),
      ((({} : Planner String).requestAll [("a", "x"), ("b", "y"), ("a", "z")]).drainFrom?
        askTwice 5 0).map Planned.outputs = some (.ok outputs) ∧
      outputs = [⟨"a", "x", 0⟩, ⟨"b", "y", 1⟩, ⟨"c", "xc", 2⟩] := by
  obtain ⟨log, outputs, -, hfuel, houtputs, -⟩ :=
    drain_outputs_closure_in_granted_order askTwice ["a", "c"]
      (fun _ _ => (Script.Succeeds.done _).requestAll _)
      (fun _ _ => (Script.RequestsIn.done _).requestAll _ (by simp)) 0
      [("a", "x"), ("b", "y"), ("a", "z")]
  have hcalls : ((({} : Planner String).requestAll [("a", "x"), ("b", "y"), ("a", "z")]).drainFrom?
      askTwice 5 0).map Planned.outputs = some (.ok outputs) := by
    rw [hfuel 5 (Nat.le_refl 5), Option.map_some, houtputs]
  refine ⟨outputs, hcalls, ?_⟩
  have hvalue : ((({} : Planner String).requestAll [("a", "x"), ("b", "y"), ("a", "z")]).drainFrom?
      askTwice 5 0).map Planned.outputs =
        some (.ok [⟨"a", "x", 0⟩, ⟨"b", "y", 1⟩, ⟨"c", "xc", 2⟩]) := by
    rfl
  rw [hvalue] at hcalls
  exact (Except.ok.inj (Option.some.inj hcalls)).symm

end Planner

end CustomResource
