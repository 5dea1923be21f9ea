import CustomResource.Planner.Termination
import CustomResource.Proofs.BreadthFirst

/-!
# Logs of drains

A drain answers with names and outcomes.  Its log tells more: the generator of every call and the requests of
that call, each with the planner's answer.  `Planner.Drains` is the drain as a relation between a planner and
its log, without fuel, and `Drains.callsFrom?_eq` and `exists_drains_of_callsFrom?` say that it is the drain
that runs.

The invariant of a drain is `Planner.Records`: the names granted so far are those handed out followed by the
queue.  Together with `FirstGranted`, that a request is granted exactly if it is the first of its name, it
decides every order in which a planner hands out names.
-/

namespace CustomResource

/-! ## Requests -/

/-- A request as it was made, with the planner's answer. -/
structure Request (G : Type) where
  name : String
  generator : G
  queued : Bool
  deriving DecidableEq, Repr

/-- A call of a generator: the name it is to produce, its requests and its outcome. -/
structure Call (G E T : Type) where
  name : String
  generator : G
  requests : List (Request G)
  outcome : Except E T

namespace Call

variable {G E T : Type}

/-- The call as a drain reports it. -/
def planned (call : Call G E T) : Planned (Except E T) :=
  ⟨call.name, call.outcome⟩

/-- The name and the generator of a call. -/
def entry (call : Call G E T) : String × G :=
  (call.name, call.generator)

end Call

namespace Request

variable {G : Type}

/-- What a request is for, as a queue holds it. -/
def entry (request : Request G) : String × G :=
  (request.name, request.generator)

/-- The requests that were granted, as the queue holds them. -/
def granted (asked : List (Request G)) : List (String × G) :=
  (asked.filter (·.queued)).map entry

@[simp] theorem granted_append (first second : List (Request G)) :
    granted (first ++ second) = granted first ++ granted second := by
  simp [granted]

/-- A request is granted exactly if no request before it was for its name. -/
def FirstGranted (asked : List (Request G)) : Prop :=
  ∀ before request after, asked = before ++ request :: after →
    (request.queued = true ↔ request.name ∉ before.map (·.name))

theorem firstGranted_nil : FirstGranted ([] : List (Request G)) := by
  intro before request after h
  simp at h

/-- One more request is first of its name if its answer says so. -/
theorem FirstGranted.snoc {asked : List (Request G)} (h : FirstGranted asked) {request : Request G}
    (hrequest : request.queued = true ↔ request.name ∉ asked.map (·.name)) :
    FirstGranted (asked ++ [request]) := by
  intro before other after heq
  -- The request in question is the new one, or the new one comes behind it.
  rcases List.eq_nil_or_concat after with rfl | ⟨after, last, rfl⟩
  · obtain ⟨rfl, hsame⟩ := List.append_inj' heq rfl
    cases hsame
    exact hrequest
  · have hasked : asked = before ++ other :: after := by
      have hassoc : asked ++ [request] = (before ++ other :: after) ++ [last] := by
        simpa using heq
      exact (List.append_inj' hassoc rfl).1
    exact h before other after hasked

theorem FirstGranted.of_append {first second : List (Request G)}
    (h : FirstGranted (first ++ second)) : FirstGranted first := by
  intro before request after heq
  exact h before request (after ++ second) (by simp [heq])

/-- The names granted are those asked for, in the order of their first requests. -/
theorem FirstGranted.names_granted {asked : List (Request G)} (h : FirstGranted asked) :
    (granted asked).map Prod.fst = (asked.map (·.name)).eraseDups := by
  induction asked using List.reverseRecOn with
  | nil => rfl
  | append_singleton asked request ih =>
      have hrequest := h asked request [] rfl
      rw [granted_append, List.map_append, ih h.of_append, List.map_append, List.map_singleton]
      by_cases hname : request.name ∈ asked.map (·.name)
      · have hqueued : request.queued = false := by
          rw [← Bool.not_eq_true, hrequest]
          exact not_not_intro hname
        rw [eraseDups_concat_of_mem hname]
        simp [granted, hqueued]
      · have hqueued : request.queued = true := hrequest.2 hname
        rw [eraseDups_concat_of_not_mem hname]
        simp [granted, entry, hqueued]

/-- A granted request is the first of its name. -/
theorem FirstGranted.find?_eq {asked : List (Request G)} (h : FirstGranted asked) {name : String}
    {generator : G} (hgranted : (name, generator) ∈ granted asked) :
    asked.find? (fun request => request.name == name) = some ⟨name, generator, true⟩ := by
  simp only [granted, List.mem_map, List.mem_filter] at hgranted
  obtain ⟨request, ⟨hmem, hqueued⟩, hentry⟩ := hgranted
  obtain ⟨before, after, rfl⟩ := List.append_of_mem hmem
  have hnew := (h before request after rfl).1 hqueued
  obtain ⟨rfl, rfl⟩ := Prod.mk.inj hentry
  have hbefore : before.find? (fun other => other.name == request.name) = none := by
    rw [List.find?_eq_none]
    intro other hother hsame
    exact hnew (List.mem_map.2 ⟨other, hother, eq_of_beq hsame⟩)
  rw [List.find?_append, hbefore, Option.none_or, List.find?_cons_of_pos (by simp), ← hqueued]

end Request

open Request

/-! ## Asking a planner -/

namespace Planner

variable {G : Type}

/-- Make requests in order, whatever the answers. -/
def requestAll (planner : Planner G) (requests : List (String × G)) : Planner G :=
  requests.foldl (fun planner request => (planner.request request.1 request.2).1) planner

/-- The requests as they are made in order, with the answers. -/
def answers : Planner G → List (String × G) → List (Request G)
  | _, [] => []
  | planner, (name, generator) :: rest =>
      ⟨name, generator, (planner.request name generator).2⟩ ::
        (planner.request name generator).1.answers rest

@[simp] theorem map_entry_answers (requests : List (String × G)) :
    ∀ planner : Planner G, (planner.answers requests).map Request.entry = requests := by
  induction requests with
  | nil => exact fun _ => rfl
  | cons first rest ih => exact fun planner => congrArg (first :: ·) (ih _)

/-- A planner turns into another by answering requests in order. -/
inductive Asks : Planner G → List (Request G) → Planner G → Prop where
  | nil (planner : Planner G) : Asks planner [] planner
  | cons {planner after : Planner G} {name : String} {generator : G} {rest : List (Request G)}
      (hrest : Asks (planner.request name generator).1 rest after) :
      Asks planner (⟨name, generator, (planner.request name generator).2⟩ :: rest) after

theorem asks_answers (requests : List (String × G)) :
    ∀ planner : Planner G, planner.Asks (planner.answers requests) (planner.requestAll requests) := by
  induction requests with
  | nil => exact fun planner => .nil planner
  | cons first rest ih => exact fun planner => .cons (ih _)

end Planner

namespace Script

variable {G E T U : Type}

/-- The requests of a script that is run on a planner, with the answers. -/
def requests : Script G E T → Planner G → List (Request G)
  | .done _, _ => []
  | .fail _, _ => []
  | .request name generator next, planner =>
      ⟨name, generator, (planner.request name generator).2⟩ ::
        (next (planner.request name generator).2).requests (planner.request name generator).1
  | .visited name next, planner => (next (planner.isVisited name)).requests planner
  | .state next, planner => (next planner.state).requests planner

theorem asks_requests (script : Script G E T) :
    ∀ planner : Planner G, planner.Asks (script.requests planner) (script.run planner).1 := by
  induction script with
  | done output => exact fun planner => .nil planner
  | fail error => exact fun planner => .nil planner
  | request name generator next ih => exact fun planner => .cons (ih _ _)
  | visited name next ih => exact fun planner => ih _ planner
  | state next ih => exact fun planner => ih _ planner

theorem run_map (script : Script G E T) (f : T → U) :
    ∀ planner : Planner G,
      (script.map f).run planner = ((script.run planner).1, (script.run planner).2.map f) := by
  induction script with
  | done output => exact fun _ => rfl
  | fail error => exact fun _ => rfl
  | request name generator next ih => exact fun planner => ih _ _
  | visited name next ih => exact fun planner => ih _ planner
  | state next ih => exact fun planner => ih _ planner

@[simp] theorem requests_map (script : Script G E T) (f : T → U) :
    ∀ planner : Planner G, (script.map f).requests planner = script.requests planner := by
  induction script with
  | done output => exact fun _ => rfl
  | fail error => exact fun _ => rfl
  | request name generator next ih => exact fun planner => congrArg (_ :: ·) (ih _ _)
  | visited name next ih => exact fun planner => ih _ planner
  | state next ih => exact fun planner => ih _ planner

theorem requests_requestAll (entries : List (String × G)) (next : Script G E T) :
    ∀ planner : Planner G, (requestAll entries next).requests planner =
      planner.answers entries ++ next.requests (planner.requestAll entries) := by
  induction entries with
  | nil => exact fun _ => rfl
  | cons first rest ih => exact fun planner => congrArg (_ :: ·) (ih _)

theorem map_requestAll (entries : List (String × G)) (next : Script G E T) (f : T → U) :
    (requestAll entries next).map f = requestAll entries (next.map f) := by
  induction entries with
  | nil => rfl
  | cons first rest ih => exact congrArg (request first.1 first.2) (funext fun _ => ih)

theorem run_requestAll (entries : List (String × G)) (next : Script G E T) :
    ∀ planner : Planner G,
      (requestAll entries next).run planner = next.run (planner.requestAll entries) := by
  induction entries with
  | nil => exact fun _ => rfl
  | cons first rest ih => exact fun planner => ih _

end Script

/-! ## The invariant of a drain -/

namespace Planner

variable {S G E T : Type}

/-- A planner that was asked for `asked` and has handed out `handed`: the rest of the names it granted waits
in the queue. -/
structure Records (planner : Planner G) (asked : List (Request G)) (handed : List (String × G)) :
    Prop where
  granted_eq : granted asked = handed ++ planner.queue
  visited_iff : ∀ name, name ∈ planner.visited ↔ name ∈ handed.map Prod.fst
  pending_iff : ∀ name, name ∈ planner.pending ↔ name ∈ planner.names
  first : FirstGranted asked

theorem records_empty : ({} : Planner G).Records [] [] where
  granted_eq := rfl
  visited_iff := by simp
  pending_iff := by simp [names]
  first := firstGranted_nil

/-- The names asked for are those that wait or were handed out. -/
theorem Records.mem_asked_iff {planner : Planner G} {asked : List (Request G)}
    {handed : List (String × G)} (h : planner.Records asked handed) (name : String) :
    name ∈ asked.map (·.name) ↔ name ∈ planner.visited ∨ name ∈ planner.pending := by
  rw [← List.mem_eraseDups, ← h.first.names_granted, h.granted_eq, List.map_append,
    List.mem_append, h.visited_iff, h.pending_iff, names]

/-- A request is answered by whether its name is new. -/
theorem Records.queued_iff {planner : Planner G} {asked : List (Request G)}
    {handed : List (String × G)} (h : planner.Records asked handed) (name : String) (generator : G) :
    (planner.request name generator).2 = true ↔ name ∉ asked.map (·.name) := by
  rw [h.mem_asked_iff, ← Std.TreeSet.contains_iff_mem, ← Std.TreeSet.contains_iff_mem,
    ← Bool.or_eq_true]
  unfold request
  split
  · next hknown => simp [hknown]
  · next hnew => simp [hnew]

/-- One more request is put down with its answer. -/
theorem Records.request {planner : Planner G} {asked : List (Request G)}
    {handed : List (String × G)} (h : planner.Records asked handed) (name : String) (generator : G) :
    (planner.request name generator).1.Records
      (asked ++ [⟨name, generator, (planner.request name generator).2⟩]) handed := by
  have hfirst : FirstGranted (asked ++ [⟨name, generator, (planner.request name generator).2⟩]) :=
    h.first.snoc (h.queued_iff name generator)
  by_cases hname : name ∈ asked.map (·.name)
  · -- A known name changes nothing.
    have hanswer : (planner.visited.contains name || planner.pending.contains name) = true := by
      rw [Bool.or_eq_true, Std.TreeSet.contains_iff_mem, Std.TreeSet.contains_iff_mem]
      exact (h.mem_asked_iff name).1 hname
    have hsame : planner.request name generator = (planner, false) := by
      unfold Planner.request
      rw [if_pos hanswer]
    rw [hsame] at hfirst ⊢
    exact ⟨by simp [granted, h.granted_eq.symm], h.visited_iff, h.pending_iff, hfirst⟩
  · have hanswer : (planner.visited.contains name || planner.pending.contains name) = false := by
      rw [← Bool.not_eq_true, Bool.or_eq_true, Std.TreeSet.contains_iff_mem,
        Std.TreeSet.contains_iff_mem, ← h.mem_asked_iff]
      exact hname
    unfold Planner.request at hfirst ⊢
    rw [hanswer] at hfirst ⊢
    refine ⟨?_, h.visited_iff, ?_, hfirst⟩
    · rw [granted_append, h.granted_eq]
      simp [granted, Request.entry]
    · intro other
      simp only [Bool.false_eq_true, if_false, Std.TreeSet.mem_insert,
        Std.LawfulEqCmp.compare_eq_iff_eq, names, List.map_append, List.map_cons, List.map_nil,
        List.mem_append, List.mem_singleton]
      rw [h.pending_iff other, names, or_comm, eq_comm]

theorem Records.asks {planner after : Planner G} {requests : List (Request G)}
    (hasks : planner.Asks requests after) :
    ∀ {asked : List (Request G)} {handed : List (String × G)}, planner.Records asked handed →
      after.Records (asked ++ requests) handed := by
  induction hasks with
  | nil planner =>
      intro asked handed h
      rw [List.append_nil]
      exact h
  | @cons planner after name generator rest _ ih =>
      intro asked handed h
      have hrest := ih (h.request name generator)
      rw [List.append_assoc] at hrest
      exact hrest

/-- The invariant implies the one under which drains end. -/
theorem Records.consistent {planner : Planner G} {asked : List (Request G)}
    {handed : List (String × G)} (h : planner.Records asked handed) : planner.Consistent := by
  -- Granted names are distinct, so none that waits is repeated or was handed out.
  have hnodup := nodup_eraseDups (asked.map (·.name))
  rw [← h.first.names_granted, h.granted_eq, List.map_append, List.nodup_append] at hnodup
  obtain ⟨_, hqueue, hdisjoint⟩ := hnodup
  refine ⟨hqueue, h.pending_iff, ?_⟩
  intro name hname hvisited
  exact hdisjoint name ((h.visited_iff name).1 hvisited) name hname rfl

/-- The names that wait were asked for. -/
theorem Records.mem_asked_of_mem_names {planner : Planner G} {asked : List (Request G)}
    {handed : List (String × G)} (h : planner.Records asked handed) {name : String}
    (hname : name ∈ planner.names) : name ∈ asked.map (·.name) :=
  (h.mem_asked_iff name).2 (Or.inr ((h.pending_iff name).2 hname))

/-- Handing out the first name of the queue moves it to those handed out. -/
theorem Records.handOut {planner : Planner G} {asked : List (Request G)}
    {handed : List (String × G)} (h : planner.Records asked handed) {name : String} {generator : G}
    {rest : List (String × G)} (hqueue : planner.queue = (name, generator) :: rest) :
    (planner.handOut name rest).Records asked (handed ++ [(name, generator)]) := by
  refine ⟨?_, ?_, (h.consistent.handOut hqueue).pending_iff, h.first⟩
  · rw [h.granted_eq, hqueue]
    simp [Planner.handOut]
  · intro other
    simp only [Planner.handOut, Std.TreeSet.mem_insert, Std.LawfulEqCmp.compare_eq_iff_eq,
      List.map_append, List.map_cons, List.map_nil, List.mem_append, List.mem_singleton]
    rw [h.visited_iff other, or_comm, eq_comm]

/-! ## Drains -/

/-- A drain with its log, up to the planner it leaves: it ends with the queue or at the first failure. -/
inductive Drains (generate : S → G → Script G E (S × T)) :
    S → Planner G → List (Call G E T) → Planner G → Prop where
  | done {memory : S} {planner : Planner G} (hqueue : planner.queue = []) :
      Drains generate memory planner [] planner
  | fail {memory : S} {planner after : Planner G} {name : String} {generator : G}
      {rest : List (String × G)} {error : E} (hqueue : planner.queue = (name, generator) :: rest)
      (hrun : (generate memory generator).run (planner.handOut name rest) = (after, .error error)) :
      Drains generate memory planner
        [⟨name, generator, (generate memory generator).requests (planner.handOut name rest),
          .error error⟩] after
  | call {memory next : S} {planner after final : Planner G} {name : String} {generator : G}
      {rest : List (String × G)} {output : T} {log : List (Call G E T)}
      (hqueue : planner.queue = (name, generator) :: rest)
      (hrun : (generate memory generator).run (planner.handOut name rest) =
        (after, .ok (next, output)))
      (hrest : Drains generate next after log final) :
      Drains generate memory planner
        (⟨name, generator, (generate memory generator).requests (planner.handOut name rest),
          .ok output⟩ :: log) final

/-- The calls of a drain are those of its log, given fuel for each. -/
theorem Drains.callsFrom?_eq {generate : S → G → Script G E (S × T)} {memory : S}
    {planner final : Planner G} {log : List (Call G E T)}
    (h : Drains generate memory planner log final) :
    ∀ fuel, log.length ≤ fuel →
      planner.callsFrom? generate fuel memory = some (log.map (·.planned)) := by
  induction h with
  | done hqueue =>
      intro fuel _
      cases fuel <;> simp [callsFrom?, hqueue]
  | fail hqueue hrun =>
      intro fuel hfuel
      cases fuel with
      | zero => simp at hfuel
      | succ fuel => simp [callsFrom?, hqueue, hrun, Call.planned]
  | call hqueue hrun _ ih =>
      intro fuel hfuel
      cases fuel with
      | zero => simp at hfuel
      | succ fuel =>
          have hrest := ih fuel (by simpa using hfuel)
          simp [callsFrom?, hqueue, hrun, hrest, Call.planned]

/-- A drain that has an answer has a log, no longer than its fuel. -/
theorem exists_drains_of_callsFrom? {generate : S → G → Script G E (S × T)} :
    ∀ (fuel : Nat) {memory : S} {planner : Planner G} {calls : List (Planned (Except E T))},
      planner.callsFrom? generate fuel memory = some calls →
      ∃ log final, Drains generate memory planner log final ∧ calls = log.map (·.planned) ∧
        log.length ≤ fuel := by
  intro fuel
  induction fuel with
  | zero =>
      intro memory planner calls h
      simp only [callsFrom?] at h
      split at h
      · next hempty =>
          cases h
          exact ⟨[], planner, .done (List.isEmpty_iff.1 hempty), rfl, Nat.le_refl 0⟩
      · cases h
  | succ fuel ih =>
      intro memory planner calls h
      rw [callsFrom?] at h
      split at h
      · next hqueue =>
          cases h
          exact ⟨[], planner, .done hqueue, rfl, Nat.zero_le _⟩
      · next name generator rest hqueue =>
          split at h
          · next after error hrun =>
              cases h
              exact ⟨_, after, .fail hqueue hrun, rfl, Nat.succ_le_succ (Nat.zero_le fuel)⟩
          · next after next output hrun =>
              obtain ⟨calls, hcalls, rfl⟩ := Option.map_eq_some_iff.1 h
              obtain ⟨log, final, hlog, rfl, hlength⟩ := ih hcalls
              exact ⟨_, final, .call hqueue hrun hlog, rfl, Nat.succ_le_succ hlength⟩

/-- Every call of a log is a run of its generator's script. -/
theorem Drains.exists_run {generate : S → G → Script G E (S × T)} {memory : S}
    {planner final : Planner G} {log : List (Call G E T)}
    (h : Drains generate memory planner log final) :
    ∀ call ∈ log, ∃ (memory : S) (planner : Planner G),
      call.requests = (generate memory call.generator).requests planner ∧
        call.outcome = ((generate memory call.generator).run planner).2.map Prod.snd := by
  induction h with
  | done hqueue => simp
  | @fail memory planner after name generator rest error hqueue hrun =>
      intro call hcall
      cases List.mem_singleton.1 hcall
      exact ⟨memory, planner.handOut name rest, rfl, by rw [hrun]; rfl⟩
  | @call memory next planner after final name generator rest output log hqueue hrun _ ih =>
      intro call hcall
      rcases List.mem_cons.1 hcall with rfl | hcall
      · exact ⟨memory, planner.handOut name rest, rfl, by rw [hrun]; rfl⟩
      · exact ih call hcall

/-- The invariant after a drain: all requests of the log are asked for, and its calls handed out. -/
theorem Records.drains {generate : S → G → Script G E (S × T)} {memory : S}
    {planner final : Planner G} {log : List (Call G E T)}
    (h : Drains generate memory planner log final) :
    ∀ {asked : List (Request G)} {handed : List (String × G)}, planner.Records asked handed →
      final.Records (asked ++ log.flatMap (·.requests)) (handed ++ log.map (·.entry)) := by
  induction h with
  | done hqueue =>
      intro asked handed hrecords
      simpa using hrecords
  | @fail memory planner after name generator rest error hqueue hrun =>
      intro asked handed hrecords
      have hasks := (generate memory generator).asks_requests (planner.handOut name rest)
      rw [hrun] at hasks
      simpa [Call.entry] using (hrecords.handOut hqueue).asks hasks
  | @call memory next planner after final name generator rest output log hqueue hrun _ ih =>
      intro asked handed hrecords
      have hasks := (generate memory generator).asks_requests (planner.handOut name rest)
      rw [hrun] at hasks
      simpa [Call.entry] using ih ((hrecords.handOut hqueue).asks hasks)

/-- A drain without failures leaves no queue. -/
theorem Drains.queue_eq_nil {generate : S → G → Script G E (S × T)} {memory : S}
    {planner final : Planner G} {log : List (Call G E T)}
    (h : Drains generate memory planner log final) :
    (∀ call ∈ log, ∃ output, call.outcome = .ok output) → final.queue = [] := by
  induction h with
  | done hqueue => exact fun _ => hqueue
  | fail hqueue hrun =>
      intro hlog
      obtain ⟨output, houtput⟩ := hlog _ (List.mem_singleton_self _)
      cases houtput
  | call hqueue hrun _ ih =>
      exact fun hlog => ih fun call hcall => hlog call (List.mem_cons_of_mem _ hcall)

end Planner

end CustomResource
