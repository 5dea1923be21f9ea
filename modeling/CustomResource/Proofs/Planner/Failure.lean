import CustomResource.Error
import CustomResource.Proofs.Planner.Closure

/-!
# Drains that fail

The first failure ends a drain.  Which failure is the first is told by an order that failures do not cut
short: that of a drain whose generators go on where they would fail, in whatever way, and have the error as
their output.  `Script.RecoveredBy` relates a script to such a script.

A drain that may fail is the other one up to its first error, see `Drains.exists_upToFailure`.  What a
generator asks for before it fails makes no difference, since no name is handed out afterwards.
-/

namespace CustomResource

/-! ## Generators that recover -/

namespace Script

variable {S G E F T : Type}

/-- A script that ends with an error as its output, whatever the planner answers. -/
inductive EndsWith (error : E) : Script G F (S × Except E T) → Prop where
  | done (memory : S) : EndsWith error (.done (memory, .error error))
  | request (name : String) (generator : G) (next : Bool → Script G F (S × Except E T))
      (rest : ∀ answer, EndsWith error (next answer)) : EndsWith error (.request name generator next)
  | visited (name : String) (next : Bool → Script G F (S × Except E T))
      (rest : ∀ answer, EndsWith error (next answer)) : EndsWith error (.visited name next)
  | state (next : PlannerState → Script G F (S × Except E T))
      (rest : ∀ answer, EndsWith error (next answer)) : EndsWith error (.state next)

/-- A script that does what another does, but goes on where that one fails and ends with the error. -/
inductive RecoveredBy : Script G E (S × T) → Script G F (S × Except E T) → Prop where
  | done (memory : S) (output : T) : RecoveredBy (.done (memory, output)) (.done (memory, .ok output))
  | fail {error : E} {rest : Script G F (S × Except E T)} (hrest : rest.EndsWith error) :
      RecoveredBy (.fail error) rest
  | request (name : String) (generator : G) {next : Bool → Script G E (S × T)}
      {other : Bool → Script G F (S × Except E T)}
      (hrest : ∀ answer, RecoveredBy (next answer) (other answer)) :
      RecoveredBy (.request name generator next) (.request name generator other)
  | visited (name : String) {next : Bool → Script G E (S × T)}
      {other : Bool → Script G F (S × Except E T)}
      (hrest : ∀ answer, RecoveredBy (next answer) (other answer)) :
      RecoveredBy (.visited name next) (.visited name other)
  | state {next : PlannerState → Script G E (S × T)}
      {other : PlannerState → Script G F (S × Except E T)}
      (hrest : ∀ answer, RecoveredBy (next answer) (other answer)) :
      RecoveredBy (.state next) (.state other)

theorem EndsWith.exists_run {error : E} {script : Script G F (S × Except E T)}
    (h : script.EndsWith error) :
    ∀ planner : Planner G, ∃ memory, (script.run planner).2 = .ok (memory, .error error) := by
  induction h with
  | done memory => exact fun _ => ⟨memory, rfl⟩
  | request name generator next _ ih => exact fun planner => ih _ _
  | visited name next _ ih => exact fun planner => ih _ planner
  | state next _ ih => exact fun planner => ih _ planner

theorem EndsWith.succeeds {error : E} {script : Script G F (S × Except E T)}
    (h : script.EndsWith error) : script.Succeeds := by
  induction h with
  | done memory => exact .done _
  | request name generator next _ ih => exact .request name generator next ih
  | visited name next _ ih => exact .visited name next ih
  | state next _ ih => exact .state next ih

theorem EndsWith.requestAll {error : E} {next : Script G F (S × Except E T)} (h : next.EndsWith error) :
    ∀ entries : List (String × G), (Script.requestAll entries next).EndsWith error
  | [] => h
  | (name, generator) :: rest => .request name generator _ fun _ => h.requestAll rest

namespace RecoveredBy

variable {script : Script G E (S × T)} {other : Script G F (S × Except E T)}

theorem requestAll (h : script.RecoveredBy other) :
    ∀ entries : List (String × G),
      (Script.requestAll entries script).RecoveredBy (Script.requestAll entries other)
  | [] => h
  | (name, generator) :: rest => .request name generator fun _ => h.requestAll rest

theorem succeeds (h : script.RecoveredBy other) : other.Succeeds := by
  induction h with
  | done memory output => exact .done _
  | fail hrest => exact hrest.succeeds
  | request name generator _ ih => exact .request name generator _ ih
  | visited name _ ih => exact .visited name _ ih
  | state _ ih => exact .state _ ih

/-- Where a script has an output, nothing is recovered. -/
theorem run_eq_of_ok (h : script.RecoveredBy other) {memory : S} {output : T} :
    ∀ {planner after : Planner G}, script.run planner = (after, .ok (memory, output)) →
      other.run planner = (after, .ok (memory, .ok output)) ∧
        other.requests planner = script.requests planner := by
  induction h with
  | done memory output =>
      intro planner after hrun
      cases hrun
      exact ⟨rfl, rfl⟩
  | fail hrest =>
      intro planner after hrun
      cases hrun
  | request name generator _ ih =>
      intro planner after hrun
      obtain ⟨hsame, hrequests⟩ := ih _ hrun
      exact ⟨hsame, congrArg (_ :: ·) hrequests⟩
  | visited name _ ih => exact fun hrun => ih _ hrun
  | state _ ih => exact fun hrun => ih _ hrun

/-- Where a script fails, the other one has made the same requests and ends with the error. -/
theorem exists_run_of_error (h : script.RecoveredBy other) {error : E} :
    ∀ {planner after : Planner G}, script.run planner = (after, .error error) →
      (∃ memory, (other.run planner).2 = .ok (memory, .error error)) ∧
        script.requests planner <+: other.requests planner := by
  induction h with
  | done memory output =>
      intro planner after hrun
      cases hrun
  | fail hrest =>
      intro planner after hrun
      cases hrun
      exact ⟨hrest.exists_run planner, List.nil_prefix⟩
  | request name generator _ ih =>
      intro planner after hrun
      obtain ⟨hends, hrequests⟩ := ih _ hrun
      exact ⟨hends, List.prefix_cons_inj _ |>.2 hrequests⟩
  | visited name _ ih => exact fun hrun => ih _ hrun
  | state _ ih => exact fun hrun => ih _ hrun

end RecoveredBy

/-- A script that ends where another one fails, and leaves a given memory there. -/
def recover (memory : S) : Script G E (S × T) → Script G F (S × Except E T)
  | .done (memory, output) => .done (memory, .ok output)
  | .fail error => .done (memory, .error error)
  | .request name generator next => .request name generator fun answer => (next answer).recover memory
  | .visited name next => .visited name fun answer => (next answer).recover memory
  | .state next => .state fun answer => (next answer).recover memory

/-- There is a way to recover from every failure. -/
theorem recoveredBy_recover (memory : S) (script : Script G E (S × T)) :
    script.RecoveredBy (script.recover memory : Script G F (S × Except E T)) := by
  induction script with
  | done output => exact .done output.1 output.2
  | fail error => exact .fail (.done memory)
  | request name generator next ih => exact .request name generator ih
  | visited name next ih => exact .visited name ih
  | state next ih => exact .state ih

theorem RequestsIn.recover {known : List String} {script : Script G E (S × T)}
    (h : script.RequestsIn known) (memory : S) :
    (script.recover memory : Script G F (S × Except E T)).RequestsIn known := by
  induction h with
  | done output => exact .done _
  | fail error => exact .done _
  | request name generator next mem _ ih => exact .request name generator _ mem ih
  | visited name next _ ih => exact .visited name _ ih
  | state next _ ih => exact .state _ ih

end Script

/-! ## Logs up to the first failure -/

namespace Planner

variable {S G E F T : Type}

/-- A log of calls that recover, and what is left of it if the first error is a failure: the failing call has
asked for no more than what it asks for when it recovers. -/
inductive UpToFailure : List (Call G F (Except E T)) → List (Call G E T) → Prop where
  | nil : UpToFailure [] []
  | fail {name : String} {generator : G} {asked requests : List (Request G)} {error : E}
      (rest : List (Call G F (Except E T))) (hasked : asked <+: requests) :
      UpToFailure (⟨name, generator, requests, .ok (.error error)⟩ :: rest)
        [⟨name, generator, asked, .error error⟩]
  | call {order : List (Call G F (Except E T))} {log : List (Call G E T)} (name : String)
      (generator : G) (requests : List (Request G)) (output : T) (hrest : UpToFailure order log) :
      UpToFailure (⟨name, generator, requests, .ok (.ok output)⟩ :: order)
        (⟨name, generator, requests, .ok output⟩ :: log)

/-- A drain that may fail is the one that recovers, up to its first error. -/
theorem Drains.exists_upToFailure {generate : S → G → Script G E (S × T)}
    {recovered : S → G → Script G F (S × Except E T)}
    (hrecovers : ∀ memory generator, (generate memory generator).RecoveredBy (recovered memory generator))
    {memory : S} {planner final : Planner G} {order : List (Call G F (Except E T))}
    (h : Drains recovered memory planner order final) :
    ∃ log last, Drains generate memory planner log last ∧ UpToFailure order log := by
  have hsucceeds := fun memory generator => (hrecovers memory generator).succeeds
  induction h with
  | done hqueue => exact ⟨[], _, .done hqueue, .nil⟩
  | @fail memory planner after name generator rest error hqueue hrun =>
      -- A generator that recovers does not fail.
      obtain ⟨output, houtput⟩ := (hsucceeds memory generator).exists_output (planner.handOut name rest)
      rw [hrun] at houtput
      cases houtput
  | @call memory next planner after final name generator rest outcome order hqueue hrun _ ih =>
      have hscript := hrecovers memory generator
      cases hown : (generate memory generator).run (planner.handOut name rest) with
      | mk reached result =>
          cases result with
          | error error =>
              obtain ⟨⟨_, hsame⟩, hasked⟩ := hscript.exists_run_of_error hown
              rw [hrun] at hsame
              cases hsame
              exact ⟨_, reached, .fail hqueue hown, .fail order hasked⟩
          | ok result =>
              obtain ⟨left, output⟩ := result
              obtain ⟨hsame, hrequests⟩ := hscript.run_eq_of_ok hown
              rw [hrun] at hsame
              cases hsame
              obtain ⟨log, last, hlog, hupTo⟩ := ih
              rw [hrequests]
              exact ⟨_, last, .call hqueue hown hlog, .call name generator _ _ hupTo⟩

/-- Where there is an error, the calls before the first one have their outputs, and its call fails. -/
theorem UpToFailure.exists_first {order : List (Call G F (Except E T))} {log : List (Call G E T)}
    (h : UpToFailure order log) (herror : ∃ call ∈ order, ∃ error, call.outcome = .ok (.error error)) :
    ∃ before failing after error, order = before ++ failing :: after ∧
      (∀ call ∈ before, ∃ output, call.outcome = .ok (.ok output)) ∧
      failing.outcome = .ok (.error error) ∧
      log.map (·.entry) = (before ++ [failing]).map (·.entry) ∧
      Planned.outputs (log.map (·.planned)) = .error ⟨failing.name, error⟩ := by
  induction h with
  | nil =>
      obtain ⟨call, hcall, -⟩ := herror
      cases hcall
  | @fail name generator asked requests error rest hasked =>
      exact ⟨[], _, rest, error, rfl, by simp, rfl, rfl, rfl⟩
  | @call order log name generator requests output _ ih =>
      have hrest : ∃ call ∈ order, ∃ error, call.outcome = .ok (.error error) := by
        obtain ⟨call, hcall, error, houtcome⟩ := herror
        rcases List.mem_cons.1 hcall with rfl | hcall
        · cases houtcome
        · exact ⟨call, hcall, error, houtcome⟩
      obtain ⟨before, failing, after, error, rfl, hbefore, hfailing, hentries, houtputs⟩ := ih hrest
      refine ⟨⟨name, generator, requests, .ok (.ok output)⟩ :: before, failing, after, error, rfl, ?_,
        hfailing, congrArg (_ :: ·) hentries, ?_⟩
      · intro call hcall
        rcases List.mem_cons.1 hcall with rfl | hcall
        · exact ⟨output, rfl⟩
        · exact hbefore call hcall
      · rw [List.map_cons, Call.planned, Planned.outputs, houtputs]
        rfl

/-- A drain that may fail has the outputs that the one which recovers puts down, or the first error there. -/
theorem UpToFailure.outputs_eq {order : List (Call G F (Except E T))} {log : List (Call G E T)}
    (h : UpToFailure order log) :
    ∀ {results : List (Planned (Except E T))}, order.map (·.planned) = results.map Planned.succeeded →
      Planned.outputs (log.map (·.planned)) = Planned.outputs results := by
  induction h with
  | nil =>
      intro results hresults
      rw [List.map_eq_nil_iff.1 hresults.symm]
      rfl
  | fail rest _ =>
      intro results hresults
      obtain ⟨⟨name, outcome⟩, others, rfl, hfirst, -⟩ := List.map_eq_cons_iff.1 hresults.symm
      cases hfirst
      rfl
  | call name generator requests output _ ih =>
      intro results hresults
      obtain ⟨⟨name, outcome⟩, others, rfl, hfirst, hothers⟩ := List.map_eq_cons_iff.1 hresults.symm
      cases hfirst
      rw [List.map_cons, Call.planned, Planned.outputs, ih hothers.symm]
      rfl

theorem UpToFailure.length_le {order : List (Call G F (Except E T))} {log : List (Call G E T)}
    (h : UpToFailure order log) : log.length ≤ order.length := by
  induction h with
  | nil => exact Nat.le_refl 0
  | fail rest _ => exact Nat.succ_le_succ (Nat.zero_le _)
  | call name generator requests output _ ih => exact Nat.succ_le_succ ih

/-- Drain a planner after any requests, with generators some of which may fail, and compare it with a drain
whose generators do the same but recover from every failure.  If those ask for names of a finite list only,
both drains end.  The calls of the first are those of the second up to and including the first one that has
an error, no name is called for twice, and if there is an error, the drain has no outputs but reports that
error under the name of its call. -/
theorem drain_fails_at_first_error (generate : S → G → Script G GenerateError (S × T))
    (recovered : S → G → Script G F (S × Except GenerateError T)) (known : List String)
    (hrecovers : ∀ memory generator, (generate memory generator).RecoveredBy (recovered memory generator))
    (hrequests : ∀ memory generator, (recovered memory generator).RequestsIn known)
    (memory : S) (entries : List (String × G)) :
    let planner := ({} : Planner G).requestAll entries
    ∃ (order : List (Call G F (Except GenerateError T))) (log : List (Call G GenerateError T)),
      (∃ final, Drains recovered memory { planner with state := .draining } order final) ∧
      (∃ final, Drains generate memory { planner with state := .draining } log final) ∧
      (∀ fuel, known.length + entries.length ≤ fuel →
        planner.drainFrom? recovered fuel memory = some (order.map (·.planned)) ∧
          planner.drainFrom? generate fuel memory = some (log.map (·.planned))) ∧
      (∀ call ∈ order, ∃ outcome, call.outcome = .ok outcome) ∧
      (order.map (·.name)).Nodup ∧
      ((∃ call ∈ order, ∃ error, call.outcome = .ok (.error error)) →
        ∃ before failing after error, order = before ++ failing :: after ∧
          (∀ call ∈ before, ∃ output, call.outcome = .ok (.ok output)) ∧
          failing.outcome = .ok (.error error) ∧
          log.map (·.entry) = (before ++ [failing]).map (·.entry) ∧
          (Planned.outputs (log.map (·.planned))).mapError
              (fun failure => Error.generation failure.name failure.output) =
            .error (.generation failing.name error)) := by
  intro planner
  have hrecords : { planner with state := .draining }.Records (({} : Planner G).answers entries) [] :=
    (records_requestAll entries).withState .draining
  have hinitial : (({} : Planner G).answers entries).length = entries.length := by
    have hentries := congrArg List.length (map_entry_answers entries ({} : Planner G))
    rw [List.length_map] at hentries
    exact hentries
  obtain ⟨order, final, horder, hlength⟩ := hrecords.exists_drains hrequests memory
  have houtcomes := horder.exists_output fun memory generator => (hrecovers memory generator).succeeds
  obtain ⟨log, last, hlog, hupTo⟩ := horder.exists_upToFailure hrecovers
  have hshorter := hupTo.length_le
  refine ⟨order, log, ⟨final, horder⟩, ⟨last, hlog⟩, ?_, houtcomes, ?_, ?_⟩
  · intro fuel hfuel
    exact ⟨horder.callsFrom?_eq fuel (by omega), hlog.callsFrom?_eq fuel (by omega)⟩
  · rw [hrecords.names_eq horder houtcomes]
    exact nodup_eraseDups _
  · intro herror
    obtain ⟨before, failing, after, error, hsplit, hbefore, hfailing, hentries, houtputs⟩ :=
      hupTo.exists_first herror
    refine ⟨before, failing, after, error, hsplit, hbefore, hfailing, hentries, ?_⟩
    rw [houtputs]
    rfl

/-- A generator that asks for two names which fail, each after it asked for a third one. -/
def failTwice (calls : Nat) (generator : String) :
    Script String GenerateError (Nat × String × Nat) :=
  if generator = "bad" ∨ generator = "worse" then
    .requestAll [("late", "late")] (.fail (.emptyEnum generator))
  else .requestAll [("bad", "bad"), ("worse", "worse")] (.done (calls + 1, generator, calls))

theorem failTwice_requestsIn (calls : Nat) (generator : String) :
    (failTwice calls generator).RequestsIn ["bad", "worse", "late"] := by
  unfold failTwice
  split
  · exact (Script.RequestsIn.fail _).requestAll _ (by simp)
  · exact (Script.RequestsIn.done _).requestAll _ (by simp)

/-- Of two failures the first is reported, and the name that was asked for before it is not handed out. -/
theorem drain_failTwice_error :
    ∃ calls : List (Planned (Except GenerateError (String × Nat))),
      (({} : Planner String).requestAll [("root", "root")]).drainFrom? failTwice 4 0 = some calls ∧
      calls.map (·.name) = ["root", "bad"] ∧
      (Planned.outputs calls).mapError
          (fun failure => Error.generation failure.name failure.output) =
        .error (.generation "bad" (.emptyEnum "bad")) := by
  obtain ⟨order, log, _, _, hfuel, _, _, hfails⟩ := drain_fails_at_first_error (F := Empty) failTwice
    (fun calls generator => (failTwice calls generator).recover calls) ["bad", "worse", "late"]
    (fun calls generator => Script.recoveredBy_recover calls _)
    (fun calls generator => (failTwice_requestsIn calls generator).recover calls) 0 [("root", "root")]
  obtain ⟨horder, hlog⟩ := hfuel 4 (Nat.le_refl 4)
  have hvalue : (({} : Planner String).requestAll [("root", "root")]).drainFrom?
      (fun calls generator => ((failTwice calls generator).recover calls :
        Script String Empty (Nat × Except GenerateError (String × Nat)))) 4 0 =
      some [⟨"root", .ok (.ok ("root", 0))⟩, ⟨"bad", .ok (.error (.emptyEnum "bad"))⟩,
        ⟨"worse", .ok (.error (.emptyEnum "worse"))⟩, ⟨"late", .ok (.ok ("late", 1))⟩] := by
    rfl
  rw [hvalue, Option.some.injEq] at horder
  obtain ⟨root, rest, rfl, hroot, hrest⟩ := List.map_eq_cons_iff.1 horder.symm
  obtain ⟨bad, others, rfl, hbad, hothers⟩ := List.map_eq_cons_iff.1 hrest
  have hrootOutcome : root.outcome = .ok (.ok ("root", 0)) := congrArg Planned.output hroot
  have hbadOutcome : bad.outcome = .ok (.error (.emptyEnum "bad")) := congrArg Planned.output hbad
  obtain ⟨before, failing, after, error, hsplit, hbefore, hfailing, hentries, houtputs⟩ :=
    hfails ⟨bad, by simp, _, hbadOutcome⟩
  -- The call for the root has an output, and the next one has none.
  have hfirst : before = [root] ∧ failing = bad := by
    cases before with
    | nil =>
        cases hsplit
        rw [hrootOutcome] at hfailing
        cases hfailing
    | cons first more =>
        obtain ⟨rfl, htail⟩ := List.cons.inj hsplit
        cases more with
        | nil => exact ⟨rfl, (List.cons.inj htail).1.symm⟩
        | cons second more =>
            obtain ⟨rfl, -⟩ := List.cons.inj htail
            obtain ⟨output, houtput⟩ := hbefore bad (by simp)
            rw [hbadOutcome] at houtput
            cases houtput
  obtain ⟨rfl, rfl⟩ := hfirst
  have hnames : log.map (·.name) = [root.name, failing.name] := by
    have hfst := congrArg (List.map Prod.fst) hentries
    rw [List.map_map, List.map_map] at hfst
    exact hfst
  have hrootName : root.name = "root" := congrArg Planned.name hroot
  have hbadName : failing.name = "bad" := congrArg Planned.name hbad
  rw [hbadOutcome, Except.ok.injEq, Except.error.injEq] at hfailing
  refine ⟨_, hlog, ?_, ?_⟩
  · rw [List.map_map]
    refine hnames.trans ?_
    rw [hrootName, hbadName]
  · rw [houtputs, hbadName, hfailing]

end Planner

end CustomResource
