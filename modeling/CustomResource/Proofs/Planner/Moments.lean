import CustomResource.Proofs.Planner.Closure

/-!
# The life of a planner

A planner is asked for names, and then it is drained.  While it is drained it is in the hands of one generator
after the other, which ask it for more.  A `Moment` is a planner as it is found at any time of this life,
whether by who asks it before the drain or by a generator in the middle of its script, and `Moment.Next` says
what may come next.  Once the drain has ended nobody can look at the planner any more, so the state `done` is
that of no moment.

What holds at every moment is `Moment.Balanced`.  It follows from the invariant `Moment.Kept`, by which the
requests so far decide queue and sets, and the stage of the life decides the state.

The moments of a drain are those of the drain that runs, see `moments_of_drainFrom?`: `Drains.exists_reaches`
leads through the calls of a log to the last moment, and by `Next.unique` there is no other way.  The start and
the end of every call are among them (`CalledBetween`).
-/

namespace CustomResource

open Relation

/-- The script that is left when a script has come to its outcome. -/
def Script.ending {G E T : Type} : Except E T → Script G E T
  | .ok output => .done output
  | .error error => .fail error

namespace Planner

variable {S G E T : Type}

/-! ## Moments -/

/-- How far the life of a planner has come. -/
inductive Stage (S G E T : Type) where
  /-- The drain has not begun.  The memory is the one that it is to begin with. -/
  | waiting (memory : S)
  /-- The generator of a name is at work, and the script is what it has yet to do. -/
  | calling (name : String) (script : Script G E (S × T))
  /-- A call has ended and left a memory for the next one. -/
  | between (memory : S)

/-- A planner at some time of its life, and the requests that were made of it so far. -/
structure Moment (S G E T : Type) where
  planner : Planner G
  stage : Stage S G E T
  asked : List (Request G)

namespace Moment

/-- A planner that was just made. -/
def fresh (memory : S) : Moment S G E T :=
  ⟨{}, .waiting memory, []⟩

/-- What may come next.  Before the drain anyone may ask for anything, and in the drain the script of the
generator that is at work says what comes.  From a failure and from an empty queue nothing does. -/
inductive Next (generate : S → G → Script G E (S × T)) :
    Moment S G E T → Moment S G E T → Prop where
  | ask {planner : Planner G} {memory : S} {asked : List (Request G)} (name : String) (generator : G) :
      Next generate ⟨planner, .waiting memory, asked⟩
        ⟨(planner.request name generator).1, .waiting memory,
          asked ++ [⟨name, generator, (planner.request name generator).2⟩]⟩
  /-- The drain begins with a call.  With an empty queue it ends before anyone can look at the planner. -/
  | begin {planner : Planner G} {memory : S} {asked : List (Request G)} {name : String} {generator : G}
      {rest : List (String × G)} (hqueue : planner.queue = (name, generator) :: rest) :
      Next generate ⟨planner, .waiting memory, asked⟩
        ⟨{ planner with state := .draining }.handOut name rest, .calling name (generate memory generator),
          asked⟩
  | request {planner : Planner G} {current name : String} {generator : G}
      {next : Bool → Script G E (S × T)} {asked : List (Request G)} :
      Next generate ⟨planner, .calling current (.request name generator next), asked⟩
        ⟨(planner.request name generator).1, .calling current (next (planner.request name generator).2),
          asked ++ [⟨name, generator, (planner.request name generator).2⟩]⟩
  | visited {planner : Planner G} {current name : String} {next : Bool → Script G E (S × T)}
      {asked : List (Request G)} :
      Next generate ⟨planner, .calling current (.visited name next), asked⟩
        ⟨planner, .calling current (next (planner.isVisited name)), asked⟩
  | state {planner : Planner G} {current : String} {next : PlannerState → Script G E (S × T)}
      {asked : List (Request G)} :
      Next generate ⟨planner, .calling current (.state next), asked⟩
        ⟨planner, .calling current (next planner.state), asked⟩
  /-- A script that is done leaves its memory, and the output is put aside. -/
  | finish {planner : Planner G} {current : String} {memory : S} {output : T}
      {asked : List (Request G)} :
      Next generate ⟨planner, .calling current (.done (memory, output)), asked⟩
        ⟨planner, .between memory, asked⟩
  | call {planner : Planner G} {memory : S} {asked : List (Request G)} {name : String} {generator : G}
      {rest : List (String × G)} (hqueue : planner.queue = (name, generator) :: rest) :
      Next generate ⟨planner, .between memory, asked⟩
        ⟨planner.handOut name rest, .calling name (generate memory generator), asked⟩

/-- What holds of a planner whenever it is looked at. -/
structure Balanced (moment : Moment S G E T) : Prop where
  nodup : moment.planner.names.Nodup
  queued_iff : ∀ name, name ∈ moment.planner.names ↔ name ∈ moment.planner.pending
  disjoint : ∀ name ∈ moment.planner.pending, name ∉ moment.planner.visited
  /-- The names that wait or were handed out are those that were ever asked for. -/
  known_iff : ∀ name, name ∈ moment.planner.pending ∨ name ∈ moment.planner.visited ↔
    name ∈ moment.asked.map (·.name)
  granted_iff : ∀ name generator, (moment.planner.request name generator).2 = true ↔
    name ∉ moment.planner.pending ∧ name ∉ moment.planner.visited
  empty_iff : moment.planner.state = .empty ↔ moment.asked = []
  pending_iff : moment.planner.state = .pending ↔
    moment.asked ≠ [] ∧ ∃ memory, moment.stage = .waiting memory
  /-- The name whose generator is at work was handed out, and to ask for it does nothing. -/
  calling : ∀ name script, moment.stage = .calling name script →
    moment.planner.state = .draining ∧ name ∈ moment.planner.visited ∧
      ∀ generator, moment.planner.request name generator = (moment.planner, false)

/-! ## The moments of a drain -/

variable {generate : S → G → Script G E (S × T)} {moment next : Moment S G E T}

variable (generate) in
/-- Requests before the drain lead from one waiting moment to another. -/
theorem reaches_of_asks {planner after : Planner G} {requests : List (Request G)}
    (h : planner.Asks requests after) (memory : S) :
    ∀ asked : List (Request G), ReflTransGen (Next generate) ⟨planner, .waiting memory, asked⟩
      ⟨after, .waiting memory, asked ++ requests⟩ := by
  induction h with
  | nil planner =>
      intro asked
      rw [List.append_nil]
  | @cons planner after name generator rest _ ih =>
      intro asked
      have hrest := ih (asked ++ [⟨name, generator, (planner.request name generator).2⟩])
      rw [List.append_assoc] at hrest
      exact .head (.ask name generator) hrest

variable (generate) in
/-- A script that is at work comes to its outcome and has made its requests by then. -/
theorem reaches_ending (name : String) {script : Script G E (S × T)} :
    ∀ {planner after : Planner G} {outcome : Except E (S × T)} (asked : List (Request G)),
      script.run planner = (after, outcome) →
      ReflTransGen (Next generate) ⟨planner, .calling name script, asked⟩
        ⟨after, .calling name (.ending outcome), asked ++ script.requests planner⟩ := by
  induction script with
  | done output =>
      intro planner after outcome asked hrun
      cases hrun
      rw [Script.requests, List.append_nil]
      exact .refl
  | fail error =>
      intro planner after outcome asked hrun
      cases hrun
      rw [Script.requests, List.append_nil]
      exact .refl
  | request other generator next ih =>
      intro planner after outcome asked hrun
      have hrest := ih (planner.request other generator).2
        (asked ++ [⟨other, generator, (planner.request other generator).2⟩]) hrun
      rw [List.append_assoc] at hrest
      exact .head .request hrest
  | visited other next ih => exact fun asked hrun => .head .visited (ih _ asked hrun)
  | state next ih => exact fun asked hrun => .head .state (ih _ asked hrun)

/-- A drain has come to its end, with an empty queue or a failure. -/
def Last (moment : Moment S G E T) : Prop :=
  (∃ memory, moment.stage = .between memory ∧ moment.planner.queue = []) ∨
    ∃ name error, moment.stage = .calling name (.fail error)

theorem Last.not_next (h : moment.Last) : ¬ Next generate moment next := by
  intro hnext
  obtain ⟨memory, hstage, hqueue⟩ | ⟨name, error, hstage⟩ := h
  · cases hnext with
    | call hcons =>
        rw [hcons] at hqueue
        cases hqueue
    | _ => cases hstage
  · cases hnext <;> cases hstage

/-- The drain has begun. -/
def Begun (moment : Moment S G E T) : Prop :=
  ∀ memory, moment.stage ≠ .waiting memory

theorem begun_calling (planner : Planner G) (name : String) (script : Script G E (S × T))
    (asked : List (Request G)) : (⟨planner, .calling name script, asked⟩ : Moment S G E T).Begun :=
  fun _ => nofun

theorem Next.begun (h : Next generate moment next) (hbegun : moment.Begun) : next.Begun := by
  cases h with
  | ask name generator => exact absurd rfl (hbegun _)
  | _ => exact fun _ => nofun

/-- Once the drain has begun, what comes next is settled. -/
theorem Next.unique {other : Moment S G E T} (hbegun : moment.Begun) (h : Next generate moment next)
    (hother : Next generate moment other) : next = other := by
  cases h with
  | ask name generator => exact absurd rfl (hbegun _)
  | begin hqueue => exact absurd rfl (hbegun _)
  | call hqueue =>
      cases hother with
      | call hsame =>
          rw [hqueue] at hsame
          cases hsame
          rfl
  | _ =>
      cases hother
      rfl

end Moment

open Moment

section Way

variable {generate : S → G → Script G E (S × T)}

/-- Between two moments a call is made: its generator starts with a script, and comes to the outcome of the call
with the requests of the call behind it. -/
structure CalledBetween (generate : S → G → Script G E (S × T)) (first last : Moment S G E T)
    (call : Call G E T) : Prop where
  exists_start_stop : ∃ (memory : S) (start stop : Moment S G E T) (outcome : Except E (S × T)),
    start.stage = .calling call.name (generate memory call.generator) ∧
    stop.stage = .calling call.name (.ending outcome) ∧ call.outcome = outcome.map Prod.snd ∧
    stop.asked = start.asked ++ call.requests ∧
    ReflTransGen (Next generate) first start ∧ ReflTransGen (Next generate) start stop ∧
    ReflTransGen (Next generate) stop last

/-- A call that is made between two moments is made between an earlier and a later one. -/
theorem CalledBetween.extend {first last earlier : Moment S G E T} {call : Call G E T}
    (h : CalledBetween generate first last call) (hearlier : ReflTransGen (Next generate) earlier first) :
    CalledBetween generate earlier last call := by
  obtain ⟨memory, start, stop, outcome, hstart, hstop, houtcome, hasked, hbefore, hcall, hafter⟩ :=
    h.exists_start_stop
  exact ⟨memory, start, stop, outcome, hstart, hstop, houtcome, hasked, hearlier.trans hbefore, hcall, hafter⟩

/-- The calls of a drain lead from the start of the first one to the last moment. -/
theorem Drains.exists_reaches {memory : S} {planner final : Planner G} {log : List (Call G E T)}
    (h : Drains generate memory planner log final) :
    ∀ {name : String} {generator : G} {rest : List (String × G)} (asked : List (Request G)),
      planner.queue = (name, generator) :: rest →
      let first : Moment S G E T :=
        ⟨planner.handOut name rest, .calling name (generate memory generator), asked⟩
      ∃ last : Moment S G E T, last.planner = final ∧ last.asked = asked ++ log.flatMap (·.requests) ∧
        last.Last ∧ ReflTransGen (Next generate) first last ∧
        ∀ call ∈ log, CalledBetween generate first last call := by
  induction h with
  | done hempty =>
      intro name generator rest asked hqueue
      rw [hempty] at hqueue
      cases hqueue
  | @fail memory planner after name generator rest error hfirst hrun =>
      intro _ _ _ asked hqueue
      cases hfirst.symm.trans hqueue
      have hreach := reaches_ending generate name asked hrun
      refine ⟨_, rfl, ?_, Or.inr ⟨name, error, rfl⟩, hreach, ?_⟩
      · rw [List.flatMap_singleton]
      · intro call hcall
        rw [List.mem_singleton.1 hcall]
        exact ⟨memory, _, _, .error error, rfl, rfl, rfl, rfl, .refl, hreach, .refl⟩
  | @call memory next planner after final name generator rest output log hfirst hrun hrest ih =>
      intro _ _ _ asked hqueue
      cases hfirst.symm.trans hqueue
      have hreach := reaches_ending generate name asked hrun
      have hcall := hreach.tail .finish
      rw [List.flatMap_cons, ← List.append_assoc]
      -- The call that ended is made before any last moment that can be reached from its end.
      have hmade : ∀ {last : Moment S G E T},
          ReflTransGen (Next generate) ⟨after, .calling name (.ending (.ok (next, output))),
            asked ++ (generate memory generator).requests (planner.handOut name rest)⟩ last →
          CalledBetween generate ⟨planner.handOut name rest, .calling name (generate memory generator), asked⟩
            last ⟨name, generator, (generate memory generator).requests (planner.handOut name rest),
              .ok output⟩ :=
        fun hlast => ⟨memory, _, _, .ok (next, output), rfl, rfl, rfl, rfl, .refl, hreach, hlast⟩
      cases hafter : after.queue with
      | nil =>
          cases hrest with
          | done hempty =>
              rw [List.flatMap_nil, List.append_nil]
              refine ⟨_, rfl, rfl, Or.inl ⟨next, rfl, hempty⟩, hcall, ?_⟩
              intro call hmem
              rw [List.mem_singleton.1 hmem]
              exact hmade (.single .finish)
          | fail hcons _ => cases hafter.symm.trans hcons
          | call hcons _ _ => cases hafter.symm.trans hcons
      | cons first others =>
          obtain ⟨last, hplanner, hasked, hlast, hrestReach, hcalls⟩ := ih _ hafter
          refine ⟨last, hplanner, hasked, hlast, hcall.trans (.head (.call hafter) hrestReach), ?_⟩
          intro call hmem
          rcases List.mem_cons.1 hmem with rfl | hmem
          · exact hmade (.head .finish (.head (.call hafter) hrestReach))
          · exact (hcalls call hmem).extend (hcall.tail (.call hafter))

/-- Between the first call of a drain and its last moment there is one way only. -/
theorem reaches_last_of_reaches {start moment last : Moment S G E T} (hbegun : start.Begun)
    (hreach : ReflTransGen (Next generate) start last) (hlast : last.Last)
    (h : ReflTransGen (Next generate) start moment) :
    moment.Begun ∧ ReflTransGen (Next generate) moment last := by
  induction h with
  | refl => exact ⟨hbegun, hreach⟩
  | tail _ hnext ih =>
      obtain ⟨hmoment, hrest⟩ := ih
      refine ⟨hnext.begun hmoment, ?_⟩
      rcases hrest.cases_head with rfl | ⟨other, hother, hrest⟩
      · exact absurd hnext hlast.not_next
      · rw [hnext.unique hmoment hother]
        exact hrest

/-- The moments of a drain that runs: the first one comes after any requests, the last one is where the drain
stops, with its calls behind it, all calls are made in between, and all that comes after the first is on the way
to the last. -/
theorem moments_of_drainFrom? {fuel : Nat} {memory : S} {entries : List (String × G)}
    {calls : List (Planned (Except E T))} {name : String} {generator : G} {rest : List (String × G)}
    (hqueue : (({} : Planner G).requestAll entries).queue = (name, generator) :: rest)
    (h : (({} : Planner G).requestAll entries).drainFrom? generate fuel memory = some calls) :
    ∃ (log : List (Call G E T)) (first last : Moment S G E T),
      calls = log.map (·.planned) ∧
      first.stage = .calling name (generate memory generator) ∧
      last.asked = ({} : Planner G).answers entries ++ log.flatMap (·.requests) ∧ last.Last ∧
      ReflTransGen (Next generate) (fresh memory) first ∧
      ReflTransGen (Next generate) first last ∧
      (∀ call ∈ log, CalledBetween generate first last call) ∧
      ∀ moment, ReflTransGen (Next generate) first moment →
        ReflTransGen (Next generate) moment last := by
  obtain ⟨log, final, hlog, hcalls, -⟩ := exists_drains_of_callsFrom? fuel h
  obtain ⟨last, -, hasked, hlast, hreach, hmade⟩ :=
    hlog.exists_reaches (({} : Planner G).answers entries) hqueue
  have hwaiting := reaches_of_asks generate (({} : Planner G).asks_answers entries) memory []
  refine ⟨log, _, last, hcalls, rfl, hasked, hlast, hwaiting.tail (.begin hqueue), hreach, hmade, ?_⟩
  exact fun moment hmoment => (reaches_last_of_reaches (begun_calling _ _ _ _) hreach hlast hmoment).2

end Way

/-! ## The invariant -/

/-- A request for a name that was handed out does nothing. -/
theorem request_eq_of_mem_visited {planner : Planner G} {name : String}
    (h : name ∈ planner.visited) (generator : G) :
    planner.request name generator = (planner, false) := by
  rw [request, if_pos]
  rw [Bool.or_eq_true, Std.TreeSet.contains_iff_mem]
  exact Or.inl h

/-- The state changes with the first request only. -/
theorem request_state_of_ne_empty {planner : Planner G} (h : planner.state ≠ .empty) (name : String)
    (generator : G) : (planner.request name generator).1.state = planner.state := by
  unfold request
  rw [if_neg h]
  split <;> rfl

theorem request_state_of_empty {planner : Planner G} {name : String} {generator : G}
    (h : planner.state = .empty) (hqueued : (planner.request name generator).2 = true) :
    (planner.request name generator).1.state = .pending := by
  unfold request at hqueued ⊢
  split at hqueued
  · cases hqueued
  · next hnew =>
      rw [if_neg hnew]
      exact if_pos h

/-- A name counts as handed out before its generator is called. -/
theorem mem_visited_handOut (planner : Planner G) (name : String) (rest : List (String × G)) :
    name ∈ (planner.handOut name rest).visited :=
  Std.TreeSet.mem_insert_self

theorem mem_visited_handOut_of_mem {planner : Planner G} {other : String} (name : String)
    (rest : List (String × G)) (h : other ∈ planner.visited) :
    other ∈ (planner.handOut name rest).visited :=
  Std.TreeSet.mem_insert.2 (Or.inr h)

/-- A planner that has handed out a name was asked for something. -/
theorem Records.asked_ne_nil {planner : Planner G} {asked : List (Request G)}
    {handed : List (String × G)} (h : planner.Records asked handed) {name : String}
    (hname : name ∈ planner.visited) : asked ≠ [] := by
  have hasked := (h.mem_asked_iff name).2 (Or.inl hname)
  rintro rfl
  exact List.not_mem_nil hasked

/-- What the stage of its life says of a planner that was asked for `asked`. -/
def Stage.Allows (planner : Planner G) : Stage S G E T → List (Request G) → Prop
  | .waiting _, [] => planner.state = .empty
  | .waiting _, _ :: _ => planner.state = .pending
  | .calling name _, _ => planner.state = .draining ∧ name ∈ planner.visited
  | .between _, asked => planner.state = .draining ∧ asked ≠ []

namespace Moment

variable {generate : S → G → Script G E (S × T)} {moment next later : Moment S G E T}

/-- The invariant of a planner's life: the requests so far decide queue and sets, and its stage decides the
state. -/
structure Kept (moment : Moment S G E T) : Prop where
  records : ∃ handed, moment.planner.Records moment.asked handed
  allowed : moment.stage.Allows moment.planner moment.asked

theorem kept_fresh (memory : S) : (fresh memory : Moment S G E T).Kept :=
  ⟨⟨[], records_empty⟩, rfl⟩

/-- One step keeps the invariant. -/
theorem Kept.step (h : moment.Kept) (hnext : Next generate moment next) : next.Kept := by
  obtain ⟨⟨handed, hrecords⟩, hallowed⟩ := h
  cases hnext with
  | @ask planner memory asked name generator =>
      refine ⟨⟨handed, hrecords.request name generator⟩, ?_⟩
      cases asked with
      | nil =>
          -- Nothing was asked for yet, so this request is granted.
          exact request_state_of_empty hallowed ((hrecords.queued_iff name generator).2 List.not_mem_nil)
      | cons first rest =>
          have hpending : planner.state = .pending := hallowed
          exact (request_state_of_ne_empty (by rw [hpending]; nofun) name generator).trans hpending
  | begin hqueue =>
      exact ⟨⟨_, (hrecords.withState .draining).handOut hqueue⟩, rfl, mem_visited_handOut _ _ _⟩
  | @request planner current name generator next asked =>
      obtain ⟨hdraining, hvisited⟩ := hallowed
      refine ⟨⟨handed, hrecords.request name generator⟩, ?_, ?_⟩
      · exact (request_state_of_ne_empty (by rw [hdraining]; nofun) name generator).trans hdraining
      · rw [request_visited]
        exact hvisited
  | visited => exact ⟨⟨handed, hrecords⟩, hallowed⟩
  | state => exact ⟨⟨handed, hrecords⟩, hallowed⟩
  | @finish planner current memory output asked =>
      obtain ⟨hdraining, hvisited⟩ := hallowed
      exact ⟨⟨handed, hrecords⟩, hdraining, hrecords.asked_ne_nil hvisited⟩
  | call hqueue =>
      exact ⟨⟨_, hrecords.handOut hqueue⟩, hallowed.1, mem_visited_handOut _ _ _⟩

/-- The invariant holds all through a life. -/
theorem Kept.run (h : moment.Kept) (hlater : ReflTransGen (Next generate) moment later) : later.Kept := by
  induction hlater with
  | refl => exact h
  | tail _ hnext ih => exact ih.step hnext

/-- The state tells whether anything was asked for, and whether the drain has begun. -/
theorem Kept.state_iff (h : moment.Kept) :
    (moment.planner.state = .empty ↔ moment.asked = []) ∧
      (moment.planner.state = .pending ↔ moment.asked ≠ [] ∧ ∃ memory, moment.stage = .waiting memory) := by
  obtain ⟨planner, stage, asked⟩ := moment
  obtain ⟨⟨handed, hrecords⟩, hallowed⟩ := h
  cases stage with
  | waiting memory =>
      cases asked with
      | nil =>
          have hempty : planner.state = .empty := hallowed
          simp [hempty]
      | cons first rest =>
          have hpending : planner.state = .pending := hallowed
          simp [hpending]
  | calling name script =>
      have hdraining : planner.state = .draining := hallowed.1
      have hasked : asked ≠ [] := hrecords.asked_ne_nil hallowed.2
      simp [hdraining, hasked]
  | between memory =>
      have hdraining : planner.state = .draining := hallowed.1
      have hasked : asked ≠ [] := hallowed.2
      simp [hdraining, hasked]

theorem Kept.balanced (h : moment.Kept) : moment.Balanced := by
  have hstate := h.state_iff
  obtain ⟨⟨handed, hrecords⟩, hallowed⟩ := h
  have hconsistent := hrecords.consistent
  refine ⟨hconsistent.nodup, fun name => (hconsistent.pending_iff name).symm, ?_, ?_, ?_, hstate.1,
    hstate.2, ?_⟩
  · exact fun name hname => hconsistent.fresh name ((hconsistent.pending_iff name).1 hname)
  · intro name
    rw [hrecords.mem_asked_iff, or_comm]
  · intro name generator
    rw [hrecords.queued_iff, hrecords.mem_asked_iff, not_or, and_comm]
  · intro name script hstage
    rw [hstage] at hallowed
    exact ⟨hallowed.1, hallowed.2, request_eq_of_mem_visited hallowed.2⟩

/-! ## What grows -/

/-- Requests are not forgotten, and a name that was handed out stays so. -/
theorem Next.grows (h : Next generate moment next) :
    moment.asked <+: next.asked ∧ ∀ name ∈ moment.planner.visited, name ∈ next.planner.visited := by
  cases h with
  | ask name generator =>
      refine ⟨List.prefix_append _ _, ?_⟩
      rw [request_visited]
      exact fun _ => id
  | request =>
      refine ⟨List.prefix_append _ _, ?_⟩
      rw [request_visited]
      exact fun _ => id
  | @begin planner memory asked name generator rest hqueue =>
      exact ⟨List.prefix_rfl, fun _ => mem_visited_handOut_of_mem name rest⟩
  | call hqueue => exact ⟨List.prefix_rfl, fun _ => mem_visited_handOut_of_mem _ _⟩
  | visited => exact ⟨List.prefix_rfl, fun _ => id⟩
  | state => exact ⟨List.prefix_rfl, fun _ => id⟩
  | finish => exact ⟨List.prefix_rfl, fun _ => id⟩

theorem grows_of_reaches (h : ReflTransGen (Next generate) moment later) :
    moment.asked <+: later.asked ∧ ∀ name ∈ moment.planner.visited, name ∈ later.planner.visited := by
  induction h with
  | refl => exact ⟨List.prefix_rfl, fun _ => id⟩
  | tail _ hnext ih =>
      obtain ⟨hasked, hvisited⟩ := hnext.grows
      exact ⟨ih.1.trans hasked, fun name hname => hvisited name (ih.2 name hname)⟩

variable (generate) in
/-- Take a new planner, ask it for names in any order, and drain it with any generators.  At every moment of
this, also in the middle of a generator's call, the planner is balanced.  At any later moment the names that
wait or were handed out are still among those that do, and the names that were handed out are not granted
again.  These are the moments of the drain that runs: it begins with the first call and stops at a last moment,
every call of it starts and ends at moments in between, and there are no others on the way. -/
theorem balanced_at_every_moment (memory : S) :
    (∀ moment later : Moment S G E T, ReflTransGen (Next generate) (fresh memory) moment →
      ReflTransGen (Next generate) moment later →
      moment.Balanced ∧
      (∀ name, name ∈ moment.planner.pending ∨ name ∈ moment.planner.visited →
        name ∈ later.planner.pending ∨ name ∈ later.planner.visited) ∧
      ∀ name ∈ moment.planner.visited, name ∈ later.planner.visited ∧
        ∀ generator, later.planner.request name generator = (later.planner, false)) ∧
    ∀ (fuel : Nat) (entries : List (String × G)) (name : String) (generator : G) (rest : List (String × G))
      (calls : List (Planned (Except E T))),
      (({} : Planner G).requestAll entries).queue = (name, generator) :: rest →
      (({} : Planner G).requestAll entries).drainFrom? generate fuel memory = some calls →
      ∃ (log : List (Call G E T)) (first last : Moment S G E T),
        calls = log.map (·.planned) ∧
        first.stage = .calling name (generate memory generator) ∧
        last.asked = ({} : Planner G).answers entries ++ log.flatMap (·.requests) ∧ last.Last ∧
        ReflTransGen (Next generate) (fresh memory) first ∧
        ReflTransGen (Next generate) first last ∧
        (∀ call ∈ log, CalledBetween generate first last call) ∧
        ∀ moment, ReflTransGen (Next generate) first moment →
          ReflTransGen (Next generate) moment last := by
  refine ⟨?_, fun _ _ _ _ _ _ hqueue hcalls => moments_of_drainFrom? hqueue hcalls⟩
  intro moment later h hlater
  have hkept := (kept_fresh memory).run h
  have hbalanced := hkept.balanced
  obtain ⟨hasked, hvisited⟩ := grows_of_reaches hlater
  refine ⟨hbalanced, ?_, ?_⟩
  · intro name
    rw [hbalanced.known_iff, (hkept.run hlater).balanced.known_iff]
    exact fun hname => (hasked.map _).subset hname
  · intro name hname
    exact ⟨hvisited name hname, request_eq_of_mem_visited (hvisited name hname)⟩

/-- The call for `a`, which asks for itself in vain and then for `c`, and the call for `c` after it, both of them
on the way of the drain that runs. -/
theorem balanced_in_calls_of_askTwice :
    let planner := { (({} : Planner String).request "a" "x").1 with state := .draining }.handOut "a" []
    let moment : Moment Nat String Unit (String × Nat) :=
      ⟨planner, .calling "a" (askTwice 0 "x"), [⟨"a", "x", true⟩]⟩
    let later : Moment Nat String Unit (String × Nat) :=
      ⟨(planner.request "c" "xc").1.handOut "c" [], .calling "c" (askTwice 1 "xc"),
        [⟨"a", "x", true⟩, ⟨"a", "xa", false⟩, ⟨"c", "xc", true⟩]⟩
    (ReflTransGen (Next askTwice) (fresh 0) moment ∧ ReflTransGen (Next askTwice) moment later ∧
      moment.Balanced ∧ "a" ∈ moment.planner.visited ∧
      ("a" ∈ later.planner.pending ∨ "a" ∈ later.planner.visited) ∧ "a" ∈ later.planner.visited ∧
      ∀ generator, later.planner.request "a" generator = (later.planner, false)) ∧
    (({} : Planner String).requestAll [("a", "x")]).queue = [("a", "x")] ∧
      (({} : Planner String).requestAll [("a", "x")]).drainFrom? askTwice 2 0 =
        some [⟨"a", .ok ("x", 0)⟩, ⟨"c", .ok ("xc", 1)⟩] ∧
      ∃ (log : List (Call String Unit (String × Nat))) (first last : Moment Nat String Unit (String × Nat)),
        [⟨"a", .ok ("x", 0)⟩, ⟨"c", .ok ("xc", 1)⟩] = log.map (·.planned) ∧
        first.stage = .calling "a" (askTwice 0 "x") ∧ last.Last ∧
        ReflTransGen (Next askTwice) (fresh 0) first ∧
        ∀ call ∈ log, CalledBetween askTwice first last call := by
  intro planner moment later
  have hmoment : ReflTransGen (Next askTwice) (fresh 0) moment :=
    .head (.ask "a" "x") (.head (.begin rfl) .refl)
  have hlater : ReflTransGen (Next askTwice) moment later :=
    .head .request (.head .request (.head .finish (.head (.call rfl) .refl)))
  have hvisited : "a" ∈ moment.planner.visited := mem_visited_handOut _ "a" []
  have hqueue : (({} : Planner String).requestAll [("a", "x")]).queue = [("a", "x")] := rfl
  have hdrain : (({} : Planner String).requestAll [("a", "x")]).drainFrom? askTwice 2 0 =
      some [⟨"a", .ok ("x", 0)⟩, ⟨"c", .ok ("xc", 1)⟩] := rfl
  obtain ⟨hinvariant, hruns⟩ := balanced_at_every_moment askTwice 0
  obtain ⟨hbalanced, hknown, hkept⟩ := hinvariant moment later hmoment hlater
  obtain ⟨log, first, last, hcalls, hfirst, -, hlast, hreach, -, hmade, -⟩ :=
    hruns 2 [("a", "x")] "a" "x" [] _ hqueue hdrain
  exact ⟨⟨hmoment, hlater, hbalanced, hvisited, hknown "a" (Or.inr hvisited), hkept "a" hvisited⟩,
    hqueue, hdrain, log, first, last, hcalls, hfirst, hlast, hreach, hmade⟩

end Moment

end Planner

end CustomResource
