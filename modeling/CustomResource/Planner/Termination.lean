import CustomResource.Planner.Basic

/-!
# Drains end

A drain whose generators request names from a finite list only makes at most as many calls as the list has
members: `callsFrom?_isSome` and `calls?_isSome` give the bound that callers pass as fuel.  The argument is the invariant of a
planner between calls.  The queue holds every pending name once and no visited one, so each call takes a
name that was not visited before.
-/

namespace CustomResource

namespace Planner

variable {G E T : Type}

/-- The names that wait, in order. -/
def names (planner : Planner G) : List String :=
  planner.queue.map (·.1)

/-- The queue holds the pending names, each once, and none that was handed out. -/
structure Consistent (planner : Planner G) : Prop where
  nodup : planner.names.Nodup
  pending_iff : ∀ name, name ∈ planner.pending ↔ name ∈ planner.names
  fresh : ∀ name ∈ planner.names, name ∉ planner.visited

theorem consistent_empty : ({} : Planner G).Consistent where
  nodup := by simp [names]
  pending_iff := by simp [names]
  fresh := by simp [names]

/-- A request leaves the visited names as they are. -/
theorem request_visited (planner : Planner G) (name : String) (generator : G) :
    (planner.request name generator).1.visited = planner.visited := by
  unfold request
  split <;> rfl

/-- A request queues at most the name it is made for. -/
theorem mem_names_request {planner : Planner G} {name other : String} {generator : G}
    (h : other ∈ (planner.request name generator).1.names) :
    other = name ∨ other ∈ planner.names := by
  unfold request at h
  split at h
  · exact Or.inr h
  · simp only [names, List.map_append, List.map_cons, List.map_nil, List.mem_append,
      List.mem_singleton] at h
    exact h.symm

theorem Consistent.request {planner : Planner G} (h : planner.Consistent) (name : String)
    (generator : G) : (planner.request name generator).1.Consistent := by
  unfold Planner.request
  split
  · exact h
  next hnew =>
    simp only [Bool.or_eq_true, not_or, Std.TreeSet.contains_iff_mem] at hnew
    obtain ⟨hvisited, hpending⟩ := hnew
    have hnames : name ∉ planner.names := fun hmem => hpending ((h.pending_iff name).2 hmem)
    refine ⟨?_, ?_, ?_⟩
    · simp only [names, List.map_append, List.map_cons, List.map_nil]
      refine List.nodup_append.2 ⟨h.nodup, by simp, ?_⟩
      intro a ha b hb
      simp only [List.mem_singleton] at hb
      subst hb
      exact fun heq => hnames (heq ▸ ha)
    · intro other
      simp only [names, List.map_append, List.map_cons, List.map_nil, List.mem_append,
        List.mem_singleton, Std.TreeSet.mem_insert, Std.LawfulEqCmp.compare_eq_iff_eq]
      rw [h.pending_iff other, names]
      constructor
      · rintro (rfl | hmem)
        · exact Or.inr rfl
        · exact Or.inl hmem
      · rintro (hmem | rfl)
        · exact Or.inr hmem
        · exact Or.inl rfl
    · intro other hother
      simp only [names, List.map_append, List.map_cons, List.map_nil, List.mem_append,
        List.mem_singleton] at hother
      rcases hother with hother | rfl
      · exact h.fresh other hother
      · exact hvisited

/-- Handing out the first name keeps the invariant. -/
theorem Consistent.handOut {planner : Planner G} (h : planner.Consistent) {name : String}
    {generator : G} {rest : List (String × G)} (hqueue : planner.queue = (name, generator) :: rest) :
    (planner.handOut name rest).Consistent := by
  have hnames : planner.names = name :: rest.map (·.1) := by simp [names, hqueue]
  have hnodup := h.nodup
  rw [hnames, List.nodup_cons] at hnodup
  refine ⟨hnodup.2, ?_, ?_⟩
  · intro other
    simp only [Planner.handOut, names, Std.TreeSet.mem_erase, ne_eq,
      Std.LawfulEqCmp.compare_eq_iff_eq]
    rw [h.pending_iff other, hnames, List.mem_cons]
    constructor
    · rintro ⟨hne, rfl | hmem⟩
      · exact absurd rfl hne
      · exact hmem
    · intro hmem
      exact ⟨fun heq => hnodup.1 (heq ▸ hmem), Or.inr hmem⟩
  · intro other hother
    simp only [Planner.handOut, names] at hother ⊢
    simp only [Std.TreeSet.mem_insert, Std.LawfulEqCmp.compare_eq_iff_eq, not_or]
    refine ⟨fun heq => hnodup.1 (heq ▸ hother), h.fresh other ?_⟩
    rw [hnames]
    exact List.mem_cons_of_mem _ hother

/-- The names of a list that were not handed out yet. -/
def remaining (known : List String) (planner : Planner G) : List String :=
  known.filter fun name => !planner.visited.contains name

/-- A known name that was not handed out remains. -/
theorem mem_remaining {known : List String} {planner : Planner G} {name : String}
    (hmem : name ∈ known) (hfresh : name ∉ planner.visited) : name ∈ planner.remaining known := by
  rw [remaining, List.mem_filter]
  refine ⟨hmem, ?_⟩
  rw [← Std.TreeSet.contains_iff_mem, Bool.not_eq_true] at hfresh
  rw [hfresh]
  rfl

/-- Handing out a name that remains leaves fewer. -/
theorem remaining_handOut_lt {known : List String} {planner : Planner G} {name : String}
    (rest : List (String × G)) (hmem : name ∈ known) (hfresh : name ∉ planner.visited) :
    ((planner.handOut name rest).remaining known).length <
      (planner.remaining known).length := by
  have hsub : (planner.handOut name rest).remaining known =
      (planner.remaining known).filter fun other => !(compare name other == .eq) := by
    simp only [remaining, Planner.handOut, List.filter_filter]
    congr 1
    funext other
    simp [Std.TreeSet.contains_insert]
  rw [hsub]
  exact List.length_filter_lt_length_iff_exists.2 ⟨name, mem_remaining hmem hfresh, by simp⟩

end Planner

namespace Script

variable {G E T : Type}

/-- Every name the script may request is in a list. -/
inductive RequestsIn (known : List String) : Script G E T → Prop where
  | done (output : T) : RequestsIn known (.done output)
  | fail (error : E) : RequestsIn known (.fail error)
  | request (name : String) (generator : G) (next : Bool → Script G E T) (mem : name ∈ known)
      (rest : ∀ answer, RequestsIn known (next answer)) :
      RequestsIn known (.request name generator next)
  | visited (name : String) (next : Bool → Script G E T)
      (rest : ∀ answer, RequestsIn known (next answer)) :
      RequestsIn known (.visited name next)
  | state (next : PlannerState → Script G E T)
      (rest : ∀ answer, RequestsIn known (next answer)) :
      RequestsIn known (.state next)

theorem RequestsIn.requestAll {known : List String} {next : Script G E T}
    (hnext : next.RequestsIn known) :
    ∀ requests : List (String × G), (∀ request ∈ requests, request.1 ∈ known) →
      (Script.requestAll requests next).RequestsIn known
  | [], _ => hnext
  | (name, generator) :: rest, h => by
      refine RequestsIn.request name generator _ (h (name, generator) (by simp)) fun _ => ?_
      exact RequestsIn.requestAll hnext rest fun request hmem =>
        h request (List.mem_cons_of_mem _ hmem)

theorem RequestsIn.map {U : Type} {known : List String} {script : Script G E T}
    (h : script.RequestsIn known) (f : T → U) : (script.map f).RequestsIn known := by
  induction h with
  | done output => exact .done _
  | fail error => exact .fail error
  | request name generator next mem _ ih => exact .request name generator _ mem ih
  | visited name next _ ih => exact .visited name _ ih
  | state next _ ih => exact .state _ ih

/-- A script leaves the visited names, keeps the invariant, and queues nothing outside the list. -/
theorem run_spec {known : List String} {script : Script G E T}
    (hscript : script.RequestsIn known) :
    ∀ {planner : Planner G}, planner.Consistent → (∀ name ∈ planner.names, name ∈ known) →
      (script.run planner).1.Consistent ∧
        (∀ name ∈ (script.run planner).1.names, name ∈ known) ∧
        (script.run planner).1.visited = planner.visited := by
  induction hscript with
  | done output => exact fun h hnames => ⟨h, hnames, rfl⟩
  | fail error => exact fun h hnames => ⟨h, hnames, rfl⟩
  | request name generator next hmem _ ih =>
      intro planner h hnames
      obtain ⟨hconsistent, hqueued, hvisited⟩ :=
        ih (planner.request name generator).2 (h.request name generator) (by
          intro other hother
          rcases Planner.mem_names_request hother with rfl | hother
          · exact hmem
          · exact hnames other hother)
      exact ⟨hconsistent, hqueued, hvisited.trans (planner.request_visited name generator)⟩
  | visited name next _ ih => exact fun h hnames => ih _ h hnames
  | state next _ ih => exact fun h hnames => ih _ h hnames

end Script

namespace Planner

variable {S G E T : Type}

/-- A drain ends when its fuel covers the names that were not handed out yet. -/
theorem callsFrom?_isSome {known : List String} {generate : S → G → Script G E (S × T)}
    (hgenerate : ∀ memory generator, (generate memory generator).RequestsIn known) :
    ∀ (fuel : Nat) (memory : S) {planner : Planner G}, planner.Consistent →
      (∀ name ∈ planner.names, name ∈ known) → (planner.remaining known).length ≤ fuel →
      (planner.callsFrom? generate fuel memory).isSome = true := by
  intro fuel
  induction fuel with
  | zero =>
      intro memory planner h hnames hfuel
      have hempty : planner.queue = [] := by
        cases hqueue : planner.queue with
        | nil => rfl
        | cons first rest =>
            exfalso
            have hfirst : first.1 ∈ planner.names := by simp [names, hqueue]
            have hin := mem_remaining (hnames _ hfirst) (h.fresh _ hfirst)
            have := List.length_pos_of_mem hin
            omega
      simp [callsFrom?, hempty]
  | succ fuel ih =>
      intro memory planner h hnames hfuel
      rw [callsFrom?]
      split
      · rfl
      next name generator rest hqueue =>
        have hfirst : name ∈ planner.names := by simp [names, hqueue]
        have hless := remaining_handOut_lt rest (hnames name hfirst) (h.fresh name hfirst)
        obtain ⟨hconsistent, hqueued, hvisited⟩ :=
          Script.run_spec (hgenerate memory generator) (h.handOut hqueue) (by
            intro other hother
            refine hnames other ?_
            simp only [names, hqueue, List.map_cons]
            exact List.mem_cons_of_mem _ hother)
        split
        · rfl
        next after next output hrun =>
          rw [Option.isSome_map]
          rw [hrun] at hconsistent hqueued hvisited
          refine ih next hconsistent hqueued ?_
          have hsame : after.remaining known =
              (planner.handOut name rest).remaining known := by
            simp only [remaining]
            rw [hvisited]
          rw [hsame]
          omega

/-- A drain without a memory ends likewise. -/
theorem calls?_isSome {known : List String} {generate : G → Script G E T}
    (hgenerate : ∀ generator, (generate generator).RequestsIn known) (fuel : Nat)
    {planner : Planner G} (h : planner.Consistent) (hnames : ∀ name ∈ planner.names, name ∈ known)
    (hfuel : (planner.remaining known).length ≤ fuel) :
    (planner.calls? generate fuel).isSome = true :=
  callsFrom?_isSome (fun _ generator => (hgenerate generator).map _) fuel () h hnames hfuel

end Planner

end CustomResource
