/-!
# Results of steps

What a computation that may fail has done when it succeeds: each of its steps has succeeded, and a traversal
has one result for each member, in order.  What it fails with, `failure?`, is what the first of its steps that
fails has failed with.
-/

namespace CustomResource

variable {α β γ E F : Type}

/-! ## Steps -/

theorem bind_eq_ok_iff {x : Except E α} {f : α → Except E β} {b : β} :
    (x >>= f) = .ok b ↔ ∃ a, x = .ok a ∧ f a = .ok b := by
  cases x with
  | error error => simp [bind, Except.bind]
  | ok a => simp [bind, Except.bind]

theorem pure_eq_ok_iff {a b : α} : (pure a : Except E α) = .ok b ↔ a = b := by
  simp [pure, Except.pure]

theorem map_eq_ok_iff {x : Except E α} {f : α → β} {b : β} :
    x.map f = .ok b ↔ ∃ a, x = .ok a ∧ f a = b := by
  cases x with
  | error error => simp [Except.map]
  | ok a => simp [Except.map]

theorem functor_map_eq_ok_iff {x : Except E α} {f : α → β} {b : β} :
    f <$> x = .ok b ↔ ∃ a, x = .ok a ∧ f a = b :=
  map_eq_ok_iff

theorem mapError_eq_ok_iff {x : Except E α} {f : E → F} {a : α} :
    x.mapError f = .ok a ↔ x = .ok a := by
  cases x with
  | error error =>
      constructor
      · intro h
        cases h
      · intro h
        cases h
  | ok b =>
      constructor
      · intro h
        cases h
        rfl
      · intro h
        cases h
        rfl

theorem toOption_eq_some_iff {x : Except E α} {a : α} : x.toOption = some a ↔ x = .ok a := by
  cases x <;> simp [Except.toOption]

/-- A result that can be computed is there. -/
theorem exists_of_map_toOption {x : Except E α} {f : α → β} {b : β} (h : x.toOption.map f = some b) :
    ∃ a, x = .ok a ∧ f a = b := by
  cases x with
  | error error => cases h
  | ok a => exact ⟨a, rfl, Option.some.inj h⟩

/-! ## Traversals -/

theorem mapM_cons_eq_ok_iff {f : α → Except E β} {first : α} {rest : List α} {results : List β} :
    (first :: rest).mapM f = .ok results ↔
      ∃ b more, f first = .ok b ∧ rest.mapM f = .ok more ∧ b :: more = results := by
  simp only [List.mapM_cons, bind_eq_ok_iff, pure_eq_ok_iff]
  constructor
  · rintro ⟨b, hb, more, hmore, hresults⟩
    exact ⟨b, more, hb, hmore, hresults⟩
  · rintro ⟨b, more, hb, hmore, hresults⟩
    exact ⟨b, hb, more, hmore, hresults⟩

/-- Each result of a traversal comes from some member. -/
theorem exists_mem_of_mem_mapM {f : α → Except E β} :
    ∀ {list : List α} {results : List β}, list.mapM f = .ok results →
      ∀ result ∈ results, ∃ a ∈ list, f a = .ok result
  | [], results, h, result, hmem => by
      rw [List.mapM_nil, pure_eq_ok_iff] at h
      subst h
      cases hmem
  | first :: rest, results, h, result, hmem => by
      obtain ⟨b, more, hfirst, hrest, rfl⟩ := mapM_cons_eq_ok_iff.1 h
      rcases List.mem_cons.1 hmem with rfl | hmem
      · exact ⟨first, List.mem_cons_self, hfirst⟩
      · obtain ⟨a, ha, hresult⟩ := exists_mem_of_mem_mapM hrest result hmem
        exact ⟨a, List.mem_cons_of_mem _ ha, hresult⟩

/-- What can be told of a member can be told of its result, in the order of the members. -/
theorem filterMap_eq_of_mapM {f : α → Except E β} {g : α → Option γ} {h : β → Option γ}
    (hf : ∀ a b, f a = .ok b → h b = g a) :
    ∀ {list : List α} {results : List β}, list.mapM f = .ok results →
      results.filterMap h = list.filterMap g
  | [], results, hlist => by
      rw [List.mapM_nil, pure_eq_ok_iff] at hlist
      subst hlist
      rfl
  | first :: rest, results, hlist => by
      obtain ⟨b, more, hfirst, hrest, rfl⟩ := mapM_cons_eq_ok_iff.1 hlist
      rw [List.filterMap_cons, List.filterMap_cons, hf first b hfirst, filterMap_eq_of_mapM hf hrest]

/-- What can be told of every member can be told of all results. -/
theorem map_eq_of_mapM {f : α → Except E β} {g : α → γ} {h : β → γ}
    (hf : ∀ a b, f a = .ok b → h b = g a) {list : List α} {results : List β}
    (hlist : list.mapM f = .ok results) : results.map h = list.map g := by
  have hsome : results.filterMap (some ∘ h) = list.filterMap (some ∘ g) :=
    filterMap_eq_of_mapM (fun a b hab => congrArg some (hf a b hab)) hlist
  rwa [List.filterMap_eq_map, List.filterMap_eq_map] at hsome

/-! ## Failures -/

/-- The error of a result, if there is one. -/
def failure? : Except E α → Option E
  | .ok _ => none
  | .error error => some error

theorem failure?_eq_some_iff {x : Except E α} {error : E} : failure? x = some error ↔ x = .error error := by
  cases x <;> simp [failure?]

theorem failure?_eq_none_iff {x : Except E α} : failure? x = none ↔ ∃ a, x = .ok a := by
  cases x <;> simp [failure?]

/-- Of two steps the first error counts, if what follows fails in one way whatever the first one yields. -/
theorem failure?_bind {x : Except E α} {f : α → Except E β} {rest : Option E}
    (h : ∀ a, x = .ok a → failure? (f a) = rest) : failure? (x >>= f) = (failure? x).or rest := by
  cases x with
  | error error => rfl
  | ok a => exact h a rfl

/-- A step that does not fail adds no error. -/
theorem failure?_bind_eq_left {x : Except E α} {f : α → Except E β} (h : ∀ a, failure? (f a) = none) :
    failure? (x >>= f) = failure? x := by
  rw [failure?_bind fun a _ => h a, Option.or_none]

@[simp] theorem failure?_map (x : Except E α) (f : α → β) : failure? (x.map f) = failure? x := by
  cases x <;> rfl

@[simp] theorem failure?_mapError (x : Except E α) (f : E → F) :
    failure? (x.mapError f) = (failure? x).map f := by
  cases x <;> rfl

/-- A traversal fails where its first member does. -/
theorem failure?_mapM (f : α → Except E β) (list : List α) :
    failure? (list.mapM f) = list.findSome? fun a => failure? (f a) := by
  induction list with
  | nil => rfl
  | cons first rest ih =>
      have hrest : ∀ b, f first = .ok b →
          failure? (rest.mapM f >>= fun more => pure (b :: more)) = failure? (rest.mapM f) :=
        fun b _ => failure?_bind_eq_left fun more => rfl
      rw [List.mapM_cons, failure?_bind hrest, ih, List.findSome?_cons]
      cases failure? (f first) <;> rfl

/-- The error of a traversal is that of a member, and all members before it succeed. -/
theorem mapM_eq_error_iff {f : α → Except E β} {list : List α} {error : E} :
    list.mapM f = .error error ↔
      ∃ before a after, list = before ++ a :: after ∧ f a = .error error ∧
        ∀ earlier ∈ before, ∃ b, f earlier = .ok b := by
  simp only [← failure?_eq_some_iff, failure?_mapM, List.findSome?_eq_some_iff, failure?_eq_none_iff]

/-- Whatever a result fails with has a property. -/
def FailsOnlyWith (p : E → Prop) (result : Except E α) : Prop :=
  ∀ error, result = .error error → p error

namespace FailsOnlyWith

variable {p : E → Prop} {x : Except E α}

theorem ok (a : α) : FailsOnlyWith p (.ok a : Except E α) := by
  intro error h
  cases h

theorem error {error : E} (h : p error) : FailsOnlyWith p (.error error : Except E α) := by
  intro other hother
  cases hother
  exact h

/-- A step fails only with what it and the steps after it fail with. -/
theorem bind {f : α → Except E β} (hx : FailsOnlyWith p x) (hf : ∀ a, x = .ok a → FailsOnlyWith p (f a)) :
    FailsOnlyWith p (x >>= f) := by
  cases x with
  | error first => exact error (hx first rfl)
  | ok a => exact hf a rfl

theorem map (hx : FailsOnlyWith p x) (f : α → β) : FailsOnlyWith p (x.map f) := by
  cases x with
  | error first => exact error (hx first rfl)
  | ok a => exact ok (f a)

theorem mapM {f : α → Except E β} {list : List α} (h : ∀ a ∈ list, FailsOnlyWith p (f a)) :
    FailsOnlyWith p (list.mapM f) := by
  induction list with
  | nil => exact ok []
  | cons first rest ih =>
      rw [List.mapM_cons]
      refine (h first List.mem_cons_self).bind fun b _ => ?_
      exact (ih fun a ha => h a (List.mem_cons_of_mem _ ha)).bind fun more _ => ok (b :: more)

end FailsOnlyWith

end CustomResource
