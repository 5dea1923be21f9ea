import CustomResource.Configuration
import CustomResource.Result

/-!
# Texts of configurations

A configuration is read text by text, and the first text that cannot be read is what it fails with.
-/

namespace CustomResource

open Source

/-- The first configured text that cannot be read: derives, then attributes of types, then those of fields. -/
def Config.unreadable? (config : Config) : Option String :=
  (config.derives.find? fun text => (typePath? text).isNone).or
    (((config.typeAttributes ++ config.fieldAttributes).map Prod.snd).find? fun text =>
      (attributes? text).isNone)

/-- What a list is searched for may be mapped before or after. -/
theorem findSome?_ite_eq_map_find? {α β : Type} (p : α → Bool) (f : α → β) (list : List α) :
    list.findSome? (fun a => if p a then some (f a) else none) = (list.find? p).map f := by
  rw [List.find?_eq_findSome?_guard, List.map_findSome?]
  congr 1
  funext a
  cases hp : p a <;> simp [Option.guard, hp]

theorem failure?_readDerive (text : String) :
    failure? (readDerive text) = if (typePath? text).isNone then some (.invalidAttribute text) else none := by
  unfold readDerive
  cases typePath? text <;> rfl

theorem failure?_readAttributes (configured : String × String) :
    failure? (readAttributes configured) =
      if (attributes? configured.2).isNone then some (.invalidAttribute configured.2) else none := by
  unfold readAttributes
  cases attributes? configured.2 <;> rfl

/-- A configuration fails with its first unreadable text. -/
theorem failure?_presentation (config : Config) :
    failure? config.presentation = config.unreadable?.map .invalidAttribute := by
  have hderives : failure? (config.derives.mapM readDerive) =
      (config.derives.find? fun text => (typePath? text).isNone).map .invalidAttribute := by
    rw [failure?_mapM, ← findSome?_ite_eq_map_find?]
    simp only [failure?_readDerive]
  have hattributes : ∀ configured : List (String × String),
      failure? (configured.mapM readAttributes) =
        ((configured.map Prod.snd).find? fun text => (attributes? text).isNone).map .invalidAttribute := by
    intro configured
    rw [failure?_mapM, ← findSome?_ite_eq_map_find?, List.findSome?_map]
    simp only [failure?_readAttributes, Function.comp_def]
  rw [Config.presentation, failure?_bind fun derives _ => failure?_bind fun typeAttributes _ =>
    failure?_bind_eq_left fun _ => rfl, hderives, hattributes, hattributes, Config.unreadable?,
    List.map_append, List.find?_append, Option.map_or, Option.map_or]

theorem unreadable?_eq_none_iff {config : Config} : config.unreadable? = none ↔
    (∀ text ∈ config.derives, (typePath? text).isSome) ∧
      ∀ configured ∈ config.typeAttributes ++ config.fieldAttributes, (attributes? configured.2).isSome := by
  simp only [Config.unreadable?, Option.or_eq_none_iff, List.find?_eq_none, List.forall_mem_map,
    Option.isNone_iff_eq_none, Option.isSome_iff_ne_none, ne_eq]

end CustomResource
