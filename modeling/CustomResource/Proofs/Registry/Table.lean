import CustomResource.Registry.Basic

/-!
# Tables of declarations

A table that takes in declarations holds the last of each full name, and keeps what it had under all other
names, see `getElem?_messages_add` and `getElem?_enums_add`.  Tables are equal if they hold the same, so
declarations that share no names can be added in either order (`add_add_comm`).
-/

namespace CustomResource

open Descriptor

/-! ## The last of a name -/

section

variable {α : Type}

/-- What a list has last under a name. -/
def lastNamed? (name : String) (list : List (String × α)) : Option α :=
  (list.filter (·.1 == name)).getLast?.map Prod.snd

@[simp] theorem lastNamed?_nil (name : String) : lastNamed? name ([] : List (String × α)) = none := rfl

theorem lastNamed?_cons (name : String) (first : String × α) (rest : List (String × α)) :
    lastNamed? name (first :: rest) =
      (lastNamed? name rest).or (if first.1 = name then some first.2 else none) := by
  by_cases hname : first.1 = name
  · cases hrest : rest.filter (·.1 == name) with
    | nil => simp [lastNamed?, hname, hrest]
    | cons second others => simp [lastNamed?, hname, hrest, List.getLast?_cons]
  · simp [lastNamed?, hname]

theorem lastNamed?_eq_none_iff {name : String} {list : List (String × α)} :
    lastNamed? name list = none ↔ name ∉ list.map Prod.fst := by
  simp only [lastNamed?, Option.map_eq_none_iff, List.getLast?_eq_none_iff, List.filter_eq_nil_iff,
    beq_iff_eq, List.mem_map, not_exists, not_and]

/-- At most one of two lists without common names has something under a name. -/
theorem lastNamed?_or_left_comm {first second : List (String × α)}
    (hdisjoint : ∀ name ∈ first.map Prod.fst, name ∉ second.map Prod.fst) (name : String)
    (otherwise : Option α) :
    (lastNamed? name second).or ((lastNamed? name first).or otherwise) =
      (lastNamed? name first).or ((lastNamed? name second).or otherwise) := by
  by_cases hname : name ∈ first.map Prod.fst
  · rw [lastNamed?_eq_none_iff.2 (hdisjoint name hname), Option.none_or, Option.none_or]
  · rw [lastNamed?_eq_none_iff.2 hname, Option.none_or, Option.none_or]

/-- Inserting in order keeps the last of each name. -/
theorem getElem?_foldl_insert (list : List (String × α)) (table : Std.ExtTreeMap String α)
    (name : String) :
    (list.foldl (fun table (name, value) => table.insert name value) table)[name]? =
      (lastNamed? name list).or table[name]? := by
  induction list generalizing table with
  | nil => simp
  | cons first rest ih =>
      rw [List.foldl_cons, ih, lastNamed?_cons, Std.ExtTreeMap.getElem?_insert, Option.or_assoc]
      by_cases hname : first.1 = name <;> simp [hname]

end

/-! ## Declarations -/

namespace Declarations

/-- The full names that are declared, those of messages first. -/
def names (declarations : Declarations) : List String :=
  declarations.messages.map Prod.fst ++ declarations.enums.map Prod.fst

/-- No full name is declared on both sides, neither for a message nor for an enum. -/
def Apart (first second : Declarations) : Prop :=
  (∀ name ∈ first.messages.map Prod.fst, name ∉ second.messages.map Prod.fst) ∧
    ∀ name ∈ first.enums.map Prod.fst, name ∉ second.enums.map Prod.fst

instance (first second : Declarations) : Decidable (first.Apart second) :=
  inferInstanceAs (Decidable (_ ∧ _))

/-- The types that files declare, in the order they are visited. -/
def ofFiles (files : FileSet) : Declarations :=
  ⟨files.flatMap fun file => (ofFile file).messages, files.flatMap fun file => (ofFile file).enums⟩

@[simp] theorem messages_append (first second : Declarations) :
    (first ++ second).messages = first.messages ++ second.messages := rfl

@[simp] theorem enums_append (first second : Declarations) :
    (first ++ second).enums = first.enums ++ second.enums := rfl

end Declarations

namespace TypeTable

/-! ## Adding declarations -/

theorem ext_getElem? {first second : TypeTable}
    (hmessages : ∀ name : String, first.messages[name]? = second.messages[name]?)
    (henums : ∀ name : String, first.enums[name]? = second.enums[name]?) : first = second := by
  cases first
  cases second
  rw [TypeTable.mk.injEq]
  exact ⟨Std.ExtTreeMap.ext_getElem? hmessages, Std.ExtTreeMap.ext_getElem? henums⟩

theorem getElem?_messages_add (types : TypeTable) (declarations : Declarations) (name : String) :
    (types.add declarations).messages[name]? =
      (lastNamed? name declarations.messages).or types.messages[name]? :=
  getElem?_foldl_insert _ _ _

theorem getElem?_enums_add (types : TypeTable) (declarations : Declarations) (name : String) :
    (types.add declarations).enums[name]? =
      (lastNamed? name declarations.enums).or types.enums[name]? :=
  getElem?_foldl_insert _ _ _

theorem add_append (types : TypeTable) (first second : Declarations) :
    types.add (first ++ second) = (types.add first).add second := by
  simp [add]

/-- Adding files one by one adds all that they declare. -/
theorem foldl_add_ofFile (files : FileSet) (types : TypeTable) :
    files.foldl (fun types file => types.add (.ofFile file)) types = types.add (.ofFiles files) := by
  induction files generalizing types with
  | nil => rfl
  | cons file rest ih =>
      rw [List.foldl_cons, ih, ← add_append]
      rfl

theorem add_ofFiles_concat (types : TypeTable) (files : FileSet) (file : File) :
    types.add (.ofFiles (files ++ [file])) = (types.add (.ofFiles files)).add (.ofFile file) := by
  rw [← foldl_add_ofFile, List.foldl_append, List.foldl_cons, List.foldl_nil, foldl_add_ofFile]

/-- Declarations without common names can be added in either order. -/
theorem add_add_comm {first second : Declarations} (hapart : first.Apart second) (types : TypeTable) :
    (types.add first).add second = (types.add second).add first := by
  apply ext_getElem?
  · intro name
    rw [getElem?_messages_add, getElem?_messages_add, getElem?_messages_add, getElem?_messages_add]
    exact lastNamed?_or_left_comm hapart.1 name _
  · intro name
    rw [getElem?_enums_add, getElem?_enums_add, getElem?_enums_add, getElem?_enums_add]
    exact lastNamed?_or_left_comm hapart.2 name _

end TypeTable

end CustomResource
