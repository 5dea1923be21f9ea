import CustomResource.Registry.Field

/-!
# Which messages contain a type

A message contains a type if one of its fields refers to it by name.  A map field refers to its entry and to
whatever the entry's value refers to.  References are compared as names, so the type need not be registered.

An entry whose value leads back to the entry makes the search circle.  A search that passes through more
entries than there are messages has met one of them twice and never ends; it has no answer.
-/

namespace CustomResource

open Descriptor

/-- Whether some member passes a test that may have no answer, in order and up to the first that passes. -/
def anyAnswer {α : Type} (test : α → Option Bool) : List α → Option Bool
  | [] => some false
  | first :: rest =>
      match test first with
      | none => none
      | some true => some true
      | some false => anyAnswer test rest

namespace TypeTable

/-- Whether a field refers to a name, passing through at most `depth` map entries. -/
def refersTo? (types : TypeTable) (wanted : QualifiedName) : Nat → Field → Option Bool
  | depth, field =>
      match field.typeName with
      | none => some false
      | some reference =>
          if QualifiedName.ofReference reference = wanted then some true
          else
            match types.message? (QualifiedName.ofReference reference).text with
            | none => some false
            | some entry =>
                if field.cardinality = .repeated ∧ entry.isMapEntry then
                  match depth with
                  | 0 => none
                  | depth + 1 =>
                      anyAnswer (types.refersTo? wanted depth)
                        (entry.entry.fields.filter (·.number.getD 0 == 2))
                else some false

/-- Whether a message contains a type; no answer if the search circles. -/
def contains? (types : TypeTable) (wanted : QualifiedName) (message : MessageType) : Option Bool :=
  anyAnswer (types.refersTo? wanted types.messages.size) message.entry.fields

/-- The full names of the messages that contain a type, in order; no answer if a search circles. -/
def messagesContaining? (types : TypeTable) (reference : String) : Option (List String) := do
  let wanted := QualifiedName.ofReference reference
  let kept ← types.listedMessages.filterM (types.contains? wanted)
  return kept.map (·.fullName)

end TypeTable

end CustomResource
