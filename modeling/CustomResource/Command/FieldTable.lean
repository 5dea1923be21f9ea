import CustomResource.Registry.Field

/-!
# Tables of fields

A table has one row a field, its name and its kind in two columns.  A row without a name follows an enum
field and lists the names of the values.  The first column is as wide as the longest name is in bytes, and
names are padded to that many characters.
-/

namespace CustomResource.Command

/-- A row of a table. -/
structure FieldRow where
  name : String
  kind : String
  deriving DecidableEq, Repr

/-- The rows of a field of a kind. -/
def fieldRows (field : MessageField) (kind : Kind) : List FieldRow :=
  let mark := if field.cardinality = .repeated then " (repeated)" else ""
  ⟨field.name, kind.text ++ mark⟩ ::
    match kind with
    | .enum enum =>
        let values := enum.declaration.values.map (·.name.getD "")
        [⟨"", "  [" ++ ", ".intercalate values ++ "]"⟩]
    | _ => []

/-- The rows of a message. -/
def messageRows (types : TypeTable) (message : MessageType) : Except GenerateError (List FieldRow) := do
  let rows ← message.fields.mapM fun field => do return fieldRows field (← field.kind types)
  return rows.flatten

/-- A name with blanks after it up to a number of characters. -/
def padded (width : Nat) (name : String) : String :=
  name ++ String.ofList (List.replicate (width - name.length) ' ')

/-- The lines of a table. -/
def tableText (rows : List FieldRow) : String :=
  let width := (rows.map (·.name.utf8ByteSize)).max?.getD 0
  String.join <| rows.map fun row => padded width row.name ++ "  " ++ row.kind ++ "\n"

end CustomResource.Command
