import CustomResource.Default.Document

/-!
# Documents in JSON

The members of an object stand on lines of their own, indented by two.
-/

namespace CustomResource

/-- A character inside a JSON string. -/
def jsonChar (char : Char) : List Char :=
  match char with
  | '"' => ['\\', '"']
  | '\\' => ['\\', '\\']
  | '\n' => ['\\', 'n']
  | '\r' => ['\\', 'r']
  | '\t' => ['\\', 't']
  | '\x08' => ['\\', 'b']
  | '\x0c' => ['\\', 'f']
  | _ =>
      if char.toNat < 0x20 then
        ['\\', 'u', '0', '0', Nat.digitChar (char.toNat / 16), Nat.digitChar (char.toNat % 16)]
      else [char]

/-- A JSON string. -/
def jsonString (text : String) : String :=
  "\"" ++ String.ofList (text.toList.flatMap jsonChar) ++ "\""

/-- A value in JSON. -/
def DefaultValue.json : DefaultValue → String
  | .null => "null"
  | .truth value => if value then "true" else "false"
  | .integer value => toString value
  | .decimal digits => digits
  | .text content => jsonString content
  | .emptyList => "[]"
  | .emptyMap => "\x7b\x7d"

/-- A document in JSON, its members on lines of their own. -/
def DefaultDocument.json : DefaultDocument → String
  | .value single => single.json ++ "\n"
  | .object [] => DefaultValue.emptyMap.json ++ "\n"
  | .object members =>
      let lines := members.map fun member => "  " ++ jsonString member.1 ++ ": " ++ member.2.json
      "\x7b\n" ++ ",\n".intercalate lines ++ "\n\x7d\n"

end CustomResource
