import GraphQLInput.Text
import GraphQLInput.Value
/-!
# JSON text

The compact text of a value: no spaces, numbers in the fewest digits, and escapes only where JSON
requires them.
-/
namespace GraphQLInput

namespace Json

/-- Quotes, backslashes and control characters are escaped, with a letter where there is one. -/
def escape (c : Char) : Option String :=
  match c with
  | '"' => some "\\\""
  | '\\' => some "\\\\"
  | '\n' => some "\\n"
  | '\r' => some "\\r"
  | '\t' => some "\\t"
  | '\x08' => some "\\b"
  | '\x0c' => some "\\f"
  | _ => if c.toNat < 0x20 then some ("\\u" ++ Text.hex 4 c.toNat) else none

def string (s : String) : String :=
  Text.quoted escape s

/-- Floating point numbers are positional from `0.00001` to below ten to the sixteenth. -/
def floatLayout : Decimal.Layout :=
  ⟨-5, 15⟩

def float (x : Binary64) : String :=
  x.text floatLayout

def array (items : List String) : String :=
  "[" ++ String.intercalate "," items ++ "]"

/-- An object from names and the texts of their values. -/
def object (entries : List (String × String)) : String :=
  "\x7b" ++ String.intercalate "," (entries.map fun (name, text) => string name ++ ":" ++ text) ++ "\x7d"

end Json

mutual

def Value.json : Value → String
  | .null => "null"
  | .bool b => if b then "true" else "false"
  | .int n => n.text
  | .float x => Json.float x
  | .string s => Json.string s
  | .list items => Json.array (jsonItems items)
  | .object entries => Json.object (jsonEntries entries)

def Value.jsonItems : List Value → List String
  | [] => []
  | v :: vs => v.json :: jsonItems vs

def Value.jsonEntries : List (String × Value) → List (String × String)
  | [] => []
  | (name, v) :: es => (name, v.json) :: jsonEntries es

end

/-- The text of bindings as a JSON object. -/
def Table.json (b : Bindings) : String :=
  (Value.object b.entries).json

end GraphQLInput
