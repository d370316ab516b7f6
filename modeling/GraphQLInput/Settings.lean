import GraphQLInput.Value.Json
/-!
# Settings

How many faults of a request's variables are reported. Settings are read from a value that is an
object or a list, and have a schema that describes such objects.
-/
namespace GraphQLInput

structure Settings where
  limit : Option Nat
  deriving DecidableEq

namespace Settings

def default : Settings :=
  ⟨none⟩

def limitField : String :=
  "max_errors"

inductive Invalid where
  | notSettings (v : Value)
  | notLimit (v : Value)
  | negativeLimit (n : WholeNumber)
  | unknownField (name : String)
  | tooManyItems (count : Nat)

/-- What a value is, in the text of a refusal. -/
def describe : Value → String
  | .null => "null"
  | .bool b => "boolean \x60" ++ (Value.bool b).json ++ "\x60"
  | .int n => "integer \x60" ++ n.text ++ "\x60"
  | .float x => "floating point \x60" ++ Json.float x ++ "\x60"
  | .string s => "string " ++ Text.quotedVisibly s
  | .list _ => "sequence"
  | .object _ => "map"

def Invalid.message : Invalid → String
  | notSettings v => "invalid type: " ++ describe v ++ ", expected struct Configuration"
  | notLimit v => "invalid type: " ++ describe v ++ ", expected usize"
  | negativeLimit n => "invalid value: " ++ describe (.int n) ++ ", expected usize"
  | unknownField name =>
    "unknown field \x60" ++ name ++ "\x60, expected \x60" ++ limitField ++ "\x60"
  | tooManyItems count =>
    "invalid length " ++ toString count ++ ", expected fewer elements in array"

def readLimit : Value → Except Invalid (Option Nat)
  | .null => .ok none
  | .int n => if n.val < 0 then .error (.negativeLimit n) else .ok (some n.val.toNat)
  | v => .error (.notLimit v)

/-- Reads the fields in order, the first problem first. -/
def readFields : List (String × Value) → Settings → Except Invalid Settings
  | [], settings => .ok settings
  | (name, v) :: fields, settings =>
    if name = limitField then do
      let limit ← readLimit v
      readFields fields { settings with limit }
    else .error (.unknownField name)

def read : Value → Except Invalid Settings
  | .object fields => readFields fields default
  | .list [] => .ok default
  | .list (v :: vs) => do
    let limit ← readLimit v
    if vs.isEmpty then .ok ⟨limit⟩ else .error (.tooManyItems (vs.length + 1))
  | v => .error (.notSettings v)

def json (s : Settings) : String :=
  Json.object [(limitField, match s.limit with
    | some n => toString n
    | none => "null")]

/-- The schema of settings written as an object. -/
def schema : Value :=
  .object
    [("$schema", .string ("http:" ++ "//json-schema.org/draft-07/schema#")),
     ("title", .string "Configuration"),
     ("description", .string ("Configuration for value coercion\n\nExample, embedded in a larger " ++
       "YAML configuration:\n\n\x60\x60\x60yaml coercion: max_errors: 50 \x60\x60\x60")),
     ("type", .string "object"),
     ("properties", .object [(limitField, .object
       [("description", .string ("Stop coercing request variables after this many errors. When " ++
          "reached, a final error reports that the limit was hit. Unlimited by default.")),
        ("default", .null),
        ("type", .list [.string "integer", .string "null"]),
        ("format", .string "uint"),
        ("minimum", .float (.zero false))])]),
     ("additionalProperties", .bool false)]

end Settings

end GraphQLInput
