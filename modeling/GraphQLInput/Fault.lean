import GraphQLInput.Literal
import GraphQLInput.Schema
import GraphQLInput.Value.Json
/-!
# Faults

What can be wrong with the input of an operation: a cause, and where in the documents the fault
lies. Each cause has one kind and one text.
-/
namespace GraphQLInput

/-- A place in the documents that were read, by its number. -/
abbrev Location :=
  Nat

/-- A part of a document, with its place where that is known. -/
structure Located (α : Type) where
  item : α
  location : Option Location

inductive Segment where
  | field (name : String)
  | index (i : Nat)
  deriving DecidableEq

def Segment.text : Segment → String
  | field name => "." ++ name
  | index i => "[" ++ toString i ++ "]"

/-- Where inside a given value something stands, from the root on. -/
abbrev Path :=
  List Segment

namespace Path

def text (path : Path) : String :=
  "value" ++ String.join (path.map Segment.text)

/-- Names the place in a sentence, unless it is the root. -/
def mention (path : Path) : String :=
  if path.isEmpty then "" else " at " ++ text path

end Path

/-- Why a given value does not fit the type of its place. -/
inductive Mismatch where
  | null (type : TypeRef)
  | undefined (type : String)
  | notInput (type : String)
  | outOf32Bits (v : Value)
  | notScalar (expected : Scalar) (v : Value)
  | notEnumValue (enum value : String)
  | notEnumString (enum : String) (v : Value)
  | notObject (type : String)
  | missingField (type : TypeRef)
  | invalidDefault (l : Literal)
  | undeclaredField (name type : String)

inductive Cause where
  | notInputType (x : String) (type : TypeRef)
  | missingVariable (x : String) (type : TypeRef)
  | nullVariable (x : String) (type : TypeRef)
  | invalidVariableDefault (x : String) (l : Literal)
  | mismatch (place : Path) (why : Mismatch)
  | inVariable (x : String) (given : Value) (cause : Cause)
  | tooMany
  | missingArgument (a : String) (type : TypeRef)
  | unboundArgument (a : String) (type : TypeRef) (x : String)
  | nullArgument (a : String) (type : TypeRef)
  | invalidArgument (a : String) (l : Literal)

inductive Kind where
  | notInput
  | missing
  | null
  | invalid
  | tooMany
  deriving DecidableEq

namespace Kind

def all : List Kind :=
  [notInput, missing, null, invalid, tooMany]

def name : Kind → String
  | notInput => "INVALID_INPUT_TYPE"
  | missing => "MISSING_VALUE"
  | null => "NULL_VALUE"
  | invalid => "INVALID_VALUE"
  | tooMany => "TOO_MANY_ERRORS"

def text : Kind → String
  | notInput => "variable type cannot be used as an input type"
  | missing => "required value was not provided"
  | null => "non-null value was null"
  | invalid => "value does not match its declared type"
  | tooMany => "too many errors"

/-- The code in a response when the variables of a request are at fault. -/
def variableCode : Kind → String
  | tooMany => "VALIDATION_TOO_MANY_ERRORS"
  | _ => "VALIDATION_INVALID_TYPE_VARIABLE"

/-- The code in a response when an argument is at fault. -/
def argumentCode : Kind → String
  | missing => "MISSING_REQUIRED_ARGUMENT"
  | null => "MISSING_REQUIRED_ARGUMENT"
  | _ => "GRAPHQL_VALIDATION_FAILED"

end Kind

namespace Text

/-- A name between plain quotes. -/
def named (name : String) : String :=
  "\"" ++ name ++ "\""

end Text

/-- How a built-in scalar refuses the value whose text follows. -/
def Scalar.complaint : Scalar → String
  | .int => "Int cannot represent non-integer value: "
  | .float => "Float cannot represent non numeric value: "
  | .string => "String cannot represent a non string value: "
  | .boolean => "Boolean cannot represent a non boolean value: "
  | .id => "ID cannot represent value: "

open Text in
def Mismatch.message (place : Path) : Mismatch → String
  | .null τ => "Expected non-nullable type " ++ named τ.text ++ " not to be null" ++ place.mention ++ "."
  | .undefined type => "Unknown type " ++ named type ++ place.mention ++ "."
  | .notInput type => "Expected an input type, found " ++ named type ++ place.mention ++ "."
  | .outOf32Bits v =>
    "Expected type " ++ named Scalar.int.name ++ place.mention ++
      "; Int cannot represent non 32-bit signed integer value: " ++ v.json
  | .notScalar expected v =>
    "Expected type " ++ named expected.name ++ place.mention ++ "; " ++ expected.complaint ++ v.json
  | .notEnumValue enum value =>
    "Expected type " ++ named enum ++ place.mention ++ "; value " ++ named value ++
      " does not exist in " ++ named enum ++ " enum."
  | .notEnumString enum v =>
    "Expected type " ++ named enum ++ place.mention ++ "; enum values must be strings, found " ++
      v.json ++ "."
  | .notObject type => "Expected type " ++ named type ++ place.mention ++ " to be an object."
  | .missingField τ =>
    "Field " ++ named place.text ++ " of required type " ++ named τ.text ++ " was not provided."
  | .invalidDefault l => "Field " ++ named place.text ++ " has invalid default value " ++ l.text ++ "."
  | .undeclaredField name type =>
    "Field " ++ named name ++ " is not defined by type " ++ named type ++ place.mention ++ "."

namespace Cause

def kind : Cause → Kind
  | notInputType _ _ => .notInput
  | missingVariable _ _ => .missing
  | nullVariable _ _ => .null
  | invalidVariableDefault _ _ => .invalid
  | mismatch _ _ => .invalid
  | inVariable _ _ cause => cause.kind
  | tooMany => .tooMany
  | missingArgument _ _ => .missing
  | unboundArgument _ _ _ => .missing
  | nullArgument _ _ => .null
  | invalidArgument _ _ => .invalid

open Text in
def message : Cause → String
  | notInputType x τ =>
    "Variable " ++ named ("$" ++ x) ++ " expected value of type " ++ named τ.text ++
      " which cannot be used as an input type."
  | missingVariable x τ =>
    "Variable " ++ named ("$" ++ x) ++ " of required type " ++ named τ.text ++ " was not provided."
  | nullVariable x τ =>
    "Variable " ++ named ("$" ++ x) ++ " of non-null type " ++ named τ.text ++ " must not be null."
  | invalidVariableDefault x l =>
    "Variable " ++ named ("$" ++ x) ++ " has invalid default value " ++ l.text ++ "."
  | mismatch place why => why.message place
  | inVariable x given cause =>
    "Variable " ++ named ("$" ++ x) ++ " got invalid value " ++ given.json ++ "; " ++ cause.message
  | tooMany => "Too many errors processing variables, error limit reached. Execution aborted."
  | missingArgument a τ =>
    "Argument " ++ named a ++ " of required type " ++ named τ.text ++ " was not provided."
  | unboundArgument a τ x =>
    "Argument " ++ named a ++ " of required type " ++ named τ.text ++ " was provided the variable " ++
      named ("$" ++ x) ++ " which was not provided a runtime value."
  | nullArgument a τ =>
    "Argument " ++ named a ++ " of non-null type " ++ named τ.text ++ " must not be null."
  | invalidArgument a l => "Argument " ++ named a ++ " has invalid value " ++ l.text ++ "."

end Cause

structure Fault where
  cause : Cause
  location : Option Location

namespace Fault

def kind (f : Fault) : Kind :=
  f.cause.kind

def message (f : Fault) : String :=
  f.cause.message

/-- The messages of several faults, a line each. -/
def messages (fs : List Fault) : String :=
  String.intercalate "\n" (fs.map message)

end Fault

/-!
## Faults in responses

The JSON text of a fault as an error of a GraphQL response: its message, its line and column where
the document is at hand, and a code.
-/

/-- A line and a column, both counted from one. -/
structure Position where
  line : Nat
  column : Nat

/-- Finds a place in the documents at hand. -/
abbrev Sources :=
  Location → Option Position

namespace Fault

def positionJson (p : Position) : String :=
  Json.object [("line", toString p.line), ("column", toString p.column)]

/-- The error with a code of the caller's. -/
def response (f : Fault) (sources : Sources) (code : String) : String :=
  let locations := match f.location.bind sources with
    | some p => [("locations", Json.array [positionJson p])]
    | none => []
  Json.object ([("message", Json.string f.message)] ++ locations ++
    [("extensions", Json.object [("code", Json.string code)])])

def variableResponse (f : Fault) (sources : Sources) : String :=
  f.response sources f.kind.variableCode

def argumentResponse (f : Fault) (sources : Sources) : String :=
  f.response sources f.kind.argumentCode

end Fault

end GraphQLInput
