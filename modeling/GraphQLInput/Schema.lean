import GraphQLInput.Literal
import GraphQLInput.TypeRef
/-!
# Schemas

The definitions that input is read against: types by name, and what the arguments of fields and
directives declare. The five built-in scalars have rules of their own, but only where a schema
defines their name as a scalar.
-/
namespace GraphQLInput

/-- What an argument or a field of an input object declares. -/
structure InputSpec where
  type : TypeRef
  default? : Option Literal

/-- Declared arguments, in order. -/
abbrev ArgumentSpecs :=
  List (String × InputSpec)

inductive TypeDef where
  | scalar
  | enum (values : List String)
  | inputObject (fields : Table InputSpec)
  | object (fields : Table ArgumentSpecs)
  | interface (fields : Table ArgumentSpecs)
  | union

namespace TypeDef

def isInput : TypeDef → Bool
  | scalar => true
  | enum _ => true
  | inputObject _ => true
  | object _ => false
  | interface _ => false
  | union => false

/-- The fields that take arguments. -/
def outputFields? : TypeDef → Option (Table ArgumentSpecs)
  | object fields => some fields
  | interface fields => some fields
  | _ => none

def inputFields : TypeDef → List (String × InputSpec)
  | inputObject fields => fields.entries
  | _ => []

end TypeDef

structure Schema where
  types : Table TypeDef
  directives : Table ArgumentSpecs

namespace Schema

/-- The definition of the named type below all levels of list. -/
def typeOf? (schema : Schema) (τ : TypeRef) : Option TypeDef :=
  schema.types.get? τ.base

/-- The definition of the base type where values of it can be given. -/
def inputTypeOf? (schema : Schema) (τ : TypeRef) : Option TypeDef :=
  (schema.typeOf? τ).filter TypeDef.isInput

/-- The declared fields of an input object type. -/
def inputFields? (schema : Schema) (name : String) : Option (Table InputSpec) :=
  match schema.types.get? name with
  | some (.inputObject fields) => some fields
  | _ => none

def fieldArguments? (schema : Schema) (type field : String) : Option ArgumentSpecs :=
  ((schema.types.get? type).bind TypeDef.outputFields?).bind (·.get? field)

/-- How many fields of input objects have a default. -/
def defaultCount (schema : Schema) : Nat :=
  (schema.types.entries.flatMap fun (_, d) => d.inputFields).countP fun (_, f) => f.default?.isSome

/-- A schema without some of its types. -/
def without (schema : Schema) (names : List String) : Schema :=
  { schema with types := names.foldl Table.erase schema.types }

/-- A schema in which the types of these names are defined anew. -/
def define (schema : Schema) (types : List (String × TypeDef))
    (directives : List (String × ArgumentSpecs)) : Schema where
  types := types.foldl (fun t d => t.insert d.1 d.2) schema.types
  directives := directives.foldl (fun t d => t.insert d.1 d.2) schema.directives

end Schema

/-- The scalars that every schema starts with. -/
inductive Scalar where
  | int
  | float
  | string
  | boolean
  | id
  deriving DecidableEq

namespace Scalar

def name : Scalar → String
  | int => "Int"
  | float => "Float"
  | string => "String"
  | boolean => "Boolean"
  | id => "ID"

def all : List Scalar :=
  [int, float, string, boolean, id]

/-- The built-in scalar of a name, nothing for a custom one. -/
def ofName? (name : String) : Option Scalar :=
  all.find? (·.name = name)

@[simp] theorem ofName?_name (s : Scalar) : ofName? s.name = some s := by
  cases s <;> decide

end Scalar

end GraphQLInput
