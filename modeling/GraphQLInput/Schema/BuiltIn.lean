import GraphQLInput.Schema
/-!
# The built-in definitions

Every schema starts with the scalars, the introspection types and four directives.
-/
namespace GraphQLInput

namespace BuiltIn

/-- An argument that leaves deprecated items out unless asked for. -/
def includeDeprecated : ArgumentSpecs :=
  [("includeDeprecated", ⟨.named "Boolean" false, some (.boolean false)⟩)]

/-- The introspection fields that list what can be deprecated. -/
def listsDeprecated : List String :=
  ["fields", "enumValues", "inputFields", "args"]

def introspectionField (name : String) : String × ArgumentSpecs :=
  (name, if listsDeprecated.contains name then includeDeprecated else [])

def introspection : List (String × List String) :=
  [("__Schema",
      ["description", "types", "queryType", "mutationType", "subscriptionType", "directives"]),
   ("__Type",
      ["kind", "name", "description", "fields", "interfaces", "possibleTypes", "enumValues",
       "inputFields", "ofType", "specifiedByURL"]),
   ("__Field", ["name", "description", "args", "type", "isDeprecated", "deprecationReason"]),
   ("__InputValue",
      ["name", "description", "type", "defaultValue", "isDeprecated", "deprecationReason"]),
   ("__EnumValue", ["name", "description", "isDeprecated", "deprecationReason"]),
   ("__Directive", ["name", "description", "locations", "args", "isRepeatable"])]

def typeKinds : List String :=
  ["SCALAR", "OBJECT", "INTERFACE", "UNION", "ENUM", "INPUT_OBJECT", "LIST", "NON_NULL"]

def directiveLocations : List String :=
  ["QUERY", "MUTATION", "SUBSCRIPTION", "FIELD", "FRAGMENT_DEFINITION", "FRAGMENT_SPREAD",
   "INLINE_FRAGMENT", "VARIABLE_DEFINITION", "SCHEMA", "SCALAR", "OBJECT", "FIELD_DEFINITION",
   "ARGUMENT_DEFINITION", "INTERFACE", "UNION", "ENUM", "ENUM_VALUE", "INPUT_OBJECT",
   "INPUT_FIELD_DEFINITION"]

def types : List (String × TypeDef) :=
  introspection.map (fun (name, fields) =>
      (name, .object (Table.ofList (fields.map introspectionField)))) ++
    [("__TypeKind", .enum typeKinds), ("__DirectiveLocation", .enum directiveLocations)] ++
    Scalar.all.map fun s => (s.name, .scalar)

def directives : List (String × ArgumentSpecs) :=
  [("skip", [("if", ⟨.named "Boolean" true, none⟩)]),
   ("include", [("if", ⟨.named "Boolean" true, none⟩)]),
   ("deprecated", [("reason", ⟨.named "String" false, some (.string "No longer supported")⟩)]),
   ("specifiedBy", [("url", ⟨.named "String" true, none⟩)])]

end BuiltIn

/-- The schema of the built-in definitions alone. -/
def Schema.builtIn : Schema :=
  ⟨Table.ofList BuiltIn.types, Table.ofList BuiltIn.directives⟩

end GraphQLInput
