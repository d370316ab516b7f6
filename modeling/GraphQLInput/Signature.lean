import GraphQLInput.Value.Check
/-!
# Signatures and calls

A signature is what a field or a directive takes, its defaults already read. A call supplies
arguments to it. Arguments are bound in the order of the signature, and the first one at fault ends
the binding.
-/
namespace GraphQLInput

structure Parameter where
  name : String
  type : TypeRef
  default? : Option Value

structure Signature where
  name : String
  parameters : List Parameter

structure Argument where
  name : String
  value : Located Literal

structure Call where
  arguments : List Argument
  location : Option Location

/-- A directive as it is applied somewhere in a document. -/
structure Application where
  name : String
  call : Call

namespace Signature

/-- The value of a declared default. -/
def readDefault (schema : Schema) (primitives : Primitives) (spec : InputSpec) : Option Value :=
  spec.default?.bind (primitives.literal schema none spec.type)

/-- The signature of declared arguments. An invalid default is as good as none. -/
def ofSpecs (schema : Schema) (primitives : Primitives) (name : String) (specs : ArgumentSpecs) :
    Signature :=
  ⟨name, specs.map fun (argument, spec) =>
    ⟨argument, spec.type, readDefault schema primitives spec⟩⟩

/-- The declared defaults that the signature does not keep, by argument. -/
def dropped (schema : Schema) (primitives : Primitives) (specs : ArgumentSpecs) :
    List (String × Literal) :=
  specs.filterMap fun (argument, spec) =>
    match readDefault schema primitives spec with
    | some _ => none
    | none => spec.default?.map (argument, ·)

def parameter? (s : Signature) (name : String) : Option Parameter :=
  s.parameters.find? (·.name = name)

end Signature

/-- The first value that a call supplies for a name. -/
def Call.value? (call : Call) (name : String) : Option (Located Literal) :=
  (call.arguments.find? (·.name = name)).map (·.value)

namespace Parameter

/-- Without a value the default is used, then no entry is made, unless the type requires one. -/
def bindAbsent (p : Parameter) (fault : Fault) : Except Fault (Option Value) :=
  match p.default? with
  | some v => .ok (some v)
  | none => if p.type.isNonNull then .error fault else .ok none

/-- An explicit null is an entry where the type allows it; the default plays no part. -/
def bindNull (p : Parameter) (location : Option Location) : Except Fault (Option Value) :=
  if p.type.isNonNull then .error ⟨.nullArgument p.name p.type, location⟩ else .ok (some .null)

/-- The entry of a parameter, if it gets one. The value of a variable is taken as it is. -/
def bind (schema : Schema) (primitives : Primitives) (vars : Option Bindings) (call : Call)
    (p : Parameter) : Except Fault (Option Value) :=
  match call.value? p.name with
  | none => p.bindAbsent ⟨.missingArgument p.name p.type, call.location⟩
  | some ⟨.reference x, location⟩ =>
    match vars.bind (·.get? x) with
    | none => p.bindAbsent ⟨.unboundArgument p.name p.type x, location <|> call.location⟩
    | some .null => p.bindNull (location <|> call.location)
    | some v => .ok (some v)
  | some ⟨.null, location⟩ => p.bindNull (location <|> call.location)
  | some ⟨l, location⟩ =>
    match primitives.literal schema vars p.type l with
    | some v => .ok (some v)
    | none => .error ⟨.invalidArgument p.name l, location⟩

end Parameter

namespace Signature

/-- Binds the parameters in order, behind what is bound already. -/
def bindAfter (schema : Schema) (primitives : Primitives) (vars : Option Bindings)
    (call : Call) : List Parameter → Bindings → Except Fault Bindings
  | [], bound => .ok bound
  | p :: ps, bound =>
    match p.bind schema primitives vars call with
    | .error f => .error f
    | .ok none => bindAfter schema primitives vars call ps bound
    | .ok (some v) => bindAfter schema primitives vars call ps (bound.insert p.name v)

/-- The values of a call's arguments, or the first fault. -/
def bind (schema : Schema) (primitives : Primitives) (s : Signature) (call : Call)
    (vars : Option Bindings) : Except Fault Bindings :=
  bindAfter schema primitives vars call s.parameters .empty

/-- The first application of the directive that the signature is of. -/
def applied? (s : Signature) (applications : List Application) : Option Call :=
  (applications.find? (·.name = s.name)).map (·.call)

/-- The values of a directive's arguments, nothing where it is not applied. -/
def bindApplied (schema : Schema) (primitives : Primitives) (s : Signature)
    (applications : List Application) (vars : Option Bindings) :
    Except Fault (Option Bindings) :=
  match s.applied? applications with
  | none => .ok none
  | some call => (s.bind schema primitives call vars).map some

end Signature

end GraphQLInput
