import GraphQLInput.Settings
import GraphQLInput.Value.Check
/-!
# The variables of a request

Every declared variable is bound to what the request gives for it, or to its default. Binding goes
on behind a fault, so that all problems of a request are reported together, up to a limit.
-/
namespace GraphQLInput

structure VariableDecl where
  name : String
  type : Located TypeRef
  default? : Option (Located Literal)
  location : Option Location

/-- What one declaration comes to: an entry, faults, or neither where the variable stays unset. -/
structure Contribution where
  entry : Option Value
  faults : List Fault

namespace Contribution

def unset : Contribution :=
  ⟨none, []⟩

def bound (v : Value) : Contribution :=
  ⟨some v, []⟩

def failed (cause : Cause) (location : Option Location) : Contribution :=
  ⟨none, [⟨cause, location⟩]⟩

end Contribution

/-- A fault of the value given for a variable. -/
def Fault.inVariable (f : Fault) (x : String) (given : Value) : Fault :=
  { f with cause := .inVariable x given f.cause }

/-- An explicit null counts as given: it is no reason to use the default. -/
def VariableDecl.bind (schema : Schema) (primitives : Primitives) (given : Bindings)
    (d : VariableDecl) : Contribution :=
  let τ := d.type.item
  if (schema.inputTypeOf? τ).isNone then .failed (.notInputType d.name τ) d.type.location
  else match given.get? d.name, d.default? with
    | none, some l =>
      match primitives.literal schema none τ l.item with
      | some v => .bound v
      | none => .failed (.invalidVariableDefault d.name l.item) l.location
    | none, none =>
      if τ.isNonNull then .failed (.missingVariable d.name τ) d.location else .unset
    | some .null, _ =>
      if τ.isNonNull then .failed (.nullVariable d.name τ) d.location else .bound .null
    | some v, _ =>
      match primitives.value schema τ d.location v with
      | .ok w => .bound w
      | .error fs => ⟨none, fs.map (·.inVariable d.name v)⟩

/-- Adds a fault to those reported so far. One beyond the limit is replaced by the notice that there
are too many, and ends the report. -/
def Fault.report (limit : Option Nat) (reported : List Fault) (f : Fault) :
    Except (List Fault) (List Fault) :=
  if limit.any (· ≤ reported.length) then .error (reported ++ [⟨.tooMany, none⟩])
  else .ok (reported ++ [f])

namespace Request

/-- Binds the declarations in order, behind what is bound and reported already. -/
def bindAfter (schema : Schema) (primitives : Primitives) (limit : Option Nat) (given : Bindings) :
    List VariableDecl → Bindings → List Fault → Bindings × List Fault
  | [], bound, reported => (bound, reported)
  | d :: ds, bound, reported =>
    let c := d.bind schema primitives given
    match c.faults.foldlM (Fault.report limit) reported with
    | .error reported => (bound, reported)
    | .ok reported =>
      let bound := match c.entry with
        | some v => bound.insert d.name v
        | none => bound
      bindAfter schema primitives limit given ds bound reported

/-- The values of all declared variables, or every fault. -/
def bind (schema : Schema) (primitives : Primitives) (settings : Settings)
    (ds : List VariableDecl) (given : Bindings) : Except (List Fault) Bindings :=
  let (bound, reported) := bindAfter schema primitives settings.limit given ds .empty []
  if reported.isEmpty then .ok bound else .error reported

/-- The given names that no declaration has. -/
def undeclared (ds : List VariableDecl) (given : Bindings) : List String :=
  given.keys.filter fun name => !(ds.map (·.name)).contains name

end Request

end GraphQLInput
