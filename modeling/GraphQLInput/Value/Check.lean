import GraphQLInput.Fault
import GraphQLInput.Literal.Read
/-!
# Checking given values

The value of untrusted data at a type, with every fault in it. Checking goes on behind a fault, so
that the faults of one part do not depend on those of another; null stands in for what is faulty.
-/
namespace GraphQLInput

/-- A result, and the faults that were found on the way to it. -/
structure Checked (α : Type) where
  result : α
  faults : List (Path × Mismatch)

namespace Checked

variable {α β γ : Type}

def ok (a : α) : Checked α :=
  ⟨a, []⟩

def map (f : α → β) (c : Checked α) : Checked β :=
  ⟨f c.result, c.faults⟩

/-- Both results, with the faults of the first before those of the second. -/
def both (f : α → β → γ) (a : Checked α) (b : Checked β) : Checked γ :=
  ⟨f a.result b.result, a.faults ++ b.faults⟩

/-- One fault, and a result that stands in for the faulty one. -/
def fault (standIn : α) (place : Path) (why : Mismatch) : Checked α :=
  ⟨standIn, [(place, why)]⟩

@[simp] theorem faults_ok (a : α) : (ok a).faults = [] :=
  rfl

@[simp] theorem faults_map (f : α → β) (c : Checked α) : (c.map f).faults = c.faults :=
  rfl

@[simp] theorem faults_both (f : α → β → γ) (a : Checked α) (b : Checked β) :
    (both f a b).faults = a.faults ++ b.faults :=
  rfl

@[simp] theorem faults_fault (standIn : α) (place : Path) (why : Mismatch) :
    (fault standIn place why).faults = [(place, why)] :=
  rfl

end Checked

/-- The value of given data at a built-in scalar. -/
def Scalar.check : Scalar → Value → Except Mismatch Value
  | .int, .int n => if n.fits32 then .ok (.int n) else .error (.outOf32Bits (.int n))
  | .float, .int n => .ok (.float n.toBinary64)
  | .float, .float x => .ok (.float x)
  | .string, .string s => .ok (.string s)
  | .boolean, .bool b => .ok (.bool b)
  | .id, .string s => .ok (.string s)
  | .id, .int n => .ok (.string n.text)
  | s, v => .error (.notScalar s v)

/-- The value of given data other than null at a named type, objects at input objects apart. -/
def Value.checkNamed (schema : Schema) (name : String) (place : Path) (v : Value) : Checked Value :=
  match schema.types.get? name with
  | some .scalar =>
    match Scalar.ofName? name with
    | some s =>
      match s.check v with
      | .ok w => .ok w
      | .error why => .fault .null place why
    | none => .ok v
  | some (.enum values) =>
    match v with
    | .string s =>
      if values.contains s then .ok v else .fault .null place (.notEnumValue name s)
    | _ => .fault .null place (.notEnumString name v)
  | some (.inputObject _) => .fault .null place (.notObject name)
  | some _ => .fault .null place (.notInput name)
  | none => .fault .null place (.undefined name)

/-- What a field that is left out receives. -/
def InputSpec.checkAbsent (schema : Schema) (place : Path) (spec : InputSpec) :
    Checked (Option Value) :=
  match spec.default? with
  | some l =>
    match schema.default? spec with
    | some v => .ok (some v)
    | none => .fault none place (.invalidDefault l)
  | none => if spec.type.isNonNull then .fault none place (.missingField spec.type) else .ok none

/-- The entries of the declared fields that receive a value. -/
def InputSpec.checkEach (f : String → InputSpec → Checked (Option Value)) :
    List (String × InputSpec) → Checked (List (String × Value))
  | [] => .ok []
  | (name, spec) :: rest =>
    .both (fun v vs => (v.map (name, ·)).toList ++ vs) (f name spec) (InputSpec.checkEach f rest)

/-- A fault for every name that an input object does not declare. -/
def undeclaredFaults (declared : Table InputSpec) (type : String) (place : Path)
    (names : List String) : List (Path × Mismatch) :=
  (names.filter fun name => !declared.contains name).map fun name =>
    (place, .undeclaredField name type)

mutual

/-- The value of given data at a type, at a place inside what was given. -/
def Value.checkAt (schema : Schema) : Value → TypeRef → Path → Checked Value
  | .null, τ, place => if τ.isNonNull then .fault .null place (.null τ) else .ok .null
  | .list items, .list item _, place => (Value.checkItems schema item place 0 items).map .list
  | .object entries, τ, place =>
    (match schema.inputFields? τ.base with
    | some declared =>
      Checked.both (fun fields (_ : Unit) => Value.object fields)
        (InputSpec.checkEach (fun name spec =>
          match Value.checkField schema name spec.type place entries with
          | some c => c.map some
          | none => spec.checkAbsent schema (place ++ [Segment.field name])) declared.entries)
        ⟨(), undeclaredFaults declared τ.base place (entries.map Prod.fst)⟩
    | none => (Value.object entries).checkNamed schema τ.base place).map τ.wrap
  | v, τ, place => (v.checkNamed schema τ.base place).map τ.wrap

def Value.checkItems (schema : Schema) (item : TypeRef) (place : Path) :
    Nat → List Value → Checked (List Value)
  | _, [] => .ok []
  | i, v :: vs =>
    .both (· :: ·) (v.checkAt schema item (place ++ [.index i]))
      (Value.checkItems schema item place (i + 1) vs)

/-- The check of the field of the name, if it is given, in an object at a place. -/
def Value.checkField (schema : Schema) (name : String) (τ : TypeRef) (place : Path) :
    List (String × Value) → Option (Checked Value)
  | [] => none
  | (n, v) :: es =>
    if n = name then some (v.checkAt schema τ (place ++ [.field name]))
    else Value.checkField schema name τ place es

end

/-- The value of given data at a type, or all of its faults, which are placed where the data was
asked for. -/
def Value.check (schema : Schema) (τ : TypeRef) (location : Option Location) (v : Value) :
    Except (List Fault) Value :=
  let checked := v.checkAt schema τ []
  if checked.faults.isEmpty then .ok checked.result
  else .error (checked.faults.map fun (place, why) => ⟨.mismatch place why, location⟩)

/-- How one literal and one given value are read at a type. Variables and arguments are bound by way
of these two functions only, so that the rules for single values can be replaced. -/
structure Primitives where
  /-- The value of a literal with some variables in scope, nothing where it is not valid. -/
  literal : Schema → Option Bindings → TypeRef → Literal → Option Value
  /-- The value of untrusted data, or its faults. -/
  value : Schema → TypeRef → Option Location → Value → Except (List Fault) Value

/-- The rules of the language, with custom scalars that accept anything. -/
def Primitives.standard : Primitives :=
  ⟨Literal.read, Value.check⟩

end GraphQLInput
