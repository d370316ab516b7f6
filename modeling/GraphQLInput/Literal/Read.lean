import GraphQLInput.Schema
/-!
# Reading literals

The value of a literal at a type, if it is valid there. A variable stands for its value as it is:
that its declared type suits the place was checked before. A variable without a value is invalid by
itself, null in a list, and as good as a field left out in an object.
-/
namespace GraphQLInput

/-- What a literal is read against besides its type. The default of a field that is left out may
be invalid itself, and is nothing then. -/
structure Scope where
  schema : Schema
  value? : String → Option Value
  default? : InputSpec → Option Value

/-- Whether the literal is a variable without a value. -/
def Literal.isUnbound (value? : String → Option Value) (l : Literal) : Bool :=
  l.referent?.any fun x => (value? x).isNone

/-- The number of an integer literal within 64 bits with a sign. -/
def Literal.wholeNumber? (text : String) : Option WholeNumber :=
  ((integer? text).filter (· < 0x8000000000000000)).bind WholeNumber.ofInt?

mutual

/-- The value of a literal where no type says how to read it, as at a custom scalar. Integers
beyond 64 bits become floating point numbers. -/
def Literal.untyped (value? : String → Option Value) : Literal → Option Value
  | .null => some .null
  | .reference x => value? x
  | .enum name => some (.string name)
  | .string s => some (.string s)
  | .boolean b => some (.bool b)
  | .int text =>
    match Literal.wholeNumber? text with
    | some n => some (.int n)
    | none => (Binary64.read? text).map .float
  | .float text => (Binary64.read? text).map .float
  | .list items => (Literal.untypedItems value? items).map .list
  | .object fields => (Literal.untypedFields value? fields).map .ofEntries

def Literal.untypedItems (value? : String → Option Value) : List Literal → Option (List Value)
  | [] => some []
  | l :: ls => do
    let v ← if l.isUnbound value? then some .null else l.untyped value?
    let vs ← Literal.untypedItems value? ls
    return v :: vs

def Literal.untypedFields (value? : String → Option Value) :
    List (String × Literal) → Option (List (String × Value))
  | [] => some []
  | (name, l) :: fs =>
    if l.isUnbound value? then Literal.untypedFields value? fs
    else do
      let v ← l.untyped value?
      let vs ← Literal.untypedFields value? fs
      return (name, v) :: vs

end

/-- The value of a literal at a built-in scalar. -/
def Scalar.read? : Scalar → Literal → Option Value
  | .int, .int text => ((Literal.wholeNumber? text).filter (·.fits32)).map .int
  | .float, .int text => (Binary64.read? text).map .float
  | .float, .float text => (Binary64.read? text).map .float
  | .string, .string s => some (.string s)
  | .boolean, .boolean b => some (.bool b)
  | .id, .string s => some (.string s)
  | .id, .int text => some (.string text)
  | _, _ => none

/-- The value of a literal at a scalar or an enum. -/
def Literal.readNamed (scope : Scope) (name : String) (l : Literal) : Option Value :=
  match scope.schema.types.get? name with
  | some .scalar =>
    match Scalar.ofName? name with
    | some s => s.read? l
    | none => l.untyped scope.value?
  | some (.enum values) =>
    match l with
    | .enum value => if values.contains value then some (.string value) else none
    | _ => none
  | _ => none

/-- What a field that is left out receives: nothing where it is required or its default is invalid,
no value where it stays left out. -/
def Scope.absent? (scope : Scope) (spec : InputSpec) : Option (Option Value) :=
  match spec.default? with
  | some _ => (scope.default? spec).map some
  | none => if spec.type.isNonNull then none else some none

/-- The entries of the declared fields that receive a value, nothing when one is refused. -/
def InputSpec.collect (f : String → InputSpec → Option (Option Value)) :
    List (String × InputSpec) → Option (List (String × Value))
  | [] => some []
  | (name, spec) :: rest => do
    let v ← f name spec
    let vs ← InputSpec.collect f rest
    return (v.map (name, ·)).toList ++ vs

mutual

/-- The value of a literal at a type in a scope. -/
def Literal.readIn (scope : Scope) : Literal → TypeRef → Option Value
  | .null, τ => if τ.isNonNull then none else some .null
  | .reference x, τ => (scope.value? x).filter fun v => !(v.isNull && τ.isNonNull)
  | .list items, .list item _ => (Literal.readItems scope items item).map .list
  | .object fields, τ =>
    (match scope.schema.inputFields? τ.base with
    | some declared =>
      (InputSpec.collect (fun name spec =>
        match Literal.readField scope name spec.type fields with
        | some v => v.map some
        | none => scope.absent? spec) declared.entries).map Value.object
    | none => (Literal.object fields).readNamed scope τ.base).map τ.wrap
  | l, τ => (l.readNamed scope τ.base).map τ.wrap

def Literal.readItems (scope : Scope) : List Literal → TypeRef → Option (List Value)
  | [], _ => some []
  | l :: ls, item => do
    let v ← if l.isUnbound scope.value? then (if item.isNonNull then none else some .null)
      else l.readIn scope item
    let vs ← Literal.readItems scope ls item
    return v :: vs

/-- The reading of the first field of the name, if there is one and it has a value. -/
def Literal.readField (scope : Scope) (name : String) (τ : TypeRef) :
    List (String × Literal) → Option (Option Value)
  | [] => none
  | (n, l) :: fs =>
    if n = name then (if l.isUnbound scope.value? then none else some (l.readIn scope τ))
    else Literal.readField scope name τ fs

end

/-- The value of a field's default at a depth of defaults inside defaults. Defaults see no variable. -/
def Schema.defaultAt (schema : Schema) : Nat → InputSpec → Option Value
  | 0, _ => none
  | depth + 1, spec =>
    spec.default?.bind fun l => l.readIn ⟨schema, fun _ => none, schema.defaultAt depth⟩ spec.type

/-- The value of a field's default. Without a cycle of defaults none lies deeper than there are
defaults. -/
def Schema.default? (schema : Schema) (spec : InputSpec) : Option Value :=
  schema.defaultAt schema.defaultCount spec

/-- The scope of some variables. -/
def Schema.scope (schema : Schema) (vars : Option Bindings) : Scope :=
  ⟨schema, fun x => vars.bind (·.get? x), schema.default?⟩

/-- The value of a literal at a type, nothing where it is not valid. -/
def Literal.read (schema : Schema) (vars : Option Bindings) (τ : TypeRef) (l : Literal) :
    Option Value :=
  l.readIn (schema.scope vars) τ

end GraphQLInput
