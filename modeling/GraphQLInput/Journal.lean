import GraphQLInput.Request
import GraphQLInput.Signature
/-!
# The journal

What is noticed while input is bound, in order: which binding was entered, what was left aside, and
what failed. An event is kept where its level is asked for.
-/
namespace GraphQLInput

inductive Level where
  | warn
  | debug
  | trace
  deriving DecidableEq

namespace Level

def name : Level → String
  | warn => "WARN"
  | debug => "DEBUG"
  | trace => "TRACE"

/-- How much is told from this level on. -/
def verbosity : Level → Nat
  | warn => 0
  | debug => 1
  | trace => 2

end Level

inductive Event where
  | droppedDefault (signature argument : String) (l : Literal)
  | enteredVariables
  | undeclaredVariables (names : List String)
  | failedVariables (count : Nat)
  | enteredArguments (signature : String)
  | failedArgument (f : Fault)

namespace Event

def level : Event → Level
  | droppedDefault _ _ _ => .warn
  | enteredVariables => .trace
  | undeclaredVariables _ => .debug
  | failedVariables _ => .debug
  | enteredArguments _ => .trace
  | failedArgument _ => .debug

def message : Event → String
  | droppedDefault signature argument l =>
    "ignoring invalid default value " ++ l.text ++ " for argument " ++ Text.named argument ++ " of " ++
      Text.named signature
  | enteredVariables => "span coerce_variables"
  | undeclaredVariables names =>
    "Received variable unknown to the query: " ++ Text.listVisibly names
  | failedVariables _ => "request variables could not be coerced"
  | enteredArguments _ => "span coerce_arguments"
  | failedArgument _ => "argument could not be coerced"

/-- Names and texts of what belongs to the event besides its message. -/
def fields : Event → List (String × String)
  | droppedDefault _ _ _ => []
  | enteredVariables => []
  | undeclaredVariables _ => []
  | failedVariables count => [("errors", toString count)]
  | enteredArguments signature => [("definition", signature)]
  | failedArgument f => [("error", f.message)]

end Event

abbrev Journal :=
  List Event

namespace Journal

def ofSpecs (schema : Schema) (primitives : Primitives) (name : String) (specs : ArgumentSpecs) :
    Journal :=
  (Signature.dropped schema primitives specs).map fun (argument, l) => .droppedDefault name argument l

def ofVariables (ds : List VariableDecl) (given : Bindings)
    (outcome : Except (List Fault) Bindings) : Journal :=
  let names := Request.undeclared ds given
  [.enteredVariables] ++ (if names.isEmpty then [] else [.undeclaredVariables names]) ++
    match outcome with
    | .ok _ => []
    | .error fs => [.failedVariables fs.length]

def ofArguments (s : Signature) (outcome : Except Fault Bindings) : Journal :=
  [.enteredArguments s.name] ++
    match outcome with
    | .ok _ => []
    | .error f => [.failedArgument f]

/-- The arguments of a directive are entered only where it is applied. -/
def ofApplied (s : Signature) (outcome : Except Fault (Option Bindings)) : Journal :=
  match outcome with
  | .ok none => []
  | .ok (some b) => ofArguments s (.ok b)
  | .error f => ofArguments s (.error f)

/-- The events of a level and of those that tell less. -/
def upTo (level : Level) (j : Journal) : Journal :=
  j.filter fun e => e.level.verbosity ≤ level.verbosity

end Journal

end GraphQLInput
