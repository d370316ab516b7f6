import GraphQLInput.Value
/-!
# Type references

The type that a position declares: a named type below some levels of list, each level nullable or
not. A value that is no list stands at a list type for the list of itself alone.
-/
namespace GraphQLInput

inductive TypeRef where
  | named (name : String) (nonNull : Bool)
  | list (item : TypeRef) (nonNull : Bool)
  deriving DecidableEq

namespace TypeRef

def isNonNull : TypeRef → Bool
  | named _ nonNull => nonNull
  | list _ nonNull => nonNull

/-- The named type below all levels of list. -/
def base : TypeRef → String
  | named name _ => name
  | list item _ => item.base

def text : TypeRef → String
  | named name nonNull => if nonNull then name ++ "!" else name
  | list item nonNull => "[" ++ item.text ++ (if nonNull then "]!" else "]")

/-- Reads a type in the notation of `text`, of which the rest of the characters is returned. -/
def readFrom : Nat → List Char → Option (TypeRef × List Char)
  | 0, _ => none
  | depth + 1, '[' :: cs =>
    match readFrom depth cs with
    | some (item, ']' :: '!' :: rest) => some (list item true, rest)
    | some (item, ']' :: rest) => some (list item false, rest)
    | _ => none
  | _ + 1, cs =>
    let name := cs.takeWhile fun c => c.isAlphanum || c = '_'
    if name.isEmpty then none
    else match cs.drop name.length with
      | '!' :: rest => some (named (String.ofList name) true, rest)
      | rest => some (named (String.ofList name) false, rest)

def read? (text : String) : Option TypeRef :=
  match readFrom (text.length + 1) text.toList with
  | some (τ, []) => some τ
  | _ => none

/-- A list of one item for each level of list around a value of the base type. -/
def wrap : TypeRef → Value → Value
  | named _ _, v => v
  | list item _, v => .list [item.wrap v]

end TypeRef

end GraphQLInput
