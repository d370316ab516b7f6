import GraphQLInput.Proofs.Reading
import Mathlib.Logic.Relation
/-!
# Rewriting object literals

Objects in a literal may be rewritten in place, at any depth and any number of times, where they
stand for an input object. Inside a custom scalar nothing says which fields are declared, and there
nothing is rewritten. The whole is read as before where no rewriting changes what a declared field
receives.
-/
namespace GraphQLInput

/-- A way to rewrite the fields of an object, given those that are declared. -/
abbrev FieldRule :=
  Table InputSpec → List (String × Literal) → List (String × Literal) → Prop

/-- The rule changes nothing in what declared fields receive. -/
def FieldRule.Preserves (R : FieldRule) (scope : Scope) : Prop :=
  ∀ name declared, scope.schema.inputFields? name = some declared →
    ∀ fields fields', R declared fields fields' → ∀ n spec, declared.get? n = some spec →
      Literal.received scope fields n spec = Literal.received scope fields' n spec

namespace Literal

/-- One object in the literal, standing for an input object, is rewritten. -/
inductive Step (S : Schema) (R : FieldRule) : TypeRef → Literal → Literal → Prop
  | rule {τ : TypeRef} {declared : Table InputSpec} {fields fields' : List (String × Literal)} :
      S.inputFields? τ.base = some declared → R declared fields fields' →
      Step S R τ (.object fields) (.object fields')
  | item {item : TypeRef} {a : Bool} {l l' : Literal} (before after : List Literal) :
      Step S R item l l' →
      Step S R (.list item a) (.list (before ++ l :: after)) (.list (before ++ l' :: after))
  | field {τ : TypeRef} {declared : Table InputSpec} {n : String} {spec : InputSpec}
      {l l' : Literal} (before after : List (String × Literal)) :
      S.inputFields? τ.base = some declared → declared.get? n = some spec →
      Step S R spec.type l l' →
      Step S R τ (.object (before ++ (n, l) :: after)) (.object (before ++ (n, l') :: after))

/-- Objects in the literal are rewritten one after the other. -/
def Rewrites (S : Schema) (R : FieldRule) (τ : TypeRef) : Literal → Literal → Prop :=
  Relation.ReflTransGen (Step S R τ)

variable {scope : Scope} {R : FieldRule}

private theorem Step.isUnbound_eq {S : Schema} {τ : TypeRef} {l l' : Literal} (h : Step S R τ l l')
    (value? : String → Option Value) : l.isUnbound value? = l'.isUnbound value? := by
  cases h <;> rfl

/-- A field receives the same when a value that counts is replaced by one that is read alike. -/
private theorem received_replace {before after : List (String × Literal)} {n m : String}
    {l l' : Literal} {spec : InputSpec}
    (hunbound : l.isUnbound scope.value? = l'.isUnbound scope.value?)
    (hread : m = n → l.readIn scope spec.type = l'.readIn scope spec.type) :
    received scope (before ++ (n, l) :: after) m spec =
      received scope (before ++ (n, l') :: after) m spec := by
  rw [received, received, given?, given?, List.lookup_append, List.lookup_append,
    Entries.lookup_cons, Entries.lookup_cons]
  by_cases hm : m = n
  · rw [if_pos hm, if_pos hm]
    -- behind another field of its name the value does not count
    cases before.lookup m with
    | some k => rfl
    | none =>
        rw [Option.none_or, Option.none_or, Option.filter_some, Option.filter_some, hunbound]
        split
        · rw [Option.map_some, Option.map_some, hread hm]
        · rfl
  · rw [if_neg hm, if_neg hm]

private theorem Step.readIn_eq (hR : R.Preserves scope) {τ : TypeRef} {l l' : Literal}
    (h : Step scope.schema R τ l l') : l.readIn scope τ = l'.readIn scope τ := by
  induction h with
  | @rule τ declared fields fields' hf hrule =>
      rw [readIn_object scope fields hf, readIn_object scope fields' hf]
      congr 1
      apply InputSpec.collect_congr
      intro n spec hmem
      exact hR τ.base declared hf fields fields' hrule n spec (Table.get?_eq_some_iff.2 hmem)
  | @item item a l l' before after h ih =>
      have hitem : readItem scope item l = readItem scope item l' := by
        rw [readItem, readItem, h.isUnbound_eq, ih]
      rw [readIn_list, readIn_list, List.mapM_append, List.mapM_append, List.mapM_cons,
        List.mapM_cons, hitem]
  | @field τ declared n spec l l' before after hf hn h ih =>
      rw [readIn_object scope _ hf, readIn_object scope _ hf]
      congr 1
      apply InputSpec.collect_congr
      intro m spec' hmem
      apply received_replace (h.isUnbound_eq _)
      rintro rfl
      have hspec : some spec' = some spec := (Table.get?_eq_some_iff.2 hmem).symm.trans hn
      cases hspec
      exact ih

/-- Rewriting does not show in what a literal is read as. -/
theorem Rewrites.readIn_eq (hR : R.Preserves scope) {τ : TypeRef} {l l' : Literal}
    (h : Rewrites scope.schema R τ l l') : l.readIn scope τ = l'.readIn scope τ := by
  induction h with
  | refl => rfl
  | tail _ hstep ih => exact ih.trans (hstep.readIn_eq hR)

end Literal

end GraphQLInput
