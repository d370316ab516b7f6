import GraphQLInput.Proofs.Reading
/-!
# The variables of a literal

Which variables stand in a literal, at any depth. Where no type says how to read a literal, nothing
but the values of its own variables can show in what it is read as.
-/
namespace GraphQLInput

namespace Literal

mutual

/-- The variables in the literal. -/
def references : Literal → List String
  | .reference x => [x]
  | .list items => itemReferences items
  | .object fields => fieldReferences fields
  | _ => []

def itemReferences : List Literal → List String
  | [] => []
  | l :: ls => l.references ++ itemReferences ls

def fieldReferences : List (String × Literal) → List String
  | [] => []
  | (_, l) :: fs => l.references ++ fieldReferences fs

end

theorem references_list (items : List Literal) :
    (list items).references = items.flatMap references := by
  rw [references]
  induction items with
  | nil => rfl
  | cons l ls ih => rw [itemReferences, ih, List.flatMap_cons]

theorem references_object (fields : List (String × Literal)) :
    (object fields).references = fields.flatMap fun f => f.2.references := by
  rw [references]
  induction fields with
  | nil => rfl
  | cons f fs ih => rw [fieldReferences, ih, List.flatMap_cons]

theorem mem_references_of_item {l : Literal} {items : List Literal} {x : String} (hl : l ∈ items)
    (hx : x ∈ l.references) : x ∈ (list items).references := by
  rw [references_list]
  exact List.mem_flatMap.2 ⟨l, hl, hx⟩

theorem mem_references_of_field {n : String} {l : Literal} {fields : List (String × Literal)}
    {x : String} (hl : (n, l) ∈ fields) (hx : x ∈ l.references) :
    x ∈ (object fields).references := by
  rw [references_object]
  exact List.mem_flatMap.2 ⟨(n, l), hl, hx⟩

theorem references_item_eq_nil {l : Literal} {items : List Literal}
    (h : (list items).references = []) (hl : l ∈ items) : l.references = [] := by
  rw [references_list, List.flatMap_eq_nil_iff] at h
  exact h l hl

theorem references_field_eq_nil {n : String} {l : Literal} {fields : List (String × Literal)}
    (h : (object fields).references = []) (hl : (n, l) ∈ fields) : l.references = [] := by
  rw [references_object, List.flatMap_eq_nil_iff] at h
  exact h (n, l) hl

/-- A literal without variables is none itself. -/
theorem referent?_of_closed {l : Literal} (h : l.references = []) : l.referent? = none := by
  cases l with
  | reference x => cases h
  | _ => rfl

variable {value? value?' : String → Option Value}

theorem isUnbound_of_closed {l : Literal} (h : l.references = []) :
    l.isUnbound value? = false := by
  rw [isUnbound, referent?_of_closed h, Option.any_none]

theorem isUnbound_congr {l : Literal} (h : ∀ x ∈ l.references, value? x = value?' x) :
    l.isUnbound value? = l.isUnbound value?' := by
  cases l with
  | reference x =>
      rw [isUnbound, isUnbound, referent?, Option.any_some, Option.any_some,
        h x (List.mem_singleton_self x)]
  | _ => rfl

/-- Without a type, variables that the literal does not have play no part. -/
theorem untyped_congr {l : Literal} (h : ∀ x ∈ l.references, value? x = value?' x) :
    l.untyped value? = l.untyped value?' := by
  induction l with
  | reference x => exact h x (List.mem_singleton_self x)
  | list items ih =>
      rw [untyped_list, untyped_list]
      congr 1
      apply mapM_congr
      intro l hl
      have hl' : ∀ x ∈ l.references, value? x = value?' x :=
        fun x hx => h x (mem_references_of_item hl hx)
      rw [untypedItem, untypedItem, isUnbound_congr hl', ih l hl hl']
  | object fields ih =>
      have hfields : ∀ e ∈ fields, ∀ x ∈ e.2.references, value? x = value?' x :=
        fun e he x hx => h x (mem_references_of_field he hx)
      have hbound : fields.filter (fun e => !e.2.isUnbound value?) =
          fields.filter fun e => !e.2.isUnbound value?' :=
        List.filter_congr fun e he => by rw [isUnbound_congr (hfields e he)]
      rw [untyped_object, untyped_object, hbound]
      congr 1
      apply mapM_congr
      intro e he
      have hm : e ∈ fields := List.mem_of_mem_filter he
      rw [untypedField, untypedField, ih e.1 e.2 hm (hfields e hm)]
  | _ => rfl

end Literal

end GraphQLInput
