import GraphQLInput.Proofs.Conformance.Read
import GraphQLInput.Proofs.References
/-!
# Literals in the place of variables

The literal that results when others are written in the place of some variables. It is read as the
same value when each of these variables has, at its own place, the value that its literal is read
as there. Inside custom scalars no place has a type, so that nothing may be replaced there.
-/
namespace GraphQLInput

namespace Literal

mutual

/-- The literal with others in the place of some variables. -/
def inline (f : String → Option Literal) : Literal → Literal
  | .reference x => (f x).getD (.reference x)
  | .list items => .list (inlineItems f items)
  | .object fields => .object (inlineFields f fields)
  | l => l

def inlineItems (f : String → Option Literal) : List Literal → List Literal
  | [] => []
  | l :: ls => l.inline f :: inlineItems f ls

def inlineFields (f : String → Option Literal) : List (String × Literal) → List (String × Literal)
  | [] => []
  | (name, l) :: fs => (name, l.inline f) :: inlineFields f fs

end

theorem inline_list (f : String → Option Literal) (items : List Literal) :
    (list items).inline f = list (items.map (inline f)) := by
  rw [inline]
  congr 1
  induction items with
  | nil => rfl
  | cons l ls ih => rw [inlineItems, ih, List.map_cons]

theorem inline_object (f : String → Option Literal) (fields : List (String × Literal)) :
    (object fields).inline f = object (fields.map fun e => (e.1, e.2.inline f)) := by
  rw [inline]
  congr 1
  induction fields with
  | nil => rfl
  | cons e es ih => rw [inlineFields, ih, List.map_cons]

/-- A literal stays what it is when none of its variables is replaced. -/
private theorem inline_eq_self {f : String → Option Literal} {l : Literal}
    (h : ∀ x ∈ l.references, f x = none) : l.inline f = l := by
  induction l with
  | reference x => rw [inline, h x (List.mem_singleton_self x), Option.getD_none]
  | list items ih =>
      have hitems : items.map (inline f) = items.map id := List.map_congr_left fun l hl =>
        ih l hl fun x hx => h x (mem_references_of_item hl hx)
      rw [inline_list, hitems, List.map_id]
  | object fields ih =>
      have hfields : fields.map (fun e => (e.1, e.2.inline f)) = fields.map id :=
        List.map_congr_left fun e he =>
          congrArg (e.1, ·) (ih e.1 e.2 he fun x hx => h x (mem_references_of_field he hx))
      rw [inline_object, hfields, List.map_id]
  | _ => rfl

end Literal

/-- The literal, at a type, has the variable inside the literal of a custom scalar, where no type
is declared for it. -/
inductive Literal.Buries (S : Schema) : Literal → TypeRef → String → Prop
  | here {l : Literal} {τ : TypeRef} {x : String} :
      l.readsByName S τ = true → S.types.get? τ.base = some .scalar →
      Scalar.ofName? τ.base = none → x ∈ l.references → Buries S l τ x
  | item {l : Literal} {items : List Literal} {item : TypeRef} {a : Bool} {x : String} :
      l ∈ items → Buries S l item x → Buries S (.list items) (.list item a) x
  | field {n : String} {l : Literal} {fields : List (String × Literal)} {τ : TypeRef}
      {declared : Table InputSpec} {spec : InputSpec} {x : String} :
      S.inputFields? τ.base = some declared → (n, l) ∈ fields → declared.get? n = some spec →
      Buries S l spec.type x → Buries S (.object fields) τ x

/-- Literals for the variables that are bound, and for no others. None is a variable itself. -/
structure Inlines (vars : Option Bindings) (f : String → Option Literal) : Prop where
  closed : ∀ x l, f x = some l → l.referent? = none
  bound : ∀ x, (f x).isSome = (vars.bind (·.get? x)).isSome

private theorem Inlines.unbound {vars : Option Bindings} {f : String → Option Literal}
    (h : Inlines vars f) {x : String} (hx : f x = none) : vars.bind (·.get? x) = none := by
  rw [← Option.isNone_iff_eq_none, ← Option.isSome_eq_false_iff, ← h.bound x, hx]
  rfl

private theorem Scalar.read?_inline (s : Scalar) (f : String → Option Literal) {l : Literal}
    (href : l.referent? = none) : s.read? (l.inline f) = s.read? l := by
  cases l with
  | reference x => cases href
  | list items => cases s <;> rfl
  | object fields => cases s <;> rfl
  | _ => rfl

namespace Literal

variable {S : Schema} {vars : Option Bindings} {f : String → Option Literal}

private theorem readsByName_inline {l : Literal} {τ : TypeRef} (h : l.readsByName S τ = true) :
    (l.inline f).readsByName S τ = true := by
  cases l with
  | reference x => cases h
  | list items =>
      cases τ with
      | named name a => rfl
      | list item a => cases h
  | _ => exact h

theorem isUnbound_inline (h : Inlines vars f) (l : Literal) :
    (l.inline f).isUnbound (S.scope none).value? = l.isUnbound (S.scope vars).value? := by
  cases l with
  | reference x =>
      have hbound := h.bound x
      have hscope : (S.scope vars).value? x = vars.bind (·.get? x) := rfl
      rw [inline, isUnbound, isUnbound, referent?, Option.any_some, hscope,
        ← Option.not_isSome, ← hbound]
      cases hx : f x with
      | none => rfl
      | some l =>
          rw [Option.getD_some, h.closed x l hx]
          rfl
  | _ => rfl

private theorem given?_inline (h : Inlines vars f) (fields : List (String × Literal))
    (name : String) :
    given? (S.scope none).value? (fields.map fun e => (e.1, e.2.inline f)) name =
      (given? (S.scope vars).value? fields name).map (inline f) := by
  rw [given?, given?, Entries.lookup_map]
  cases fields.lookup name with
  | none => rfl
  | some l =>
      rw [Option.map_some, Option.filter_some, Option.filter_some, isUnbound_inline h]
      split <;> rfl

private theorem readNamed_inline (h : Inlines vars f) {l : Literal} {τ : TypeRef}
    (hname : l.readsByName S τ = true) (hburied : ∀ x, l.Buries S τ x → f x = none) :
    (l.inline f).readNamed (S.scope none) τ.base = l.readNamed (S.scope vars) τ.base := by
  rcases S.named_cases τ.base with ⟨s, ht, hs⟩ | ⟨ht, hs⟩ | ⟨values, ht⟩ | ⟨hscalar, henum⟩
  · rw [readNamed_scalar ht hs, readNamed_scalar ht hs,
      s.read?_inline f (referent?_of_readsByName hname)]
  · -- nothing is replaced inside a custom scalar, and what stands there is bound nowhere
    have hkept : ∀ x ∈ l.references, f x = none := fun x hx => hburied x (.here hname ht hs hx)
    rw [readNamed_custom ht hs, readNamed_custom ht hs, inline_eq_self hkept]
    exact untyped_congr fun x hx => (h.unbound (hkept x hx)).symm
  · rw [readNamed_enum ht, readNamed_enum ht]
    cases l with
    | reference x => cases hname
    | _ => rfl
  · rw [readNamed_other hscalar henum, readNamed_other hscalar henum]

/-- Reading comes to the same once each variable at a declared type does. -/
theorem read_inline (h : Inlines vars f) (l : Literal) (τ : TypeRef) :
    (∀ x place, l.UsesAt S τ x place →
      ((reference x).inline f).read S none place = (reference x).read S vars place) →
    (∀ x, l.Buries S τ x → f x = none) → (l.inline f).read S none τ = l.read S vars τ := by
  induction l, τ using indAt S with
  | null τ => exact fun _ _ => rfl
  | reference x τ => exact fun huses _ => huses x τ .here
  | list items item a ih =>
      intro huses hburied
      rw [inline_list, read, read, readIn_list, readIn_list]
      congr 1
      apply mapM_eq_of_forall₂
      rw [List.forall₂_map_left_iff, List.forall₂_same]
      intro l hl
      rw [readItem, readItem, isUnbound_inline h]
      split
      · rfl
      · exact ih l hl (fun x place hx => huses x place (.item hl hx))
          fun x hx => hburied x (.item hl hx)
  | object fields τ declared hf ih =>
      intro huses hburied
      rw [inline_object, read, read, readIn_object (S.scope none) _ hf,
        readIn_object (S.scope vars) _ hf]
      congr 1
      apply InputSpec.collect_congr
      intro n spec hn
      rw [← Table.get?_eq_some_iff] at hn
      rw [received, received, given?_inline h]
      cases hg : given? (S.scope vars).value? fields n with
      | none => rfl
      | some l =>
          have hl : (n, l) ∈ fields := mem_of_given? hg
          exact congrArg (Option.map some) (ih n l spec.type hl
            (fun x place hx => huses x place (.field hf hl hn hx))
            fun x hx => hburied x (.field hf hl hn hx))
  | named l τ hname =>
      intro _ hburied
      rw [read, read, readIn_of_readsByName (S.scope none) (readsByName_inline hname),
        readIn_of_readsByName (S.scope vars) hname, readNamed_inline h hname hburied]

end Literal

end GraphQLInput
