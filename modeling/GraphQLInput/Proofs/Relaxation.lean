import GraphQLInput.Proofs.Checking
import GraphQLInput.Proofs.Conformance.Basic
/-!
# Types that ask for less

What is valid at a type, a literal or given data, is valid at every type that differs from it in
missing non-null marks only, and has the same value there. A mark refuses values; it never chooses
between them.
-/
namespace GraphQLInput

namespace TypeRef

variable {σ τ : TypeRef}

private theorem base_of_suits (h : σ.suits τ = true) : τ.base = σ.base := by
  induction σ generalizing τ with
  | named name a =>
      obtain ⟨b, rfl⟩ := exists_of_named_suits h
      rfl
  | list item a ih =>
      obtain ⟨item', b, rfl, hitem⟩ := exists_of_list_suits h
      rw [base, base, ih hitem]

private theorem wrap_of_suits (h : σ.suits τ = true) : τ.wrap = σ.wrap := by
  induction σ generalizing τ with
  | named name a =>
      obtain ⟨b, rfl⟩ := exists_of_named_suits h
      rfl
  | list item a ih =>
      obtain ⟨item', b, rfl, hitem⟩ := exists_of_list_suits h
      funext v
      rw [wrap, wrap, ih hitem]

/-- What stands for null is refused no sooner. -/
private theorem null_of_suits {v : Value} (h : σ.suits τ = true)
    (hv : (if σ.isNonNull then none else some Value.null) = some v) :
    (if τ.isNonNull then none else some Value.null) = some v := by
  cases hn : σ.isNonNull with
  | true => simp [hn] at hv
  | false =>
      rw [hn] at hv
      rw [isNonNull_of_suits h hn]
      exact hv

end TypeRef

namespace Literal

variable {scope : Scope} {σ τ : TypeRef}

private theorem readsByName_of_suits {S : Schema} {l : Literal} (h : σ.suits τ = true)
    (hname : l.readsByName S σ = true) : l.readsByName S τ = true := by
  cases l with
  | null => cases hname
  | reference x => cases hname
  | list items =>
      cases σ with
      | named name a =>
          obtain ⟨b, rfl⟩ := TypeRef.exists_of_named_suits h
          rfl
      | list item a => cases hname
  | object fields =>
      rw [readsByName] at hname ⊢
      rwa [TypeRef.base_of_suits h]
  | _ => rfl

private theorem readItem_of_suits {l : Literal} {v : Value} (h : σ.suits τ = true)
    (hl : l.readIn scope σ = some v → l.readIn scope τ = some v)
    (hv : readItem scope σ l = some v) : readItem scope τ l = some v := by
  rw [readItem] at hv ⊢
  split at hv
  · rename_i hunbound
    rw [if_pos hunbound]
    exact TypeRef.null_of_suits h hv
  · rename_i hbound
    rw [if_neg hbound]
    exact hl hv

/-- A literal has the same value where less is asked for. -/
theorem readIn_of_suits (l : Literal) (σ : TypeRef) :
    ∀ τ v, σ.suits τ = true → l.readIn scope σ = some v → l.readIn scope τ = some v := by
  induction l, σ using indAt scope.schema with
  | null σ =>
      intro τ v hs h
      rw [readIn] at h ⊢
      exact TypeRef.null_of_suits hs h
  | reference x σ =>
      intro τ v hs h
      rw [readIn, Option.filter_eq_some_iff, Bool.not_eq_true', Bool.and_eq_false_iff] at h ⊢
      exact h.imp_right fun hv => hv.imp_right (TypeRef.isNonNull_of_suits hs)
  | list items item a ih =>
      intro τ v hs h
      obtain ⟨item', b, rfl, hitem⟩ := TypeRef.exists_of_list_suits hs
      rw [readIn_list, Option.map_eq_some_iff] at h ⊢
      obtain ⟨vs, hvs, rfl⟩ := h
      refine ⟨vs, mapM_eq_some_iff.2 ?_, rfl⟩
      apply forall₂_imp_of_mem (mapM_eq_some_iff.1 hvs)
      intro l hl w hw
      exact readItem_of_suits hitem (ih l hl item' w hitem) hw
  | object fields σ declared hf _ =>
      intro τ v hs h
      rw [readIn_object scope fields hf] at h
      rwa [readIn_object scope fields ((TypeRef.base_of_suits hs).symm ▸ hf),
        TypeRef.wrap_of_suits hs]
  | named l σ hname =>
      intro τ v hs h
      rw [readIn_of_readsByName scope hname] at h
      rwa [readIn_of_readsByName scope (readsByName_of_suits hs hname), TypeRef.base_of_suits hs,
        TypeRef.wrap_of_suits hs]

end Literal

namespace Value

variable {S : Schema} {σ τ : TypeRef}

private theorem checksByName_of_suits {v : Value} (h : σ.suits τ = true)
    (hname : v.checksByName S σ = true) : v.checksByName S τ = true := by
  cases v with
  | null => cases hname
  | list items =>
      cases σ with
      | named name a =>
          obtain ⟨b, rfl⟩ := TypeRef.exists_of_named_suits h
          rfl
      | list item a => cases hname
  | object entries =>
      rw [checksByName] at hname ⊢
      rwa [TypeRef.base_of_suits h]
  | _ => rfl

/-- Data is accepted as the same value where less is asked for. -/
theorem accept?_of_suits (v : Value) (σ : TypeRef) :
    ∀ τ w, σ.suits τ = true → v.accept? S σ = some w → v.accept? S τ = some w := by
  induction v, σ using indAt S with
  | null σ =>
      intro τ w hs h
      rw [accept?_null] at h ⊢
      exact TypeRef.null_of_suits hs h
  | list items item a ih =>
      intro τ w hs h
      obtain ⟨item', b, rfl, hitem⟩ := TypeRef.exists_of_list_suits hs
      rw [accept?_list, Option.map_eq_some_iff] at h ⊢
      obtain ⟨ws, hws, rfl⟩ := h
      have hitems : List.Forall₂ (fun v w => v.accept? S item' = some w) items ws := by
        apply forall₂_imp_of_mem (mapM_eq_some_iff.1 hws)
        intro v hv w hw
        exact ih v hv item' w hitem hw
      exact ⟨ws, mapM_eq_some_iff.2 hitems, rfl⟩
  | object entries σ declared hf _ =>
      intro τ w hs h
      have hbase : S.inputFields? τ.base = some declared := by rwa [TypeRef.base_of_suits hs]
      rw [accept?_object S entries hf] at h
      rwa [accept?_object S entries hbase, TypeRef.wrap_of_suits hs]
  | named v σ hname =>
      intro τ w hs h
      have hname' : v.checksByName S τ = true := checksByName_of_suits hs hname
      rw [accept?_of_checksByName hname] at h
      rwa [accept?_of_checksByName hname', TypeRef.base_of_suits hs, TypeRef.wrap_of_suits hs]

end Value

namespace Sample

def strictPlaces : TypeRef :=
  .list (.named "Place" true) true

def laxPlaces : TypeRef :=
  .list (.named "Place" false) false

/-- A place near another one. -/
def neighbour : Value :=
  .object [("id", .int seven), ("near", .list [.object [("id", .string "B")]])]

def neighbourLiteral : Literal :=
  .object [("near", .object [("id", .reference "other")]), ("id", .int "7")]

def other : Bindings :=
  ⟨[("other", .string "B")], by decide⟩

def neighbours : Value :=
  .list [.object [("id", .string "7"), ("size", .int one), ("unit", .string "KM"),
    ("near", .list [.object [("id", .string "B"), ("size", .int one), ("unit", .string "KM")]])]]

end Sample

namespace TypeRef

/-- Whatever is accepted at a type is accepted as the same value at a type without some of its
non-null marks. -/
theorem accepted_of_suits (S : Schema) {σ τ : TypeRef} (h : σ.suits τ = true) :
    (∀ (location : Option Location) (v w : Value),
      v.check S σ location = .ok w → v.check S τ location = .ok w) ∧
      ∀ (vars : Option Bindings) (l : Literal) (v : Value),
        l.read S vars σ = some v → l.read S vars τ = some v := by
  constructor
  · intro location v w hw
    rw [Value.check_eq_ok_iff] at hw ⊢
    exact Value.accept?_of_suits v σ τ w h hw
  · intro vars l v hv
    exact Literal.readIn_of_suits l σ τ v h hv

theorem accepted_of_suits_sample :
    Sample.strictPlaces.suits Sample.laxPlaces = true ∧
      Sample.neighbour.check Sample.schema Sample.strictPlaces none = .ok Sample.neighbours ∧
      Sample.neighbour.check Sample.schema Sample.laxPlaces none = .ok Sample.neighbours ∧
      Sample.neighbourLiteral.read Sample.schema (some Sample.other) Sample.strictPlaces =
        some Sample.neighbours ∧
      Sample.neighbourLiteral.read Sample.schema (some Sample.other) Sample.laxPlaces =
        some Sample.neighbours :=
  have h : Sample.strictPlaces.suits Sample.laxPlaces = true := by decide
  ⟨h, rfl, (accepted_of_suits Sample.schema h).1 none _ _ rfl, rfl,
    (accepted_of_suits Sample.schema h).2 (some Sample.other) _ _ rfl⟩

end TypeRef

end GraphQLInput
