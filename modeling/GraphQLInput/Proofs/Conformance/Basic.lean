import GraphQLInput.Proofs.Reading
/-!
# Conformance

When a runtime value is one of a type. Conformance says nothing about how the value came about; the
rules for literals and for given data are compared with it elsewhere. It is kept when a type gives
up some of its non-null marks, which is what a variable is asked for at the place of its use.
-/
namespace GraphQLInput

namespace TypeRef

/-- The type with null allowed at its outermost level. -/
def nullable : TypeRef → TypeRef
  | named name _ => named name false
  | list item _ => list item false

/-- Whether values of the first type can stand where the second is declared: the types differ in
non-null marks only, and the second has no mark that the first lacks. -/
def suits : TypeRef → TypeRef → Bool
  | named n a, named m b => n = m && (a || !b)
  | list σ a, list τ b => σ.suits τ && (a || !b)
  | _, _ => false

theorem isNonNull_of_suits {σ τ : TypeRef} (h : σ.suits τ = true) (hσ : σ.isNonNull = false) :
    τ.isNonNull = false := by
  cases σ <;> cases τ <;> simp_all [suits, isNonNull]

theorem exists_of_named_suits {name : String} {a : Bool} {τ : TypeRef}
    (h : (named name a).suits τ = true) : ∃ b, τ = named name b := by
  cases τ with
  | list item b => cases h
  | named n b =>
      obtain ⟨rfl, -⟩ : name = n ∧ _ := by simpa [suits] using h
      exact ⟨b, rfl⟩

theorem exists_of_list_suits {σ τ : TypeRef} {a : Bool} (h : (list σ a).suits τ = true) :
    ∃ item b, τ = list item b ∧ σ.suits item = true := by
  cases τ with
  | named n b => cases h
  | list item b =>
      rw [suits, Bool.and_eq_true] at h
      exact ⟨item, b, rfl, h.1⟩

theorem wrap_ne_null {v : Value} (hv : v ≠ .null) (τ : TypeRef) : τ.wrap v ≠ .null := by
  cases τ with
  | named name a => exact hv
  | list item a => exact Value.noConfusion

end TypeRef

/-- Whether a value is one of a built-in scalar. -/
def Scalar.holds : Scalar → Value → Bool
  | .int, .int n => n.fits32
  | .float, .float _ => true
  | .string, .string _ => true
  | .boolean, .bool _ => true
  | .id, .string _ => true
  | _, _ => false

theorem Scalar.ne_null_of_holds {s : Scalar} {v : Value} (h : s.holds v = true) : v ≠ .null := by
  rintro rfl
  cases s <;> cases h

/-- Whether an object of the type always has the field, because a default or the caller gives it. -/
def InputSpec.isKept (spec : InputSpec) : Bool :=
  spec.default?.isSome || spec.type.isNonNull

/-- The values of a type. An object has declared fields only, in the order of their declaration,
and leaves out none that has a default or must not be null. -/
inductive Conforms (S : Schema) : Value → TypeRef → Prop
  | null {τ : TypeRef} : τ.isNonNull = false → Conforms S .null τ
  | list {items : List Value} {item : TypeRef} {a : Bool} :
      (∀ v ∈ items, Conforms S v item) → Conforms S (.list items) (.list item a)
  | scalar {name : String} {a : Bool} {s : Scalar} {v : Value} :
      S.types.get? name = some .scalar → Scalar.ofName? name = some s → s.holds v = true →
      Conforms S v (.named name a)
  | custom {name : String} {a : Bool} {v : Value} :
      S.types.get? name = some .scalar → Scalar.ofName? name = none → v ≠ .null →
      Conforms S v (.named name a)
  | enum {name value : String} {a : Bool} {values : List String} :
      S.types.get? name = some (.enum values) → value ∈ values →
      Conforms S (.string value) (.named name a)
  | object {name : String} {a : Bool} {declared : Table InputSpec}
      {entries : List (String × Value)} :
      S.inputFields? name = some declared →
      (entries.map Prod.fst).Sublist declared.keys →
      (∀ n spec, declared.get? n = some spec → spec.isKept = true → n ∈ entries.map Prod.fst) →
      (∀ n v spec, (n, v) ∈ entries → declared.get? n = some spec → Conforms S v spec.type) →
      Conforms S (.object entries) (.named name a)

namespace Conforms

variable {S : Schema}

theorem ne_null {v : Value} {τ : TypeRef} (h : Conforms S v τ) (hτ : τ.isNonNull = true) :
    v ≠ .null := by
  cases h with
  | null hn =>
      rw [hn] at hτ
      cases hτ
  | list => exact Value.noConfusion
  | scalar _ _ hv => exact Scalar.ne_null_of_holds hv
  | custom _ _ hv => exact hv
  | enum => exact Value.noConfusion
  | object => exact Value.noConfusion

theorem null_iff {τ : TypeRef} : Conforms S .null τ ↔ τ.isNonNull = false := by
  constructor
  · intro h
    cases hτ : τ.isNonNull with
    | false => rfl
    | true => exact absurd rfl (h.ne_null hτ)
  · exact .null

/-- What stands for null is a value of the type where null is not refused. -/
theorem of_null {v : Value} {τ : TypeRef}
    (h : (if τ.isNonNull then none else some Value.null) = some v) : Conforms S v τ := by
  cases hn : τ.isNonNull with
  | true => simp [hn] at h
  | false =>
      simp only [hn, Bool.false_eq_true, if_false, Option.some.injEq] at h
      exact h ▸ .null hn

/-- Values stay values of a type that asks for less. -/
theorem of_suits {v : Value} {σ τ : TypeRef} (h : Conforms S v σ) (hs : σ.suits τ = true) :
    Conforms S v τ := by
  induction h generalizing τ with
  | null hn => exact .null (TypeRef.isNonNull_of_suits hs hn)
  | list _ ih =>
      obtain ⟨item, b, rfl, hitem⟩ := TypeRef.exists_of_list_suits hs
      exact .list fun v hv => ih v hv hitem
  | scalar ht hn hv =>
      obtain ⟨b, rfl⟩ := TypeRef.exists_of_named_suits hs
      exact .scalar ht hn hv
  | custom ht hn hv =>
      obtain ⟨b, rfl⟩ := TypeRef.exists_of_named_suits hs
      exact .custom ht hn hv
  | enum ht hv =>
      obtain ⟨b, rfl⟩ := TypeRef.exists_of_named_suits hs
      exact .enum ht hv
  | object hf hk hkept hv =>
      obtain ⟨b, rfl⟩ := TypeRef.exists_of_named_suits hs
      exact .object hf hk hkept hv

/-- Null is all that separates a type from the one that allows it. -/
theorem of_nullable {v : Value} {τ : TypeRef} (h : Conforms S v τ.nullable)
    (hv : (v.isNull && τ.isNonNull) = false) : Conforms S v τ := by
  cases τ with
  | named name a =>
      cases h with
      | null => exact .null (by simpa [Value.isNull] using hv)
      | scalar ht hn hw => exact .scalar ht hn hw
      | custom ht hn hw => exact .custom ht hn hw
      | enum ht hw => exact .enum ht hw
      | object hf hk hkept hw => exact .object hf hk hkept hw
  | list item a =>
      cases h with
      | null => exact .null (by simpa [Value.isNull] using hv)
      | list hw => exact .list hw

/-- A value that is no list stands at a list type for the lists around it. -/
theorem wrap {v : Value} {τ : TypeRef} (h : Conforms S v (.named τ.base true)) :
    Conforms S (τ.wrap v) τ := by
  induction τ with
  | named name a => exact h.of_suits (by simp [TypeRef.suits, TypeRef.base])
  | list item a ih =>
      apply list
      intro w hw
      rw [List.mem_singleton] at hw
      exact hw ▸ ih h

/-- An object whose fields are collected in order is of the type once each field is. -/
theorem of_collect {name : String} {declared : Table InputSpec}
    {f : String → InputSpec → Option (Option Value)} {entries : List (String × Value)}
    (hf : S.inputFields? name = some declared)
    (hc : InputSpec.collect f declared.entries = some entries)
    (hvalue : ∀ n spec v, declared.get? n = some spec → f n spec = some (some v) →
      Conforms S v spec.type)
    (habsent : ∀ n spec, declared.get? n = some spec → f n spec = some none →
      spec.isKept = false) :
    Conforms S (.object entries) (.named name true) := by
  obtain ⟨hall, rfl⟩ := InputSpec.collect_eq_some_iff.1 hc
  refine .object hf (Entries.keys_gather_sublist _) ?_ ?_
  · intro n spec hn hkept
    have hmem : (n, spec) ∈ declared.entries := Table.get?_eq_some_iff.1 hn
    cases hr : f n spec with
    | none => exact absurd hr (hall _ hmem)
    | some r =>
        cases r with
        | none =>
            rw [habsent n spec hn hr] at hkept
            cases hkept
        | some v =>
            have hv : (n, v) ∈ Entries.gather Prod.fst (fun e => (f e.1 e.2).join)
                declared.entries := Entries.mem_gather.2 ⟨(n, spec), hmem, rfl, by rw [hr]; rfl⟩
            exact List.mem_map_of_mem hv
  · intro n v spec hv hn
    obtain ⟨⟨m, spec'⟩, hmem, rfl, hr⟩ := Entries.mem_gather.1 hv
    have hspec : some spec' = some spec := (Table.get?_eq_some_iff.2 hmem).symm.trans hn
    cases hspec
    exact hvalue m spec v hn (Option.join_eq_some_iff.1 hr)

end Conforms

namespace Sample

/-- A schema that has an input type of each kind. -/
def schema : Schema where
  types :=
    ⟨[("Int", .scalar), ("Float", .scalar), ("ID", .scalar), ("Any", .scalar),
      ("Unit", .enum ["KM", "MILE"]),
      ("Place", .inputObject
        ⟨[("id", ⟨.named "ID" true, none⟩), ("at", ⟨.list (.named "Float" true) false, none⟩),
          ("size", ⟨.named "Int" true, some (.int "1")⟩),
          ("unit", ⟨.named "Unit" false, some (.enum "KM")⟩),
          ("near", ⟨.list (.named "Place" true) false, none⟩),
          ("note", ⟨.named "Any" false, none⟩)], by decide⟩)], by decide⟩
  directives := .empty

def one : WholeNumber :=
  ⟨1, by decide, by decide⟩

def seven : WholeNumber :=
  ⟨7, by decide, by decide⟩

end Sample

end GraphQLInput
