import GraphQLInput.Proofs.Checking
import GraphQLInput.Proofs.Conformance.Basic
import GraphQLInput.Proofs.Defaults
/-!
# The data that a type accepts

Which untrusted data is valid at a type, said without reference to how it is checked. Checking
accepts just this data, and tells at least one fault of any other.
-/
namespace GraphQLInput

/-- The data that a built-in scalar takes. -/
inductive Scalar.Takes : Scalar → Value → Prop
  | int {n : WholeNumber} : -0x80000000 ≤ n.val → n.val ≤ 0x7FFFFFFF → Takes .int (.int n)
  | whole {n : WholeNumber} : Takes .float (.int n)
  | float {x : Binary64} : Takes .float (.float x)
  | string {s : String} : Takes .string (.string s)
  | boolean {b : Bool} : Takes .boolean (.bool b)
  | name {s : String} : Takes .id (.string s)
  | number {n : WholeNumber} : Takes .id (.int n)

/-- The fields that an object may leave out: those with a valid default, and those without a
default that may be null. -/
inductive InputSpec.Omittable (S : Schema) (spec : InputSpec) : Prop
  | default {l : Literal} {v : Value} :
      spec.default? = some l → l.read S none spec.type = some v → Omittable S spec
  | unset : spec.default? = none → spec.type.isNonNull = false → Omittable S spec

/-- The data that is valid at a type. -/
inductive Accepts (S : Schema) : Value → TypeRef → Prop
  | null {τ : TypeRef} : τ.isNonNull = false → Accepts S .null τ
  | list {items : List Value} {item : TypeRef} {a : Bool} :
      (∀ v ∈ items, Accepts S v item) → Accepts S (.list items) (.list item a)
  | single {v : Value} {item : TypeRef} {a : Bool} :
      v ≠ .null → (∀ items, v ≠ .list items) → Accepts S v item → Accepts S v (.list item a)
  | scalar {name : String} {a : Bool} {s : Scalar} {v : Value} :
      S.types.get? name = some .scalar → Scalar.ofName? name = some s → s.Takes v →
      Accepts S v (.named name a)
  | custom {name : String} {a : Bool} {v : Value} :
      S.types.get? name = some .scalar → Scalar.ofName? name = none → v ≠ .null →
      Accepts S v (.named name a)
  | enum {name value : String} {a : Bool} {values : List String} :
      S.types.get? name = some (.enum values) → value ∈ values →
      Accepts S (.string value) (.named name a)
  | object {name : String} {a : Bool} {declared : Table InputSpec}
      {entries : List (String × Value)} :
      S.inputFields? name = some declared →
      (∀ n ∈ entries.map Prod.fst, n ∈ declared.keys) →
      (∀ n spec v, declared.get? n = some spec → entries.lookup n = some v →
        Accepts S v spec.type) →
      (∀ n spec, declared.get? n = some spec → n ∉ entries.map Prod.fst → spec.Omittable S) →
      Accepts S (.object entries) (.named name a)

theorem WholeNumber.fits32_iff {n : WholeNumber} :
    n.fits32 = true ↔ -0x80000000 ≤ n.val ∧ n.val ≤ 0x7FFFFFFF := by
  simp only [fits32, Bool.and_eq_true, decide_eq_true_eq]
  omega

private theorem Scalar.takes_iff {s : Scalar} {v : Value} :
    s.Takes v ↔ (s.check v).toOption.isSome = true := by
  constructor
  · intro h
    cases h with
    | int hlower hupper =>
        rw [check, if_pos (WholeNumber.fits32_iff.2 ⟨hlower, hupper⟩)]
        rfl
    | _ => rfl
  · intro h
    cases s <;> cases v <;> try cases h
    case int.int n =>
      have hfits : n.fits32 = true := by
        by_contra hn
        rw [check, if_neg hn] at h
        cases h
      obtain ⟨hlower, hupper⟩ := WholeNumber.fits32_iff.1 hfits
      exact .int hlower hupper
    all_goals constructor

theorem isSome_mapM_iff {α β : Type} {f : α → Option β} {xs : List α} :
    (xs.mapM f).isSome = true ↔ ∀ x ∈ xs, (f x).isSome = true := by
  induction xs with
  | nil => simp
  | cons x xs ih =>
      rw [List.forall_mem_cons, ← ih, List.mapM_cons]
      cases f x with
      | none => simp
      | some y => cases xs.mapM f <;> simp

namespace InputSpec

theorem isSome_collect_iff {f : String → InputSpec → Option (Option Value)}
    {es : List (String × InputSpec)} :
    (collect f es).isSome = true ↔ ∀ e ∈ es, (f e.1 e.2).isSome = true := by
  simp only [Option.isSome_iff_exists, collect_eq_some_iff, exists_and_left, exists_eq, and_true,
    ← Option.ne_none_iff_exists']

/-- What the check asks of a field that is left out. -/
private theorem omittable_iff {S : Schema} (hS : S.DefaultsAcyclic) {name n : String}
    {declared : Table InputSpec} {spec : InputSpec} (hf : S.inputFields? name = some declared)
    (hn : declared.get? n = some spec) :
    spec.Omittable S ↔ ((S.scope none).absent? spec).isSome = true := by
  have hdefault : (S.scope none).default? spec = _ := hS.default?_eq hf hn
  rw [Scope.absent?, hdefault]
  cases hd : spec.default? with
  | none =>
      constructor
      · rintro (⟨hl, _⟩ | ⟨_, hnull⟩)
        · cases hd.symm.trans hl
        · simp [hnull]
      · intro h
        exact .unset hd (by simpa using h)
  | some l =>
      constructor
      · rintro (⟨hl, hv⟩ | ⟨hnone, _⟩)
        · cases hd.symm.trans hl
          simp [hv]
        · cases hd.symm.trans hnone
      · intro h
        obtain ⟨v, hv⟩ := Option.isSome_iff_exists.1 (by simpa using h)
        exact .default hd hv

end InputSpec

namespace Accepts

variable {S : Schema}

theorem null_iff {τ : TypeRef} : Accepts S .null τ ↔ τ.isNonNull = false := by
  constructor
  · intro h
    cases h with
    | null hn => exact hn
    | single hv => exact absurd rfl hv
    | scalar _ _ hv => cases hv
    | custom _ _ hv => exact absurd rfl hv
  · exact .null

theorem list_iff {items : List Value} {item : TypeRef} {a : Bool} :
    Accepts S (.list items) (.list item a) ↔ ∀ v ∈ items, Accepts S v item := by
  constructor
  · intro h
    cases h with
    | list hitems => exact hitems
    | single _ hlist => exact absurd rfl (hlist items)
  · exact .list

private theorem of_nonNull {v : Value} {name : String} {a : Bool} (h : Accepts S v (.named name a))
    (hv : v ≠ .null) (b : Bool) : Accepts S v (.named name b) := by
  cases h with
  | null => exact absurd rfl hv
  | scalar ht hs h => exact .scalar ht hs h
  | custom ht hs h => exact .custom ht hs h
  | enum ht h => exact .enum ht h
  | object hf hk hgiven habsent => exact .object hf hk hgiven habsent

/-- Below all levels of list stands the only item of the list that the value is taken for. -/
private theorem base_iff {v : Value} (hv : v ≠ .null) (hlist : ∀ items, v ≠ .list items)
    {τ : TypeRef} :
    Accepts S v τ ↔ Accepts S v (.named τ.base true) := by
  induction τ with
  | named name a => exact ⟨fun h => h.of_nonNull hv true, fun h => h.of_nonNull hv a⟩
  | list item a ih =>
      rw [TypeRef.base, ← ih]
      constructor
      · intro h
        cases h with
        | null => exact absurd rfl hv
        | list => exact absurd rfl (hlist _)
        | single _ _ h => exact h
      · exact .single hv hlist

theorem object_iff {entries : List (String × Value)} {τ : TypeRef} {declared : Table InputSpec}
    (hf : S.inputFields? τ.base = some declared) :
    Accepts S (.object entries) τ ↔
      (∀ n ∈ entries.map Prod.fst, n ∈ declared.keys) ∧
      (∀ n spec v, declared.get? n = some spec → entries.lookup n = some v →
        Accepts S v spec.type) ∧
      ∀ n spec, declared.get? n = some spec → n ∉ entries.map Prod.fst → spec.Omittable S := by
  rw [base_iff Value.noConfusion fun _ => Value.noConfusion]
  have hnamed : ∀ {d : TypeDef}, S.types.get? τ.base = some d →
      (∀ fields, d ≠ .inputObject fields) → False := fun ht hd => by
    cases hf.symm.trans (Schema.inputFields?_eq_none ht hd)
  constructor
  · intro h
    cases h with
    | scalar ht => exact (hnamed ht fun _ => TypeDef.noConfusion).elim
    | custom ht => exact (hnamed ht fun _ => TypeDef.noConfusion).elim
    | object hf' hk hgiven habsent =>
        cases hf.symm.trans hf'
        exact ⟨hk, hgiven, habsent⟩
  · exact fun ⟨hk, hgiven, habsent⟩ => .object hf hk hgiven habsent

end Accepts

namespace Value

variable {S : Schema}

private theorem checksByName_base {v : Value} {τ : TypeRef} (h : v.checksByName S τ = true)
    (a : Bool) :
    v.checksByName S (.named τ.base a) = true := by
  cases v with
  | null => cases h
  | object entries => exact h
  | _ => rfl

/-- Where the name of a type decides, the kind of its definition does. -/
private theorem isSome_checkNamed_iff {v : Value} {name : String} {a : Bool}
    (hname : v.checksByName S (.named name a) = true) :
    (v.checkNamed S name []).value?.isSome = true ↔ Accepts S v (.named name a) := by
  have hv : v ≠ .null := by
    rintro rfl
    cases hname
  have hobject : ∀ {entries declared}, v = .object entries →
      S.inputFields? name ≠ some declared := by
    rintro entries declared rfl hf
    rw [checksByName, TypeRef.base, hf] at hname
    cases hname
  rcases S.named_cases name with ⟨s, ht, hs⟩ | ⟨ht, hs⟩ | ⟨values, ht⟩ | ⟨hscalar, henum⟩
  · rw [value?_checkNamed_scalar ht hs, ← Scalar.takes_iff]
    refine ⟨.scalar ht hs, fun h => ?_⟩
    cases h with
    | null => exact absurd rfl hv
    | scalar _ hs' h =>
        cases hs.symm.trans hs'
        exact h
    | custom _ hs' => cases hs.symm.trans hs'
    | enum ht' => cases ht.symm.trans ht'
    | object hf => exact absurd hf (hobject rfl)
  · rw [value?_checkNamed_custom ht hs]
    exact ⟨fun _ => .custom ht hs hv, fun _ => rfl⟩
  · rw [value?_checkNamed_enum ht]
    constructor
    · intro h
      cases v with
      | string s =>
          by_cases hs : s ∈ values
          · exact .enum ht hs
          · simp [hs] at h
      | _ => cases h
    · intro h
      cases h with
      | null => exact absurd rfl hv
      | enum ht' hvalue =>
          cases ht.symm.trans ht'
          simp [hvalue]
      | scalar ht' => cases ht.symm.trans ht'
      | custom ht' => cases ht.symm.trans ht'
      | object hf => exact absurd hf (hobject rfl)
  · rw [value?_checkNamed_other hscalar henum]
    refine ⟨fun h => Bool.noConfusion h, fun h => ?_⟩
    cases h with
    | null => exact absurd rfl hv
    | scalar ht' => exact absurd ht' hscalar
    | custom ht' => exact absurd ht' hscalar
    | enum ht' => exact absurd ht' (henum _)
    | object hf => exact absurd hf (hobject rfl)

private theorem isSome_acceptReceived_iff (hS : S.DefaultsAcyclic) {name n : String}
    {declared : Table InputSpec} {spec : InputSpec} (hf : S.inputFields? name = some declared)
    (hn : declared.get? n = some spec) {entries : List (String × Value)}
    (h : ∀ v, entries.lookup n = some v →
      ((v.accept? S spec.type).isSome = true ↔ Accepts S v spec.type)) :
    (acceptReceived S entries n spec).isSome = true ↔
      (∀ v, entries.lookup n = some v → Accepts S v spec.type) ∧
        (n ∉ entries.map Prod.fst → spec.Omittable S) := by
  rw [acceptReceived, ← Entries.lookup_eq_none_iff, InputSpec.omittable_iff hS hf hn]
  cases hl : entries.lookup n with
  | none => simp [Scope.receive]
  | some v => simp [Scope.receive, h v hl]

/-- An object is accepted when it names declared fields only and every declared field takes what it
receives. -/
private theorem isSome_accept?_object_iff (hS : S.DefaultsAcyclic) {entries : List (String × Value)}
    {τ : TypeRef} {declared : Table InputSpec} (hf : S.inputFields? τ.base = some declared)
    (h : ∀ n v τ', (n, v) ∈ entries → ((v.accept? S τ').isSome = true ↔ Accepts S v τ')) :
    ((object entries).accept? S τ).isSome = true ↔ Accepts S (.object entries) τ := by
  have hreceived : ∀ n spec, declared.get? n = some spec →
      ((acceptReceived S entries n spec).isSome = true ↔
        (∀ v, entries.lookup n = some v → Accepts S v spec.type) ∧
          (n ∉ entries.map Prod.fst → spec.Omittable S)) := by
    intro n spec hn
    apply isSome_acceptReceived_iff hS hf hn
    exact fun v hv => h n v spec.type (Entries.mem_of_lookup hv)
  have hkeys : (∀ n ∈ entries.map Prod.fst, declared.contains n = true) ↔
      ∀ n ∈ entries.map Prod.fst, n ∈ declared.keys :=
    forall₂_congr fun _ _ => Table.contains_iff
  rw [accept?_object S entries hf, Accepts.object_iff hf]
  by_cases hk : ∀ n ∈ entries.map Prod.fst, declared.contains n = true
  · rw [if_pos hk, Option.isSome_map, InputSpec.isSome_collect_iff]
    constructor
    · intro hall
      have hfield := fun n spec hn =>
        (hreceived n spec hn).1 (hall (n, spec) (Table.get?_eq_some_iff.1 hn))
      exact ⟨hkeys.1 hk, fun n spec v hn => (hfield n spec hn).1 v,
        fun n spec hn => (hfield n spec hn).2⟩
    · rintro ⟨-, hgiven, habsent⟩ ⟨n, spec⟩ hmem
      have hn := Table.get?_eq_some_iff.2 hmem
      exact (hreceived n spec hn).2 ⟨fun v => hgiven n spec v hn, habsent n spec hn⟩
  · rw [if_neg hk]
    exact ⟨fun hall => Bool.noConfusion hall, fun hall => absurd (hkeys.2 hall.1) hk⟩

private theorem isSome_accept?_named_iff {v : Value} {τ : TypeRef}
    (hname : v.checksByName S τ = true) :
    (v.accept? S τ).isSome = true ↔ Accepts S v τ := by
  rw [accept?_of_checksByName hname, Option.isSome_map]
  cases τ with
  | named name a => exact isSome_checkNamed_iff hname
  | list item a =>
      have hv : v ≠ .null := by
        rintro rfl
        cases hname
      have hlist : ∀ items, v ≠ .list items := by
        rintro items rfl
        cases hname
      rw [Accepts.base_iff hv hlist]
      exact isSome_checkNamed_iff (checksByName_base hname true)

theorem isSome_accept?_iff (hS : S.DefaultsAcyclic) (v : Value) (τ : TypeRef) :
    (v.accept? S τ).isSome = true ↔ Accepts S v τ := by
  induction v, τ using indAt S with
  | null τ =>
      rw [accept?_null, Accepts.null_iff]
      cases τ.isNonNull <;> simp
  | list items item a ih =>
      rw [accept?_list, Option.isSome_map, isSome_mapM_iff, Accepts.list_iff]
      exact forall₂_congr ih
  | object entries τ declared hf ih => exact isSome_accept?_object_iff hS hf ih
  | named v τ hname => exact isSome_accept?_named_iff hname

/-- Refused data has faults, each of the kind of invalid values and at the place of the whole. -/
theorem check_eq_error {τ : TypeRef} {location : Option Location} {v : Value}
    (h : v.accept? S τ = none) :
    ∃ fs, v.check S τ location = .error fs ∧ fs ≠ [] ∧
      ∀ f ∈ fs, f.kind = .invalid ∧ f.location = location := by
  rw [accept?, Checked.value?] at h
  rw [check]
  cases hf : (v.checkAt S τ []).faults with
  | nil => simp [hf] at h
  | cons f fs =>
      refine ⟨_, rfl, by simp, ?_⟩
      intro g hg
      obtain ⟨_, _, rfl⟩ := List.mem_map.1 hg
      exact ⟨rfl, rfl⟩

end Value

namespace Sample

/-- A schema in which a default leaves out fields that have defaults themselves, and an object type
refers to itself. -/
def voyages : Schema :=
  schema.define [("Trip", .inputObject
    ⟨[("start", ⟨.named "Place" true, some (.object [("id", .string "A")])⟩),
      ("legs", ⟨.list (.named "Trip" true) false, none⟩)], by decide⟩)] []

def voyagesRank (name : String) : Nat :=
  if name = "Trip" then 2 else if name = "Place" then 1 else 0

theorem defaultsOffCycles_voyages : voyages.DefaultsOffCycles :=
  Schema.defaultsOffCycles_of_rank voyagesRank (by decide)

theorem defaultsAcyclic_voyages : voyages.DefaultsAcyclic :=
  defaultsOffCycles_voyages.acyclic

def journeys : TypeRef :=
  .list (.named "Trip" false) true

def journey : Value :=
  .object [("legs", .object [])]

def harbour : Value :=
  .object [("id", .string "A"), ("size", .int one), ("unit", .string "KM")]

end Sample

namespace Value

variable {S : Schema}

/-- Checking accepts the data that is valid at the type and no other, and finds fault with the
rest. -/
theorem check_accepts (hS : S.DefaultsAcyclic) (τ : TypeRef) (location : Option Location)
    (v : Value) :
    ((∃ w, v.check S τ location = .ok w) ↔ Accepts S v τ) ∧
      (¬ Accepts S v τ → ∃ fs, v.check S τ location = .error fs ∧ fs ≠ [] ∧
        ∀ f ∈ fs, f.kind = .invalid ∧ f.location = location) := by
  constructor
  · simp only [check_eq_ok_iff, ← Option.isSome_iff_exists]
    exact isSome_accept?_iff hS v τ
  · intro h
    rw [← isSome_accept?_iff hS, Option.not_isSome_iff_eq_none] at h
    exact check_eq_error h

theorem check_accepts_sample :
    Sample.voyages.DefaultsAcyclic ∧
      Sample.journey.check Sample.voyages Sample.journeys (some 3) =
        .ok (.list [.object [("start", Sample.harbour),
          ("legs", .list [.object [("start", Sample.harbour)]])]]) ∧
      ((∃ w, Sample.journey.check Sample.voyages Sample.journeys (some 3) = .ok w) ↔
        Accepts Sample.voyages Sample.journey Sample.journeys) ∧
      (¬ Accepts Sample.voyages Sample.journey Sample.journeys →
        ∃ fs, Sample.journey.check Sample.voyages Sample.journeys (some 3) = .error fs ∧
          fs ≠ [] ∧ ∀ f ∈ fs, f.kind = .invalid ∧ f.location = some 3) :=
  ⟨Sample.defaultsAcyclic_voyages, rfl, check_accepts Sample.defaultsAcyclic_voyages _ _ _⟩

end Value

end GraphQLInput
