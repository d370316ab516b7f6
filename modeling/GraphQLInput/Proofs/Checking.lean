import GraphQLInput.Proofs.Reading
import GraphQLInput.Value.Check
/-!
# Checking by parts

Whether given data is accepted, and as which value, depends on its parts: on every item of a list,
and on what each declared field of an object receives. The place of the data shows in the paths of
its faults and nowhere else.
-/
namespace GraphQLInput

namespace Checked

variable {α β γ : Type}

/-- The result of a check that finds no fault. -/
def value? (c : Checked α) : Option α :=
  if c.faults.isEmpty then some c.result else none

/-- The same check of data that stands below a place. -/
def under (place : Path) (c : Checked α) : Checked α :=
  ⟨c.result, c.faults.map fun f => (place ++ f.1, f.2)⟩

@[simp] theorem value?_ok (a : α) : (ok a).value? = some a :=
  rfl

@[simp] theorem value?_fault (standIn : α) (place : Path) (why : Mismatch) :
    (fault standIn place why).value? = none :=
  rfl

@[simp] theorem value?_map (f : α → β) (c : Checked α) : (c.map f).value? = c.value?.map f := by
  rw [value?, value?, faults_map]
  cases c.faults <;> rfl

theorem value?_both (f : α → β → γ) (a : Checked α) (b : Checked β) :
    (both f a b).value? = a.value?.bind fun x => b.value?.map (f x) := by
  rw [value?, value?, value?, faults_both]
  cases a.faults <;> cases b.faults <;> rfl

@[simp] theorem value?_under (place : Path) (c : Checked α) :
    (c.under place).value? = c.value? := by
  rw [value?, value?, under, List.isEmpty_map]

theorem under_map (place : Path) (f : α → β) (c : Checked α) :
    (c.map f).under place = (c.under place).map f :=
  rfl

theorem under_both (place : Path) (f : α → β → γ) (a : Checked α) (b : Checked β) :
    (both f a b).under place = both f (a.under place) (b.under place) := by
  simp [under, both]

end Checked

namespace InputSpec

theorem checkEach_congr {f g : String → InputSpec → Checked (Option Value)}
    {es : List (String × InputSpec)} (h : ∀ e ∈ es, f e.1 e.2 = g e.1 e.2) :
    checkEach f es = checkEach g es := by
  induction es with
  | nil => rfl
  | cons e es ih =>
      rw [List.forall_mem_cons] at h
      rw [checkEach, checkEach, h.1, ih h.2]

private theorem checkEach_under {place : Path} {f g : String → InputSpec → Checked (Option Value)}
    {es : List (String × InputSpec)} (h : ∀ n spec, f n spec = (g n spec).under place) :
    checkEach f es = (checkEach g es).under place := by
  induction es with
  | nil => rfl
  | cons e es ih => rw [checkEach, checkEach, h, ih, Checked.under_both]

private theorem value?_checkEach (f : String → InputSpec → Checked (Option Value))
    (es : List (String × InputSpec)) :
    (checkEach f es).value? = collect (fun n spec => (f n spec).value?) es := by
  induction es with
  | nil => rfl
  | cons e es ih =>
      obtain ⟨name, spec⟩ := e
      rw [checkEach, Checked.value?_both, ih, collect]
      cases (f name spec).value? with
      | none => rfl
      | some v => cases collect (fun n spec => (f n spec).value?) es <;> rfl

private theorem checkAbsent_under (S : Schema) (place p : Path) (spec : InputSpec) :
    spec.checkAbsent S (place ++ p) = (spec.checkAbsent S p).under place := by
  rw [checkAbsent, checkAbsent]
  cases spec.default? with
  | none => cases spec.type.isNonNull <;> rfl
  | some l => cases S.default? spec <;> rfl

private theorem value?_checkAbsent (S : Schema) (place : Path) (vars : Option Bindings)
    (spec : InputSpec) : (spec.checkAbsent S place).value? = (S.scope vars).absent? spec := by
  have hdefault : (S.scope vars).default? spec = S.default? spec := rfl
  rw [checkAbsent, Scope.absent?, hdefault]
  cases spec.default? with
  | none => cases spec.type.isNonNull <;> rfl
  | some l => cases S.default? spec <;> rfl

end InputSpec

private theorem undeclaredFaults_under (declared : Table InputSpec) (type : String) (place p : Path)
    (names : List String) :
    undeclaredFaults declared type (place ++ p) names =
      (undeclaredFaults declared type p names).map fun f => (place ++ f.1, f.2) := by
  simp [undeclaredFaults]

namespace Value

variable (S : Schema)

/-- The check of what a declared field receives from the entries of an object. -/
def checkReceived (entries : List (String × Value)) (place : Path) (name : String)
    (spec : InputSpec) : Checked (Option Value) :=
  match entries.lookup name with
  | some v => (v.checkAt S spec.type (place ++ [.field name])).map some
  | none => spec.checkAbsent S (place ++ [.field name])

private theorem checkField_eq_lookup (name : String) (τ : TypeRef) (place : Path)
    (entries : List (String × Value)) :
    checkField S name τ place entries =
      (entries.lookup name).map fun v => v.checkAt S τ (place ++ [.field name]) := by
  induction entries with
  | nil => rfl
  | cons entry entries ih =>
      obtain ⟨n, v⟩ := entry
      rw [checkField, Entries.lookup_cons]
      by_cases hn : n = name
      · rw [if_pos hn, if_pos hn.symm, Option.map_some]
      · rw [if_neg hn, if_neg (Ne.symm hn), ih]

theorem checkAt_object (entries : List (String × Value)) {τ : TypeRef} {declared : Table InputSpec}
    (hf : S.inputFields? τ.base = some declared) (place : Path) :
    (object entries).checkAt S τ place =
      (Checked.both (fun fields (_ : Unit) => object fields)
        (InputSpec.checkEach (checkReceived S entries place) declared.entries)
        ⟨(), undeclaredFaults declared τ.base place (entries.map Prod.fst)⟩).map τ.wrap := by
  simp only [checkAt, hf]
  congr 3
  funext name spec
  rw [checkReceived, checkField_eq_lookup]
  cases entries.lookup name <;> rfl

/-- Whether data is checked at the base type of a type, by the name of that type alone. -/
def checksByName : Value → TypeRef → Bool
  | .null, _ => false
  | .list _, .list _ _ => false
  | .object _, τ => (S.inputFields? τ.base).isNone
  | _, _ => true

theorem checkAt_of_checksByName {v : Value} {τ : TypeRef} (h : v.checksByName S τ = true)
    (place : Path) : v.checkAt S τ place = (v.checkNamed S τ.base place).map τ.wrap := by
  cases v with
  | null => cases h
  | list items =>
      cases τ with
      | named name a => rfl
      | list item a => cases h
  | object entries =>
      rw [checksByName, Option.isNone_iff_eq_none] at h
      rw [checkAt, h]
  | _ => rfl

theorem checkAt_named {v : Value} {name : String} {a : Bool} (hv : v ≠ .null)
    (hf : S.inputFields? name = none) (place : Path) :
    v.checkAt S (.named name a) place = v.checkNamed S name place := by
  have hname : v.checksByName S (.named name a) = true := by
    cases v with
    | null => exact absurd rfl hv
    | object entries => rw [checksByName, TypeRef.base, hf, Option.isNone_none]
    | _ => rfl
  rw [checkAt_of_checksByName S hname]
  rfl

/-- Data that is no list stands at a list type for the list of itself alone. -/
theorem checkAt_single {v : Value} (hv : v ≠ .null) (hlist : ∀ items, v ≠ .list items)
    (item : TypeRef) (a : Bool) (place : Path) :
    v.checkAt S (.list item a) place = (v.checkAt S item place).map fun w => .list [w] := by
  cases v with
  | null => exact absurd rfl hv
  | list items => exact absurd rfl (hlist items)
  | object entries =>
      rw [checkAt, checkAt]
      rfl
  | _ =>
      rw [checkAt_of_checksByName S rfl, checkAt_of_checksByName S rfl]
      rfl

/-- Values and types in step, as checking takes them. -/
@[elab_as_elim]
theorem indAt {motive : Value → TypeRef → Prop} (null : ∀ τ, motive .null τ)
    (list : ∀ items item a, (∀ v ∈ items, motive v item) → motive (.list items) (.list item a))
    (object : ∀ entries τ declared, S.inputFields? τ.base = some declared →
      (∀ n v τ', (n, v) ∈ entries → motive v τ') → motive (.object entries) τ)
    (named : ∀ v τ, v.checksByName S τ = true → motive v τ) (v : Value) (τ : TypeRef) :
    motive v τ := by
  induction v generalizing τ with
  | null => exact null τ
  | list items ih =>
      cases τ with
      | named name a => exact named _ _ rfl
      | list item a => exact list items item a fun v hv => ih v hv item
  | object entries ih =>
      cases hf : S.inputFields? τ.base with
      | none => exact named _ _ (by rw [checksByName, hf, Option.isNone_none])
      | some declared => exact object entries τ declared hf fun n v τ' hv => ih n v hv τ'
  | _ => exact named _ _ rfl

private theorem checksByName_item {v : Value} {item : TypeRef} {a : Bool}
    (h : v.checksByName S (.list item a) = true) :
    (∀ items, v ≠ .list items) ∧ v.checksByName S item = true := by
  constructor
  · rintro items rfl
    cases h
  · cases v with
    | list items => cases h
    | object entries => exact h
    | null => cases h
    | _ => rfl

/-- Values and types in step, one level of list at a time. -/
@[elab_as_elim]
theorem indDown {motive : Value → TypeRef → Prop} (null : ∀ τ, motive .null τ)
    (list : ∀ items item a, (∀ v ∈ items, motive v item) → motive (.list items) (.list item a))
    (single : ∀ v item a, v ≠ .null → (∀ items, v ≠ .list items) → motive v item →
      motive v (.list item a))
    (object : ∀ entries name a declared, S.inputFields? name = some declared →
      (∀ n v τ, (n, v) ∈ entries → motive v τ) → motive (.object entries) (.named name a))
    (named : ∀ v name a, v.checksByName S (.named name a) = true → motive v (.named name a))
    (v : Value) (τ : TypeRef) : motive v τ := by
  induction v, τ using indAt S with
  | null τ => exact null τ
  | list items item a ih => exact list items item a ih
  | object entries τ declared hf ih =>
      induction τ with
      | named name a => exact object entries name a declared hf ih
      | list item a ihitem =>
          exact single _ item a Value.noConfusion (fun _ => Value.noConfusion) (ihitem hf)
  | named v τ hname =>
      induction τ with
      | named name a => exact named v name a hname
      | list item a ihitem =>
          have hv : v ≠ .null := by
            rintro rfl
            cases hname
          obtain ⟨hlist, hitem⟩ := checksByName_item S hname
          exact single v item a hv hlist (ihitem hitem)

private theorem checkNamed_under (name : String) (place p : Path) (v : Value) :
    v.checkNamed S name (place ++ p) = (v.checkNamed S name p).under place := by
  rw [checkNamed, checkNamed]
  cases S.types.get? name with
  | none => rfl
  | some d =>
      cases d with
      | scalar =>
          cases Scalar.ofName? name with
          | none => rfl
          | some s => cases h : s.check v <;> simp only [h] <;> rfl
      | enum values =>
          cases v with
          | string s => cases h : values.contains s <;> simp only [h] <;> rfl
          | _ => rfl
      | _ => rfl

private theorem checkItems_under {item : TypeRef} {place : Path} {items : List Value}
    (h : ∀ v ∈ items, ∀ p, v.checkAt S item (place ++ p) = (v.checkAt S item p).under place)
    (p : Path) (i : Nat) :
    checkItems S item (place ++ p) i items = (checkItems S item p i items).under place := by
  induction items generalizing i with
  | nil => rfl
  | cons v vs ih =>
      rw [List.forall_mem_cons] at h
      rw [checkItems, checkItems, List.append_assoc, h.1, ih h.2, Checked.under_both]

/-- What stands in front of a place stands in front of the paths of the faults there. -/
theorem checkAt_under (place : Path) (v : Value) (τ : TypeRef) :
    ∀ p, v.checkAt S τ (place ++ p) = (v.checkAt S τ p).under place := by
  induction v, τ using indAt S with
  | null τ =>
      intro p
      rw [checkAt, checkAt]
      cases τ.isNonNull <;> rfl
  | list items item a ih =>
      intro p
      rw [checkAt, checkAt, checkItems_under S ih, Checked.under_map]
  | object entries τ declared hf ih =>
      intro p
      rw [checkAt_object S entries hf, checkAt_object S entries hf, Checked.under_map,
        Checked.under_both]
      have hfields : InputSpec.checkEach (checkReceived S entries (place ++ p)) declared.entries =
          (InputSpec.checkEach (checkReceived S entries p) declared.entries).under place := by
        apply InputSpec.checkEach_under
        intro n spec
        rw [checkReceived, checkReceived, List.append_assoc]
        cases hl : entries.lookup n with
        | none => exact InputSpec.checkAbsent_under S place _ spec
        | some v => exact congrArg (Checked.map some) (ih n v _ (Entries.mem_of_lookup hl) _)
      rw [hfields, undeclaredFaults_under]
      rfl
  | named v τ hname =>
      intro p
      rw [checkAt_of_checksByName S hname, checkAt_of_checksByName S hname, checkNamed_under,
        Checked.under_map]

/-- The value that data is accepted as at a type, nothing where there is a fault in it. -/
def accept? (τ : TypeRef) (v : Value) : Option Value :=
  (v.checkAt S τ []).value?

theorem value?_checkAt (v : Value) (τ : TypeRef) (place : Path) :
    (v.checkAt S τ place).value? = v.accept? S τ := by
  rw [← List.append_nil place, checkAt_under, Checked.value?_under, accept?]

theorem check_eq_ok_iff {τ : TypeRef} {location : Option Location} {v w : Value} :
    v.check S τ location = .ok w ↔ v.accept? S τ = some w := by
  rw [check, accept?, Checked.value?]
  cases (v.checkAt S τ []).faults <;> simp

theorem check_ne_error_nil {τ : TypeRef} {location : Option Location} {v : Value} :
    v.check S τ location ≠ .error [] := by
  rw [check]
  cases (v.checkAt S τ []).faults <;> simp

/-- What a declared field receives from the entries of an object that is accepted. -/
def acceptReceived (entries : List (String × Value)) (name : String) (spec : InputSpec) :
    Option (Option Value) :=
  (S.scope none).receive spec ((entries.lookup name).map fun v => v.accept? S spec.type)

theorem accept?_null (τ : TypeRef) :
    null.accept? S τ = if τ.isNonNull then none else some null := by
  rw [accept?, checkAt]
  cases τ.isNonNull <;> rfl

private theorem value?_checkItems (item : TypeRef) (place : Path) (i : Nat) (items : List Value) :
    (checkItems S item place i items).value? = items.mapM (accept? S item) := by
  induction items generalizing i with
  | nil => rfl
  | cons v vs ih =>
      rw [checkItems, Checked.value?_both, value?_checkAt, ih, List.mapM_cons]
      cases v.accept? S item with
      | none => rfl
      | some w => cases vs.mapM (accept? S item) <;> rfl

theorem accept?_list (items : List Value) (item : TypeRef) (a : Bool) :
    (list items).accept? S (.list item a) = (items.mapM (accept? S item)).map .list := by
  rw [accept?, checkAt, Checked.value?_map, value?_checkItems]

private theorem value?_checkReceived (entries : List (String × Value)) (place : Path)
    (name : String) (spec : InputSpec) :
    (checkReceived S entries place name spec).value? = acceptReceived S entries name spec := by
  rw [checkReceived, acceptReceived]
  cases entries.lookup name with
  | none => exact InputSpec.value?_checkAbsent S _ none spec
  | some v => exact (Checked.value?_map some _).trans (congrArg _ (value?_checkAt S v spec.type _))

/-- An object is accepted without names that are not declared only. -/
theorem accept?_object (entries : List (String × Value)) {τ : TypeRef} {declared : Table InputSpec}
    (hf : S.inputFields? τ.base = some declared) :
    (object entries).accept? S τ =
      if ∀ name ∈ entries.map Prod.fst, declared.contains name = true then
        (InputSpec.collect (acceptReceived S entries) declared.entries).map
          fun fields => τ.wrap (.object fields)
      else none := by
  have hvalue : (fun n spec => (checkReceived S entries [] n spec).value?) =
      acceptReceived S entries := by
    funext n spec
    exact value?_checkReceived S entries [] n spec
  have hfaults : undeclaredFaults declared τ.base [] (entries.map Prod.fst) = [] ↔
      ∀ name ∈ entries.map Prod.fst, declared.contains name = true := by
    simp [undeclaredFaults, List.filter_eq_nil_iff]
  rw [accept?, checkAt_object S entries hf, Checked.value?_map, Checked.value?_both,
    InputSpec.value?_checkEach, hvalue]
  by_cases h : ∀ name ∈ entries.map Prod.fst, declared.contains name = true
  · rw [if_pos h, hfaults.2 h]
    cases InputSpec.collect (acceptReceived S entries) declared.entries <;> rfl
  · have hne := mt hfaults.1 h
    rw [if_neg h]
    cases hu : undeclaredFaults declared τ.base [] (entries.map Prod.fst) with
    | nil => exact absurd hu hne
    | cons f fs => cases InputSpec.collect (acceptReceived S entries) declared.entries <;> rfl

variable {S}

theorem value?_checkNamed_scalar {name : String} {s : Scalar}
    (ht : S.types.get? name = some .scalar) (hs : Scalar.ofName? name = some s) (place : Path)
    (v : Value) :
    (v.checkNamed S name place).value? = (s.check v).toOption := by
  simp only [checkNamed, ht, hs]
  cases s.check v <;> rfl

theorem value?_checkNamed_custom {name : String} (ht : S.types.get? name = some .scalar)
    (hs : Scalar.ofName? name = none) (place : Path) (v : Value) :
    (v.checkNamed S name place).value? = some v := by
  simp only [checkNamed, ht, hs, Checked.value?_ok]

theorem value?_checkNamed_enum {name : String} {values : List String}
    (ht : S.types.get? name = some (.enum values)) (place : Path) (v : Value) :
    (v.checkNamed S name place).value? =
      match v with
      | .string s => if s ∈ values then some v else none
      | _ => none := by
  simp only [checkNamed, ht, List.contains_iff_mem]
  cases v with
  | string s =>
      by_cases hs : s ∈ values
      · simp only [hs, if_true, Checked.value?_ok]
      · simp only [hs, if_false, Checked.value?_fault]
  | _ => rfl

theorem value?_checkNamed_other {name : String} (hscalar : S.types.get? name ≠ some .scalar)
    (henum : ∀ values, S.types.get? name ≠ some (.enum values)) (place : Path) (v : Value) :
    (v.checkNamed S name place).value? = none := by
  rw [checkNamed]
  cases ht : S.types.get? name with
  | none => rfl
  | some d =>
      cases d with
      | scalar => exact absurd ht hscalar
      | enum values => exact absurd ht (henum values)
      | _ => rfl

theorem accept?_of_checksByName {v : Value} {τ : TypeRef} (h : v.checksByName S τ = true) :
    v.accept? S τ = (v.checkNamed S τ.base []).value?.map τ.wrap := by
  rw [accept?, checkAt_of_checksByName S h, Checked.value?_map]

theorem accept?_named {v : Value} {name : String} {a : Bool} (hv : v ≠ .null)
    (hf : S.inputFields? name = none) :
    v.accept? S (.named name a) = (v.checkNamed S name []).value? := by
  rw [accept?, checkAt_named S hv hf]

end Value

end GraphQLInput
