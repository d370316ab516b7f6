import GraphQLInput.Literal.Read
import GraphQLInput.Proofs.Entries
import Mathlib.Data.List.Forall2
/-!
# Reading by parts

A list of literals is read item by item, and an object by asking each declared field for what it
receives. Reading stops at the first part that is refused.
-/
namespace GraphQLInput

variable {α β : Type}

theorem mapM_eq_some_iff {f : α → Option β} {xs : List α} {ys : List β} :
    xs.mapM f = some ys ↔ List.Forall₂ (fun x y => f x = some y) xs ys := by
  induction xs generalizing ys with
  | nil => simp [eq_comm]
  | cons x xs ih =>
      simp only [List.mapM_cons, bind, Option.bind_eq_some_iff, pure, Option.some.injEq, ih,
        List.forall₂_cons_left_iff]
      constructor
      · rintro ⟨y, hy, rest, hrest, rfl⟩
        exact ⟨y, rest, hy, hrest, rfl⟩
      · rintro ⟨y, rest, hy, hrest, rfl⟩
        exact ⟨y, hy, rest, hrest, rfl⟩

theorem mapM_eq_of_forall₂ {γ : Type} {f : α → Option γ} {g : β → Option γ} {xs : List α}
    {ys : List β} (h : List.Forall₂ (fun x y => f x = g y) xs ys) : xs.mapM f = ys.mapM g := by
  induction h with
  | nil => rfl
  | cons hxy _ ih => rw [List.mapM_cons, List.mapM_cons, hxy, ih]

theorem mapM_congr {γ : Type} {f g : α → Option γ} {xs : List α} (h : ∀ x ∈ xs, f x = g x) :
    xs.mapM f = xs.mapM g :=
  mapM_eq_of_forall₂ (List.forall₂_same.2 h)

theorem map_eq_map_iff_forall₂ {γ : Type} {f : α → γ} {g : β → γ} {xs : List α} {ys : List β} :
    xs.map f = ys.map g ↔ List.Forall₂ (fun x y => f x = g y) xs ys := by
  rw [← List.forall₂_eq_eq_eq, List.forall₂_map_left_iff, List.forall₂_map_right_iff]

theorem forall₂_imp_of_mem {R P : α → β → Prop} {xs : List α} {ys : List β}
    (h : List.Forall₂ R xs ys) (himp : ∀ x ∈ xs, ∀ y, R x y → P x y) : List.Forall₂ P xs ys :=
  ((List.forall₂_and_left xs ys).2 ⟨himp, h⟩).imp fun _ _ hxy => hxy.1 _ hxy.2

theorem exists_of_forall₂_right {R : α → β → Prop} {xs : List α} {ys : List β}
    (h : List.Forall₂ R xs ys) {y : β} (hy : y ∈ ys) : ∃ x ∈ xs, R x y := by
  induction h with
  | nil => cases hy
  | cons hxy _ ih =>
      rcases List.mem_cons.1 hy with rfl | hy
      · exact ⟨_, List.mem_cons_self, hxy⟩
      · obtain ⟨x, hx, hr⟩ := ih hy
        exact ⟨x, List.mem_cons_of_mem _ hx, hr⟩

theorem exists_of_mapM_eq_some {f : α → Option β} {xs : List α} {ys : List β}
    (h : xs.mapM f = some ys) {y : β} (hy : y ∈ ys) : ∃ x ∈ xs, f x = some y :=
  exists_of_forall₂_right (mapM_eq_some_iff.1 h) hy

/-- Collecting succeeds where no field is refused, and gathers what the fields receive. -/
theorem InputSpec.collect_eq_some_iff {f : String → InputSpec → Option (Option Value)}
    {es : List (String × InputSpec)} {entries : List (String × Value)} :
    InputSpec.collect f es = some entries ↔
      (∀ e ∈ es, f e.1 e.2 ≠ none) ∧
        entries = Entries.gather Prod.fst (fun e => (f e.1 e.2).join) es := by
  induction es generalizing entries with
  | nil => simp [InputSpec.collect, Entries.gather, eq_comm]
  | cons e es ih =>
      obtain ⟨name, spec⟩ := e
      rw [Entries.gather_cons, List.forall_mem_cons, InputSpec.collect]
      simp only [bind, Option.bind_eq_some_iff, ih, pure, Option.some.injEq]
      constructor
      · rintro ⟨r, hr, rest, ⟨hall, rfl⟩, rfl⟩
        exact ⟨⟨by simp [hr], hall⟩, by rw [hr]; rfl⟩
      · rintro ⟨⟨hne, hall⟩, rfl⟩
        obtain ⟨r, hr⟩ := Option.ne_none_iff_exists'.1 hne
        exact ⟨r, hr, _, ⟨hall, rfl⟩, by rw [hr]; rfl⟩

theorem InputSpec.collect_congr {f g : String → InputSpec → Option (Option Value)}
    {es : List (String × InputSpec)} (h : ∀ n spec, (n, spec) ∈ es → f n spec = g n spec) :
    InputSpec.collect f es = InputSpec.collect g es := by
  induction es with
  | nil => rfl
  | cons e es ih =>
      obtain ⟨name, spec⟩ := e
      rw [InputSpec.collect, InputSpec.collect, h name spec List.mem_cons_self,
        ih fun n spec' hm => h n spec' (List.mem_cons_of_mem _ hm)]

theorem Schema.inputFields?_eq_none {S : Schema} {name : String} {d : TypeDef}
    (ht : S.types.get? name = some d) (hd : ∀ fields, d ≠ .inputObject fields) :
    S.inputFields? name = none := by
  rw [inputFields?, ht]
  cases d with
  | inputObject fields => exact absurd rfl (hd fields)
  | _ => rfl

/-- Three kinds of definition are told apart where a name stands for its type. -/
theorem Schema.named_cases (S : Schema) (name : String) :
    (∃ s, S.types.get? name = some .scalar ∧ Scalar.ofName? name = some s) ∨
      (S.types.get? name = some .scalar ∧ Scalar.ofName? name = none) ∨
      (∃ values, S.types.get? name = some (.enum values)) ∨
      (S.types.get? name ≠ some .scalar ∧ ∀ values, S.types.get? name ≠ some (.enum values)) := by
  cases ht : S.types.get? name with
  | none => simp
  | some d =>
      cases d with
      | scalar => cases hs : Scalar.ofName? name <;> simp
      | _ => simp

namespace Scope

/-- What a declared field receives: what its own value comes to, or without one what it does when
it is left out. -/
def receive (scope : Scope) (spec : InputSpec) : Option (Option Value) → Option (Option Value)
  | some own => own.map some
  | none => scope.absent? spec

theorem default?_of_absent? {scope : Scope} {spec : InputSpec} {v : Value}
    (h : scope.absent? spec = some (some v)) : scope.default? spec = some v := by
  rw [absent?] at h
  cases hd : spec.default? with
  | none =>
      rw [hd] at h
      cases hn : spec.type.isNonNull <;> simp [hn] at h
  | some l =>
      rw [hd] at h
      simpa using h

end Scope

namespace Literal

variable (scope : Scope)

theorem referent?_eq_some_iff {l : Literal} {x : String} :
    l.referent? = some x ↔ l = .reference x := by
  cases l <;> simp [referent?]

/-- The reading of a literal as an item of a list. -/
def readItem (item : TypeRef) (l : Literal) : Option Value :=
  if l.isUnbound scope.value? then (if item.isNonNull then none else some .null)
  else l.readIn scope item

/-- The first field of a name, if it has a value. -/
def given? (value? : String → Option Value) (fields : List (String × Literal)) (name : String) :
    Option Literal :=
  (fields.lookup name).filter fun l => !l.isUnbound value?

theorem mem_of_given? {value? : String → Option Value} {fields : List (String × Literal)}
    {name : String} {l : Literal} (h : given? value? fields name = some l) : (name, l) ∈ fields :=
  Entries.mem_of_lookup (Option.filter_eq_some_iff.1 h).1

/-- What a declared field receives from the fields of a literal. -/
def received (fields : List (String × Literal)) (name : String) (spec : InputSpec) :
    Option (Option Value) :=
  scope.receive spec ((given? scope.value? fields name).map fun l => l.readIn scope spec.type)

private theorem readItems_eq_mapM (items : List Literal) (item : TypeRef) :
    readItems scope items item = items.mapM (readItem scope item) := by
  induction items with
  | nil => rfl
  | cons l ls ih =>
      rw [List.mapM_cons, ← ih, readItems, readItem]
      split <;> rfl

private theorem readField_eq_given? (name : String) (τ : TypeRef)
    (fields : List (String × Literal)) :
    readField scope name τ fields =
      (given? scope.value? fields name).map fun l => l.readIn scope τ := by
  induction fields with
  | nil => rfl
  | cons field fields ih =>
      obtain ⟨n, l⟩ := field
      rw [readField, given?, Entries.lookup_cons]
      by_cases hn : n = name
      · rw [if_pos hn, if_pos hn.symm]
        cases hl : l.isUnbound scope.value? <;> simp [Option.filter, hl]
      · rw [if_neg hn, if_neg (Ne.symm hn), ih, given?]

theorem readIn_list (items : List Literal) (item : TypeRef) (a : Bool) :
    (list items).readIn scope (.list item a) =
      (items.mapM (readItem scope item)).map .list := by
  rw [readIn, readItems_eq_mapM]

theorem readIn_object (fields : List (String × Literal)) {τ : TypeRef}
    {declared : Table InputSpec} (hf : scope.schema.inputFields? τ.base = some declared) :
    (object fields).readIn scope τ =
      (InputSpec.collect (received scope fields) declared.entries).map
        fun entries => τ.wrap (.object entries) := by
  rw [readIn, hf, Option.map_map]
  congr 2
  funext name spec
  rw [received, readField_eq_given?]
  cases given? scope.value? fields name <;> rfl

/-- Whether a literal is read at the base type of a type, by the name of that type alone. -/
def readsByName (S : Schema) : Literal → TypeRef → Bool
  | .null, _ => false
  | .reference _, _ => false
  | .list _, .list _ _ => false
  | .object _, τ => (S.inputFields? τ.base).isNone
  | _, _ => true

theorem referent?_of_readsByName {S : Schema} {l : Literal} {τ : TypeRef}
    (h : l.readsByName S τ = true) : l.referent? = none := by
  cases l with
  | reference x => cases h
  | _ => rfl

theorem readIn_of_readsByName {l : Literal} {τ : TypeRef}
    (h : l.readsByName scope.schema τ = true) :
    l.readIn scope τ = (l.readNamed scope τ.base).map τ.wrap := by
  cases l with
  | null => cases h
  | reference x => cases h
  | list items =>
      cases τ with
      | named name a => rfl
      | list item a => cases h
  | object fields =>
      rw [readsByName, Option.isNone_iff_eq_none] at h
      rw [readIn, h]
  | _ => rfl

theorem readIn_named {l : Literal} {name : String} {a : Bool} (hnull : l ≠ .null)
    (href : l.referent? = none) (hf : scope.schema.inputFields? name = none) :
    l.readIn scope (.named name a) = l.readNamed scope name := by
  have hname : l.readsByName scope.schema (.named name a) = true := by
    cases l with
    | null => exact absurd rfl hnull
    | reference x => cases href
    | object fields => rw [readsByName, TypeRef.base, hf, Option.isNone_none]
    | _ => rfl
  rw [readIn_of_readsByName scope hname]
  exact Option.map_id_apply

/-- A literal that is no list stands at a list type for the list of itself alone. -/
theorem readIn_single {l : Literal} (hnull : l ≠ .null) (href : l.referent? = none)
    (hlist : ∀ items, l ≠ .list items) (item : TypeRef) (a : Bool) :
    l.readIn scope (.list item a) = (l.readIn scope item).map fun v => .list [v] := by
  cases l with
  | null => exact absurd rfl hnull
  | reference x => cases href
  | list items => exact absurd rfl (hlist items)
  | object fields =>
      rw [readIn, readIn, Option.map_map]
      rfl
  | _ =>
      rw [readIn_of_readsByName scope rfl, readIn_of_readsByName scope rfl, Option.map_map]
      rfl

theorem readNamed_scalar {scope : Scope} {name : String} {s : Scalar}
    (ht : scope.schema.types.get? name = some .scalar) (hs : Scalar.ofName? name = some s)
    (l : Literal) : l.readNamed scope name = s.read? l := by
  simp only [readNamed, ht, hs]

theorem readNamed_custom {scope : Scope} {name : String}
    (ht : scope.schema.types.get? name = some .scalar) (hs : Scalar.ofName? name = none)
    (l : Literal) : l.readNamed scope name = l.untyped scope.value? := by
  simp only [readNamed, ht, hs]

theorem readNamed_enum {scope : Scope} {name : String} {values : List String}
    (ht : scope.schema.types.get? name = some (.enum values)) (l : Literal) :
    l.readNamed scope name =
      match l with
      | .enum value => if value ∈ values then some (.string value) else none
      | _ => none := by
  cases l <;> simp only [readNamed, ht, List.contains_iff_mem]

theorem readNamed_other {scope : Scope} {name : String}
    (hscalar : scope.schema.types.get? name ≠ some .scalar)
    (henum : ∀ values, scope.schema.types.get? name ≠ some (.enum values)) (l : Literal) :
    l.readNamed scope name = none := by
  rw [readNamed]
  cases ht : scope.schema.types.get? name with
  | none => rfl
  | some d =>
      cases d with
      | scalar => exact absurd ht hscalar
      | enum values => exact absurd ht (henum values)
      | _ => rfl

/-- The value of an item of a list where no type says how to read it. -/
def untypedItem (value? : String → Option Value) (l : Literal) : Option Value :=
  if l.isUnbound value? then some .null else l.untyped value?

theorem untyped_list (value? : String → Option Value) (items : List Literal) :
    (list items).untyped value? = (items.mapM (untypedItem value?)).map .list := by
  have hitems : untypedItems value? items = items.mapM (untypedItem value?) := by
    induction items with
    | nil => rfl
    | cons l ls ih =>
        rw [List.mapM_cons, ← ih, untypedItems, untypedItem]
        split <;> rfl
  rw [untyped, hitems]

/-- The entry of a field where no type says how to read it. -/
def untypedField (value? : String → Option Value) (f : String × Literal) :
    Option (String × Value) :=
  (f.2.untyped value?).map (f.1, ·)

theorem untyped_object (value? : String → Option Value) (fields : List (String × Literal)) :
    (object fields).untyped value? =
      ((fields.filter fun f : String × Literal => !f.2.isUnbound value?).mapM
        (untypedField value?)).map .ofEntries := by
  have hfields : untypedFields value? fields =
      (fields.filter fun f : String × Literal => !f.2.isUnbound value?).mapM
        (untypedField value?) := by
    induction fields with
    | nil => rfl
    | cons f fs ih =>
        obtain ⟨name, l⟩ := f
        rw [untypedFields, List.filter_cons, ih]
        cases hl : l.isUnbound value? with
        | true => rfl
        | false =>
            simp only [Bool.false_eq_true, if_false, Bool.not_false, if_true, List.mapM_cons,
              untypedField]
            cases l.untyped value? <;> rfl
  rw [untyped, hfields]

/-- Literals and types in step, as reading takes them. -/
@[elab_as_elim]
theorem indAt (S : Schema) {motive : Literal → TypeRef → Prop} (null : ∀ τ, motive .null τ)
    (reference : ∀ x τ, motive (.reference x) τ)
    (list : ∀ items item a, (∀ l ∈ items, motive l item) → motive (.list items) (.list item a))
    (object : ∀ fields τ declared, S.inputFields? τ.base = some declared →
      (∀ n l τ', (n, l) ∈ fields → motive l τ') → motive (.object fields) τ)
    (named : ∀ l τ, l.readsByName S τ = true → motive l τ) (l : Literal) (τ : TypeRef) :
    motive l τ := by
  induction l generalizing τ with
  | null => exact null τ
  | reference x => exact reference x τ
  | list items ih =>
      cases τ with
      | named name a => exact named _ _ rfl
      | list item a => exact list items item a fun l hl => ih l hl item
  | object fields ih =>
      cases hf : S.inputFields? τ.base with
      | none => exact named _ _ (by rw [readsByName, hf, Option.isNone_none])
      | some declared => exact object fields τ declared hf fun n l τ' hl => ih n l hl τ'
  | _ => exact named _ _ rfl

private theorem readsByName_item {S : Schema} {l : Literal} {item : TypeRef} {a : Bool}
    (h : l.readsByName S (.list item a) = true) :
    (∀ items, l ≠ .list items) ∧ l.readsByName S item = true := by
  constructor
  · rintro items rfl
    cases h
  · cases l with
    | list items => cases h
    | object fields => exact h
    | null => cases h
    | reference x => cases h
    | _ => rfl

/-- Literals and types in step, one level of list at a time. -/
@[elab_as_elim]
theorem indDown (S : Schema) {motive : Literal → TypeRef → Prop} (null : ∀ τ, motive .null τ)
    (reference : ∀ x τ, motive (.reference x) τ)
    (list : ∀ items item a, (∀ l ∈ items, motive l item) → motive (.list items) (.list item a))
    (single : ∀ l item a, l ≠ .null → l.referent? = none → (∀ items, l ≠ .list items) →
      motive l item → motive l (.list item a))
    (object : ∀ fields name a declared, S.inputFields? name = some declared →
      (∀ n l τ, (n, l) ∈ fields → motive l τ) → motive (.object fields) (.named name a))
    (named : ∀ l name a, l.readsByName S (.named name a) = true → motive l (.named name a))
    (l : Literal) (τ : TypeRef) : motive l τ := by
  induction l, τ using indAt S with
  | null τ => exact null τ
  | reference x τ => exact reference x τ
  | list items item a ih => exact list items item a ih
  | object fields τ declared hf ih =>
      induction τ with
      | named name a => exact object fields name a declared hf ih
      | list item a ihitem =>
          exact single _ item a Literal.noConfusion rfl (fun _ => Literal.noConfusion) (ihitem hf)
  | named l τ hname =>
      induction τ with
      | named name a => exact named l name a hname
      | list item a ihitem =>
          have hnull : l ≠ .null := by
            rintro rfl
            cases hname
          obtain ⟨hlist, hitem⟩ := readsByName_item hname
          exact single l item a hnull (referent?_of_readsByName hname) hlist (ihitem hitem)

end Literal

end GraphQLInput
