import GraphQLInput.Proofs.Conformance.Basic
/-!
# Literals are read as values of their type

A literal that is valid at a type has a value of that type, provided that the variables in it have
values of the types that their places ask for. The defaults of fields are literals without
variables, so nothing is asked for them.
-/
namespace GraphQLInput

/-- The literal, at a type, has the variable at a place that declares the second type. Places inside
the literal of a custom scalar declare none. -/
inductive Literal.UsesAt (S : Schema) : Literal → TypeRef → String → TypeRef → Prop
  | here {x : String} {τ : TypeRef} : UsesAt S (.reference x) τ x τ
  | item {l : Literal} {items : List Literal} {item : TypeRef} {a : Bool} {x : String}
      {place : TypeRef} :
      l ∈ items → UsesAt S l item x place → UsesAt S (.list items) (.list item a) x place
  | field {n : String} {l : Literal} {fields : List (String × Literal)} {τ : TypeRef}
      {declared : Table InputSpec} {spec : InputSpec} {x : String} {place : TypeRef} :
      S.inputFields? τ.base = some declared → (n, l) ∈ fields → declared.get? n = some spec →
      UsesAt S l spec.type x place → UsesAt S (.object fields) τ x place

namespace Scope

/-- The variables in the literal have values of the types of their places. Null is left out where
it is refused at the place itself. -/
def Supplies (scope : Scope) (l : Literal) (τ : TypeRef) : Prop :=
  ∀ x place v, l.UsesAt scope.schema τ x place → scope.value? x = some v →
    (v.isNull && place.isNonNull) = false → Conforms scope.schema v place

/-- Defaults have values of the types of their fields. -/
def DefaultsConform (scope : Scope) : Prop :=
  ∀ spec v, scope.default? spec = some v → Conforms scope.schema v spec.type

private theorem isKept_of_absent? {scope : Scope} {spec : InputSpec}
    (h : scope.absent? spec = some none) : spec.isKept = false := by
  rw [absent?] at h
  cases hd : spec.default? with
  | none =>
      rw [hd] at h
      cases hn : spec.type.isNonNull with
      | false => simp [InputSpec.isKept, hd, hn]
      | true => simp [hn] at h
  | some l =>
      rw [hd] at h
      simp at h

private theorem conforms_of_receive {scope : Scope} (hdefaults : scope.DefaultsConform)
    {spec : InputSpec} {own : Option (Option Value)} {v : Value}
    (h : scope.receive spec own = some (some v))
    (hown : own = some (some v) → Conforms scope.schema v spec.type) :
    Conforms scope.schema v spec.type := by
  cases own with
  | none => exact hdefaults spec v (default?_of_absent? h)
  | some r =>
      obtain ⟨w, rfl, hw⟩ := Option.map_eq_some_iff.1 h
      exact hown (congrArg (fun w => some (some w)) (Option.some.inj hw))

private theorem isKept_of_receive {scope : Scope} {spec : InputSpec} {own : Option (Option Value)}
    (h : scope.receive spec own = some none) : spec.isKept = false := by
  cases own with
  | none => exact isKept_of_absent? h
  | some r => simp [receive] at h

/-- An object is of its type when every value that is given for a field is of the field's. -/
theorem conforms_of_collect {scope : Scope} (hdefaults : scope.DefaultsConform) {name : String}
    {declared : Table InputSpec} {own : String → InputSpec → Option (Option Value)}
    {entries : List (String × Value)} (hf : scope.schema.inputFields? name = some declared)
    (hc : InputSpec.collect (fun n spec => scope.receive spec (own n spec)) declared.entries =
      some entries)
    (hown : ∀ n spec v, declared.get? n = some spec → own n spec = some (some v) →
      Conforms scope.schema v spec.type) :
    Conforms scope.schema (.object entries) (.named name true) := by
  refine Conforms.of_collect hf hc ?_ fun n spec _ h => isKept_of_receive h
  intro n spec v hn h
  exact conforms_of_receive hdefaults h (hown n spec v hn)

theorem absent?_of_isKept (scope : Scope) {spec : InputSpec} (h : spec.isKept = false) :
    scope.absent? spec = some none := by
  rw [InputSpec.isKept, Bool.or_eq_false_iff, Option.isSome_eq_false_iff,
    Option.isNone_iff_eq_none] at h
  rw [absent?, h.1]
  simp [h.2]

end Scope

private theorem Scalar.holds_of_read? {s : Scalar} {l : Literal} {v : Value}
    (h : s.read? l = some v) :
    s.holds v = true := by
  cases s <;> cases l <;> simp only [Scalar.read?, Option.map_eq_some_iff, reduceCtorEq] at h
  case int.int text =>
    obtain ⟨n, hn, rfl⟩ := h
    exact (Option.filter_eq_some_iff.1 hn).2
  all_goals
    first
    | cases h; rfl
    | obtain ⟨x, -, rfl⟩ := h; rfl

namespace Literal

variable {scope : Scope}

private theorem untyped_ne_null {value? : String → Option Value} {l : Literal} (hnull : l ≠ .null)
    (href : l.referent? = none) : l.untyped value? ≠ some .null := by
  intro h
  cases l with
  | null => exact hnull rfl
  | reference x => cases href
  | int text =>
      rw [untyped] at h
      cases hn : wholeNumber? text <;> simp [hn] at h
  | _ => simp [untyped, Value.ofEntries] at h

private theorem conforms_readNamed {name : String} {l : Literal} {v : Value} (hnull : l ≠ .null)
    (href : l.referent? = none) (h : l.readNamed scope name = some v) :
    Conforms scope.schema v (.named name true) := by
  rw [readNamed] at h
  cases ht : scope.schema.types.get? name with
  | none => simp [ht] at h
  | some d =>
      rw [ht] at h
      cases d with
      | scalar =>
          cases hs : Scalar.ofName? name with
          | some s =>
              simp only [hs] at h
              exact .scalar ht hs (Scalar.holds_of_read? h)
          | none =>
              simp only [hs] at h
              exact .custom ht hs fun hv => untyped_ne_null hnull href (hv ▸ h)
      | enum values =>
          cases l with
          | enum value =>
              simp only at h
              split at h
              · rename_i hv
                cases h
                exact .enum ht (List.contains_iff_mem.1 hv)
              · cases h
          | _ => cases h
      | _ => cases h

private theorem conforms_readItem {item : TypeRef} {l : Literal} {v : Value}
    (hl : l.readIn scope item = some v → Conforms scope.schema v item)
    (h : readItem scope item l = some v) : Conforms scope.schema v item := by
  rw [readItem] at h
  split at h
  · exact .of_null h
  · exact hl h

/-- The value of a literal is one of the type that it is read at. -/
theorem conforms_readIn (hdefaults : scope.DefaultsConform) (l : Literal) (τ : TypeRef) :
    ∀ v, scope.Supplies l τ → l.readIn scope τ = some v → Conforms scope.schema v τ := by
  induction l, τ using indAt scope.schema with
  | null τ =>
      intro v _ h
      rw [readIn] at h
      exact .of_null h
  | reference x τ =>
      intro v hs h
      rw [readIn, Option.filter_eq_some_iff, Bool.not_eq_true'] at h
      exact hs x τ v .here h.1 h.2
  | list items item a ih =>
      intro v hs h
      rw [readIn_list, Option.map_eq_some_iff] at h
      obtain ⟨vs, hvs, rfl⟩ := h
      apply Conforms.list
      intro w hw
      obtain ⟨l, hl, hread⟩ := exists_of_mapM_eq_some hvs hw
      exact conforms_readItem
        (ih l hl w fun x place u hx => hs x place u (.item hl hx)) hread
  | object fields τ declared hf ih =>
      intro v hs h
      rw [readIn_object scope fields hf, Option.map_eq_some_iff] at h
      obtain ⟨entries, hc, rfl⟩ := h
      apply Conforms.wrap
      refine Scope.conforms_of_collect hdefaults hf hc fun n spec w hn hw => ?_
      obtain ⟨l, hg, hread⟩ := Option.map_eq_some_iff.1 hw
      have hl : (n, l) ∈ fields := mem_of_given? hg
      exact ih n l spec.type hl w (fun x place u hx => hs x place u (.field hf hl hn hx)) hread
  | named l τ hname =>
      intro v _ h
      rw [readIn_of_readsByName scope hname, Option.map_eq_some_iff] at h
      obtain ⟨u, hu, rfl⟩ := h
      have hnull : l ≠ .null := by
        rintro rfl
        cases hname
      exact (conforms_readNamed hnull (referent?_of_readsByName hname) hu).wrap

end Literal

private theorem Scope.supplies_of_unset {scope : Scope} (h : ∀ x, scope.value? x = none)
    (l : Literal) (τ : TypeRef) : scope.Supplies l τ := by
  intro x place v _ hv
  rw [h x] at hv
  cases hv

private theorem Schema.conforms_defaultAt (S : Schema) (depth : Nat) {spec : InputSpec} {v : Value}
    (h : S.defaultAt depth spec = some v) : Conforms S v spec.type := by
  induction depth generalizing spec v with
  | zero => cases h
  | succ depth ih =>
      obtain ⟨l, _, hl⟩ := Option.bind_eq_some_iff.1 h
      exact Literal.conforms_readIn (fun _ _ h => ih h) l spec.type v
        (Scope.supplies_of_unset (fun _ => rfl) l spec.type) hl

theorem Schema.scope_defaultsConform (S : Schema) (vars : Option Bindings) :
    (S.scope vars).DefaultsConform :=
  fun _ _ h => S.conforms_defaultAt S.defaultCount h

theorem Literal.conforms_read {S : Schema} {vars : Option Bindings} {l : Literal} {τ : TypeRef}
    {v : Value} (hs : (S.scope vars).Supplies l τ) (h : l.read S vars τ = some v) :
    Conforms S v τ :=
  Literal.conforms_readIn (S.scope_defaultsConform vars) l τ v hs h

theorem Literal.conforms_read_none {S : Schema} {l : Literal} {τ : TypeRef} {v : Value}
    (h : l.read S none τ = some v) : Conforms S v τ :=
  Literal.conforms_read (Scope.supplies_of_unset (fun _ => rfl) l τ) h

end GraphQLInput
