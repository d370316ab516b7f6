import GraphQLInput.Proofs.Acceptance
/-!
# The literals that a type admits

Which literals are valid at a type, said without reference to how they are read. A variable without
a value is valid nowhere by itself; in a list it stands for null, and in an object it is as good as
a field left out. Reading finds a value for just the valid literals.
-/
namespace GraphQLInput

/-- The literals that a built-in scalar admits. A number text denotes a finite number where it can
be read as one. -/
inductive Scalar.Admits : Scalar → Literal → Prop
  | int {text : String} {n : Int} :
      integer? text = some n → -0x80000000 ≤ n → n ≤ 0x7FFFFFFF → Admits .int (.int text)
  | whole {text : String} {x : Binary64} : Binary64.read? text = some x → Admits .float (.int text)
  | float {text : String} {x : Binary64} :
      Binary64.read? text = some x → Admits .float (.float text)
  | string {s : String} : Admits .string (.string s)
  | boolean {b : Bool} : Admits .boolean (.boolean b)
  | name {s : String} : Admits .id (.string s)
  | number {text : String} : Admits .id (.int text)

namespace Literal

/-- The literals that have a value where no type says how to read them. Lists and objects may hold
variables without a value. -/
inductive Plain (value? : String → Option Value) : Literal → Prop
  | null : Plain value? .null
  | reference {x : String} {v : Value} : value? x = some v → Plain value? (.reference x)
  | enum {name : String} : Plain value? (.enum name)
  | string {s : String} : Plain value? (.string s)
  | boolean {b : Bool} : Plain value? (.boolean b)
  | whole {text : String} {n : Int} :
      integer? text = some n → -0x8000000000000000 ≤ n → n < 0x8000000000000000 →
      Plain value? (.int text)
  | int {text : String} {x : Binary64} : Binary64.read? text = some x → Plain value? (.int text)
  | float {text : String} {x : Binary64} :
      Binary64.read? text = some x → Plain value? (.float text)
  | list {items : List Literal} :
      (∀ l ∈ items, l.isUnbound value? = false → Plain value? l) → Plain value? (.list items)
  | object {fields : List (String × Literal)} :
      (∀ n l, (n, l) ∈ fields → l.isUnbound value? = false → Plain value? l) →
      Plain value? (.object fields)

/-- The literals that are valid at a type, with the values of some variables. Only the first field
of each declared name counts, and a default is valid with no variables. -/
inductive Valid (S : Schema) : (String → Option Value) → Literal → TypeRef → Prop
  | null {value? : String → Option Value} {τ : TypeRef} :
      τ.isNonNull = false → Valid S value? .null τ
  | reference {value? : String → Option Value} {x : String} {v : Value} {τ : TypeRef} :
      value? x = some v → (v = .null → τ.isNonNull = false) → Valid S value? (.reference x) τ
  | list {value? : String → Option Value} {items : List Literal} {item : TypeRef} {a : Bool} :
      (∀ l ∈ items, l.isUnbound value? = true → item.isNonNull = false) →
      (∀ l ∈ items, l.isUnbound value? = false → Valid S value? l item) →
      Valid S value? (.list items) (.list item a)
  | single {value? : String → Option Value} {l : Literal} {item : TypeRef} {a : Bool} :
      l ≠ .null → l.referent? = none → (∀ items, l ≠ .list items) → Valid S value? l item →
      Valid S value? l (.list item a)
  | scalar {value? : String → Option Value} {name : String} {a : Bool} {s : Scalar}
      {l : Literal} :
      S.types.get? name = some .scalar → Scalar.ofName? name = some s → s.Admits l →
      Valid S value? l (.named name a)
  | custom {value? : String → Option Value} {name : String} {a : Bool} {l : Literal} :
      S.types.get? name = some .scalar → Scalar.ofName? name = none → l ≠ .null →
      l.referent? = none → l.Plain value? → Valid S value? l (.named name a)
  | enum {value? : String → Option Value} {name value : String} {a : Bool}
      {values : List String} :
      S.types.get? name = some (.enum values) → value ∈ values →
      Valid S value? (.enum value) (.named name a)
  | object {value? : String → Option Value} {name : String} {a : Bool}
      {declared : Table InputSpec} {fields : List (String × Literal)} :
      S.inputFields? name = some declared →
      (∀ n spec l, declared.get? n = some spec → given? value? fields n = some l →
        Valid S value? l spec.type) →
      (∀ n spec l, declared.get? n = some spec → given? value? fields n = none →
        spec.default? = some l → Valid S (fun _ => none) l spec.type) →
      (∀ n spec, declared.get? n = some spec → given? value? fields n = none →
        spec.default? = none → spec.type.isNonNull = false) →
      Valid S value? (.object fields) (.named name a)

end Literal

theorem Literal.wholeNumber?_eq_some_iff {text : String} {n : WholeNumber} :
    Literal.wholeNumber? text = some n ↔
      integer? text = some n.val ∧ n.val < 0x8000000000000000 := by
  rw [wholeNumber?]
  constructor
  · intro h
    obtain ⟨i, hi, hn⟩ := Option.bind_eq_some_iff.1 h
    obtain ⟨htext, hbound⟩ := Option.filter_eq_some_iff.1 hi
    obtain rfl := WholeNumber.val_of_ofInt? hn
    exact ⟨htext, of_decide_eq_true hbound⟩
  · rintro ⟨htext, hbound⟩
    rw [htext, Option.filter_some, if_pos (decide_eq_true hbound), Option.bind_some,
      WholeNumber.ofInt?_val]

/-- Whole numbers of 64 bits with a sign are those that the text of a number can denote exactly. -/
theorem Literal.isSome_wholeNumber?_iff {text : String} :
    (Literal.wholeNumber? text).isSome = true ↔
      ∃ n, integer? text = some n ∧ -0x8000000000000000 ≤ n ∧ n < 0x8000000000000000 := by
  rw [Option.isSome_iff_exists]
  constructor
  · rintro ⟨n, hn⟩
    obtain ⟨htext, hbound⟩ := wholeNumber?_eq_some_iff.1 hn
    exact ⟨n.val, htext, n.lower, hbound⟩
  · rintro ⟨n, htext, hlower, hupper⟩
    exact ⟨⟨n, hlower, by omega⟩, wholeNumber?_eq_some_iff.2 ⟨htext, hupper⟩⟩

private theorem Scalar.admits_iff {s : Scalar} {l : Literal} :
    s.Admits l ↔ (s.read? l).isSome = true := by
  constructor
  · intro h
    cases h with
    | @int text n htext hlower hupper =>
        let whole : WholeNumber := ⟨n, by omega, by omega⟩
        have hn : Literal.wholeNumber? text = some whole :=
          Literal.wholeNumber?_eq_some_iff.2 ⟨htext, by change n < _; omega⟩
        have hfits : whole.fits32 = true := WholeNumber.fits32_iff.2 ⟨hlower, hupper⟩
        rw [read?, hn, Option.filter_some, if_pos hfits]
        rfl
    | whole hx => simp [read?, hx]
    | float hx => simp [read?, hx]
    | _ => rfl
  · intro h
    cases s <;> cases l <;> try cases h
    case int.int text =>
      rw [read?, Option.isSome_map, Option.isSome_iff_exists] at h
      obtain ⟨n, hn⟩ := h
      obtain ⟨hn, hfits⟩ := Option.filter_eq_some_iff.1 hn
      obtain ⟨hlower, hupper⟩ := WholeNumber.fits32_iff.1 hfits
      exact .int (Literal.wholeNumber?_eq_some_iff.1 hn).1 hlower hupper
    case float.int text =>
      rw [read?, Option.isSome_map, Option.isSome_iff_exists] at h
      exact .whole h.choose_spec
    case float.float text =>
      rw [read?, Option.isSome_map, Option.isSome_iff_exists] at h
      exact .float h.choose_spec
    all_goals constructor

namespace Literal

private theorem plain_iff {value? : String → Option Value} {l : Literal} :
    l.Plain value? ↔ (l.untyped value?).isSome = true := by
  constructor
  · intro h
    induction h with
    | reference hx => simp [untyped, hx]
    | @whole text n htext hlower hupper =>
        have hn : (wholeNumber? text).isSome = true :=
          isSome_wholeNumber?_iff.2 ⟨n, htext, hlower, hupper⟩
        obtain ⟨whole, hwhole⟩ := Option.isSome_iff_exists.1 hn
        rw [untyped, hwhole]
        rfl
    | @int text x hx =>
        rw [untyped]
        cases wholeNumber? text <;> simp [hx]
    | float hx => simp [untyped, hx]
    | list _ ih =>
        rw [untyped_list, Option.isSome_map, isSome_mapM_iff]
        intro l hl
        rw [untypedItem]
        split
        · rfl
        · rename_i hbound
          exact ih l hl (Bool.eq_false_iff.2 hbound)
    | object _ ih =>
        rw [untyped_object, Option.isSome_map, isSome_mapM_iff]
        intro f hf
        obtain ⟨hf, hbound⟩ := List.mem_filter.1 hf
        rw [untypedField, Option.isSome_map]
        exact ih f.1 f.2 hf (by simpa using hbound)
    | _ => rfl
  · intro h
    induction l with
    | reference x =>
        obtain ⟨v, hv⟩ := Option.isSome_iff_exists.1 h
        exact .reference hv
    | int text =>
        rw [untyped] at h
        cases hn : wholeNumber? text with
        | some n =>
            obtain ⟨htext, hupper⟩ := wholeNumber?_eq_some_iff.1 hn
            exact .whole htext n.lower hupper
        | none =>
            rw [hn, Option.isSome_map, Option.isSome_iff_exists] at h
            exact .int h.choose_spec
    | float text =>
        rw [untyped, Option.isSome_map, Option.isSome_iff_exists] at h
        exact .float h.choose_spec
    | list items ih =>
        rw [untyped_list, Option.isSome_map, isSome_mapM_iff] at h
        apply Plain.list
        intro l hl hbound
        have hitem := h l hl
        rw [untypedItem, if_neg (by simp [hbound])] at hitem
        exact ih l hl hitem
    | object fields ih =>
        rw [untyped_object, Option.isSome_map, isSome_mapM_iff] at h
        apply Plain.object
        intro n l hl hbound
        have hfield := h (n, l) (List.mem_filter.2 ⟨hl, by simp [hbound]⟩)
        rw [untypedField, Option.isSome_map] at hfield
        exact ih n l hl hfield
    | _ => constructor

variable {scope : Scope}

private theorem valid_of_readNamed {name : String} {a : Bool} {l : Literal} (hnull : l ≠ .null)
    (href : l.referent? = none) (h : (l.readNamed scope name).isSome = true) :
    l.Valid scope.schema scope.value? (.named name a) := by
  rcases scope.schema.named_cases name with
    ⟨s, ht, hs⟩ | ⟨ht, hs⟩ | ⟨values, ht⟩ | ⟨hscalar, henum⟩
  · rw [readNamed_scalar ht hs] at h
    exact .scalar ht hs (Scalar.admits_iff.2 h)
  · rw [readNamed_custom ht hs] at h
    exact .custom ht hs hnull href (plain_iff.2 h)
  · rw [readNamed_enum ht] at h
    cases l with
    | enum value =>
        by_cases hv : value ∈ values
        · exact .enum ht hv
        · simp [hv] at h
    | _ => cases h
  · rw [readNamed_other hscalar henum] at h
    cases h

/-- What is read where the defaults are valid is valid itself. -/
private theorem valid_of_readIn (scope : Scope)
    (hdefault : ∀ spec l, spec.default? = some l → (scope.default? spec).isSome = true →
      l.Valid scope.schema (fun _ => none) spec.type) (l : Literal) (τ : TypeRef) :
    (l.readIn scope τ).isSome = true → l.Valid scope.schema scope.value? τ := by
  induction l, τ using indDown scope.schema with
  | null τ =>
      intro h
      rw [readIn] at h
      apply Valid.null
      by_contra hn
      simp [hn] at h
  | reference x τ =>
      intro h
      obtain ⟨v, hv⟩ := Option.isSome_iff_exists.1 h
      rw [readIn, Option.filter_eq_some_iff] at hv
      refine .reference hv.1 ?_
      rintro rfl
      simpa [Value.isNull] using hv.2
  | list items item a ih =>
      intro h
      rw [readIn_list, Option.isSome_map, isSome_mapM_iff] at h
      constructor
      · intro l hl hunbound
        have hitem := h l hl
        rw [readItem, if_pos hunbound] at hitem
        by_contra hn
        simp [hn] at hitem
      · intro l hl hbound
        have hitem := h l hl
        rw [readItem, if_neg (Bool.eq_false_iff.1 hbound)] at hitem
        exact ih l hl hitem
  | single l item a hnull href hlist ih =>
      intro h
      rw [readIn_single scope hnull href hlist, Option.isSome_map] at h
      exact .single hnull href hlist (ih h)
  | object fields name a declared hf ih =>
      intro h
      have hbase : scope.schema.inputFields? (TypeRef.named name a).base = some declared := hf
      rw [readIn_object scope fields hbase, Option.isSome_map, InputSpec.isSome_collect_iff] at h
      have hreceived : ∀ n spec, declared.get? n = some spec →
          (received scope fields n spec).isSome = true :=
        fun n spec hn => h (n, spec) (Table.get?_eq_some_iff.1 hn)
      refine .object hf ?_ ?_ ?_
      · intro n spec l hn hg
        have hl := hreceived n spec hn
        rw [received, hg, Option.map_some, Scope.receive, Option.isSome_map] at hl
        exact ih n l spec.type (mem_of_given? hg) hl
      · intro n spec l hn hg hd
        have hl := hreceived n spec hn
        rw [received, hg, Option.map_none, Scope.receive, Scope.absent?, hd,
          Option.isSome_map] at hl
        exact hdefault spec l hd hl
      · intro n spec hn hg hd
        have hl := hreceived n spec hn
        rw [received, hg, Option.map_none, Scope.receive, Scope.absent?, hd] at hl
        by_contra hnull
        simp [hnull] at hl
  | named l name a hname =>
      intro h
      rw [readIn_of_readsByName scope hname, Option.isSome_map] at h
      have hnull : l ≠ .null := by
        rintro rfl
        cases hname
      exact valid_of_readNamed hnull (referent?_of_readsByName hname) h

private theorem valid_of_defaultAt (S : Schema) (depth : Nat) {spec : InputSpec} {l : Literal}
    (hd : spec.default? = some l) (h : (S.defaultAt depth spec).isSome = true) :
    l.Valid S (fun _ => none) spec.type := by
  induction depth generalizing spec l with
  | zero => cases h
  | succ depth ih =>
      rw [Schema.defaultAt, hd, Option.bind_some] at h
      exact valid_of_readIn ⟨S, fun _ => none, S.defaultAt depth⟩ (fun _ _ hd' h' => ih hd' h') l
        spec.type h

/-- Valid literals have a value. -/
private theorem Valid.isSome_readIn {S : Schema} (hS : S.DefaultsAcyclic)
    {value? : String → Option Value} {l : Literal} {τ : TypeRef} (h : l.Valid S value? τ) :
    (l.readIn ⟨S, value?, S.default?⟩ τ).isSome = true := by
  induction h with
  | null hn => simp [readIn, hn]
  | @reference value? x v τ hx hv =>
      have hbound : (⟨S, value?, S.default?⟩ : Scope).value? x = some v := hx
      have hkept : (!(v.isNull && τ.isNonNull)) = true := by
        cases hnull : v.isNull with
        | false => rfl
        | true => simp [hv (Value.isNull_iff.1 hnull)]
      rw [readIn, hbound, Option.filter_some, if_pos hkept]
      rfl
  | list hunbound _ ih =>
      rw [readIn_list, Option.isSome_map, isSome_mapM_iff]
      intro l hl
      rw [readItem]
      split
      · rename_i h
        simp [hunbound l hl h]
      · rename_i h
        exact ih l hl (Bool.eq_false_iff.2 h)
  | single hnull href hlist _ ih => rwa [readIn_single _ hnull href hlist, Option.isSome_map]
  | @scalar value? name a s l ht hs h =>
      have hnull : l ≠ .null := by
        rintro rfl
        cases h
      have href : l.referent? = none := by cases h <;> rfl
      rw [readIn_named _ hnull href (Schema.inputFields?_eq_none ht fun _ => TypeDef.noConfusion),
        readNamed_scalar ht hs]
      exact Scalar.admits_iff.1 h
  | custom ht hs hnull href h =>
      rw [readIn_named _ hnull href (Schema.inputFields?_eq_none ht fun _ => TypeDef.noConfusion),
        readNamed_custom ht hs]
      exact plain_iff.1 h
  | enum ht hv =>
      rw [readIn_named _ Literal.noConfusion rfl
          (Schema.inputFields?_eq_none ht fun _ => TypeDef.noConfusion),
        readNamed_enum ht]
      simp [hv]
  | @object value? name a declared fields hf _ _ hunset ihgiven ihdefault =>
      have hbase : S.inputFields? (TypeRef.named name a).base = some declared := hf
      rw [readIn_object _ fields hbase, Option.isSome_map, InputSpec.isSome_collect_iff]
      rintro ⟨n, spec⟩ hmem
      have hn : declared.get? n = some spec := Table.get?_eq_some_iff.2 hmem
      rw [received]
      cases hg : given? value? fields n with
      | some l => simpa [Scope.receive] using ihgiven n spec l hn hg
      | none =>
          rw [Option.map_none, Scope.receive, Scope.absent?]
          cases hd : spec.default? with
          | none => simp [hunset n spec hn hg hd]
          | some l =>
              have hread : (l.read S none spec.type).isSome = true := ihdefault n spec l hn hg hd
              simpa [hS.default?_eq hf hn, hd] using hread

end Literal

namespace Sample

/-- One variable has a value, and is used as the second of two legs. -/
def known : Bindings :=
  ⟨[("home", .object [])], by decide⟩

/-- A trip with a field too many, a repeated one, and variables without a value where a default, a
null or nothing stands for them. -/
def plan : Literal :=
  .object [("via", .reference "far"),
    ("legs", .list [.object [("start", .reference "far")], .reference "home"]), ("legs", .int "1"),
    ("start", .object [("id", .int "5"), ("note", .list [.reference "far", .int "7"])])]

def planned : Value :=
  .list [.object
    [("start", .object [("id", .string "5"), ("size", .int one), ("unit", .string "KM"),
      ("note", .list [.null, .int seven])]),
     ("legs", .list [.object [("start", harbour)], .object []])]]

end Sample

namespace Literal

variable {S : Schema}

/-- Reading finds a value for the literals that are valid at the type, and for no others. -/
theorem exists_read_iff_valid (hS : S.DefaultsAcyclic) (vars : Option Bindings) (τ : TypeRef)
    (l : Literal) :
    (∃ v, l.read S vars τ = some v) ↔ l.Valid S (fun x => vars.bind (·.get? x)) τ := by
  rw [← Option.isSome_iff_exists]
  constructor
  · intro h
    have hdefault : ∀ spec l, spec.default? = some l → (S.default? spec).isSome = true →
        l.Valid S (fun _ => none) spec.type :=
      fun _ _ hd h => valid_of_defaultAt S S.defaultCount hd h
    exact valid_of_readIn (S.scope vars) hdefault l τ h
  · intro h
    exact h.isSome_readIn hS

theorem exists_read_iff_valid_sample :
    Sample.voyages.DefaultsAcyclic ∧
      Sample.plan.read Sample.voyages (some Sample.known) Sample.journeys = some Sample.planned ∧
      ((∃ v, Sample.plan.read Sample.voyages (some Sample.known) Sample.journeys = some v) ↔
        Sample.plan.Valid Sample.voyages (fun x => (some Sample.known).bind (·.get? x))
          Sample.journeys) :=
  ⟨Sample.defaultsAcyclic_voyages, rfl, exists_read_iff_valid Sample.defaultsAcyclic_voyages _ _ _⟩

end Literal

end GraphQLInput
