import GraphQLInput.Proofs.Reading
import Mathlib.Data.List.Chain
import Mathlib.Data.List.Perm.Subperm
import Mathlib.Data.Set.Finite.Basic
import Mathlib.Logic.Relation
/-!
# Defaults inside defaults

A default literal may leave out fields that have defaults themselves. Where no default asks for
itself in this way, the number of all defaults is depth enough, and the default of a field is what
its literal is read as without variables. A schema shows this where no cycle of its input object
types goes through a field with a default.
-/
namespace GraphQLInput

/-- The literal, read at the type, asks for the default of the field, which it leaves out. -/
inductive Literal.Consults (S : Schema) (value? : String → Option Value) :
    Literal → TypeRef → InputSpec → Prop
  | absent {fields : List (String × Literal)} {τ : TypeRef} {declared : Table InputSpec}
      {n : String} {spec : InputSpec} :
      S.inputFields? τ.base = some declared → declared.get? n = some spec →
      given? value? fields n = none → spec.default?.isSome = true →
      Consults S value? (.object fields) τ spec
  | field {fields : List (String × Literal)} {τ : TypeRef} {declared : Table InputSpec}
      {n : String} {l : Literal} {spec inner : InputSpec} :
      S.inputFields? τ.base = some declared → declared.get? n = some spec →
      given? value? fields n = some l → Consults S value? l spec.type inner →
      Consults S value? (.object fields) τ inner
  | item {l : Literal} {items : List Literal} {item : TypeRef} {a : Bool} {inner : InputSpec} :
      l ∈ items → Consults S value? l item inner →
      Consults S value? (.list items) (.list item a) inner

/-- The default of the first field asks for that of the second. Defaults see no variable. -/
def InputSpec.Consults (S : Schema) (outer inner : InputSpec) : Prop :=
  ∃ l, outer.default? = some l ∧ l.Consults S (fun _ => none) outer.type inner

namespace Schema

/-- No default asks for itself, at any remove. -/
def DefaultsAcyclic (S : Schema) : Prop :=
  ∀ spec, ¬ Relation.TransGen (InputSpec.Consults S) spec spec

/-- The fields of input objects that have a default. -/
def defaults (S : Schema) : List InputSpec :=
  ((S.types.entries.flatMap fun (_, d) => d.inputFields).filter fun (_, f) =>
    f.default?.isSome).map Prod.snd

theorem length_defaults (S : Schema) : S.defaults.length = S.defaultCount := by
  rw [defaults, List.length_map, defaultCount, List.countP_eq_length_filter]

theorem mem_types_of_inputFields? {S : Schema} {name : String} {declared : Table InputSpec}
    (h : S.inputFields? name = some declared) :
    (name, .inputObject declared) ∈ S.types.entries := by
  rw [inputFields?] at h
  cases ht : S.types.get? name with
  | none =>
      rw [ht] at h
      cases h
  | some d =>
      rw [ht] at h
      cases d with
      | inputObject fields =>
          cases h
          exact Table.get?_eq_some_iff.1 ht
      | _ => cases h

private theorem mem_defaults {S : Schema} {name n : String} {declared : Table InputSpec}
    {spec : InputSpec} (hf : S.inputFields? name = some declared)
    (hn : declared.get? n = some spec) (hd : spec.default?.isSome = true) : spec ∈ S.defaults := by
  have hfield : (n, spec) ∈ S.types.entries.flatMap fun (_, d) => d.inputFields :=
    List.mem_flatMap.2 ⟨_, mem_types_of_inputFields? hf, Table.get?_eq_some_iff.1 hn⟩
  exact List.mem_map.2 ⟨(n, spec), List.mem_filter.2 ⟨hfield, hd⟩, rfl⟩

end Schema

namespace Literal

variable {S : Schema} {value? : String → Option Value}

theorem Consults.single {l : Literal} {item : TypeRef} {a : Bool} {spec : InputSpec}
    (hlist : ∀ items, l ≠ .list items) (h : l.Consults S value? item spec) :
    l.Consults S value? (.list item a) spec := by
  cases h with
  | absent hf hn hg hd => exact .absent hf hn hg hd
  | field hf hn hg hc => exact .field hf hn hg hc
  | item hl hc => exact absurd rfl (hlist _)

private theorem Consults.mem_defaults {l : Literal} {τ : TypeRef} {spec : InputSpec}
    (h : l.Consults S value? τ spec) : spec ∈ S.defaults := by
  induction h with
  | absent hf hn _ hd => exact Schema.mem_defaults hf hn hd
  | field _ _ _ _ ih => exact ih
  | item _ _ ih => exact ih

variable {default? default?' : InputSpec → Option Value}

private theorem received_congr {fields : List (String × Literal)} {name : String} {spec : InputSpec}
    (habsent : given? value? fields name = none → spec.default?.isSome = true →
      default? spec = default?' spec)
    (hgiven : ∀ l, given? value? fields name = some l →
      l.readIn ⟨S, value?, default?⟩ spec.type = l.readIn ⟨S, value?, default?'⟩ spec.type) :
    received ⟨S, value?, default?⟩ fields name spec =
      received ⟨S, value?, default?'⟩ fields name spec := by
  rw [received, received]
  cases hg : given? value? fields name with
  | some l => exact congrArg (Option.map some) (hgiven l hg)
  | none =>
      change Scope.absent? _ spec = Scope.absent? _ spec
      rw [Scope.absent?, Scope.absent?]
      cases hd : spec.default? with
      | none => rfl
      | some l => exact congrArg (Option.map some) (habsent hg (hd ▸ rfl))

/-- A literal is read alike with defaults that agree on those it asks for. -/
private theorem readIn_congr_default (l : Literal) (τ : TypeRef)
    (h : ∀ spec, l.Consults S value? τ spec → default? spec = default?' spec) :
    l.readIn ⟨S, value?, default?⟩ τ = l.readIn ⟨S, value?, default?'⟩ τ := by
  induction l, τ using indAt S with
  | null τ => rfl
  | reference x τ => rfl
  | list items item a ih =>
      rw [readIn_list, readIn_list]
      congr 1
      apply mapM_congr
      intro l hl
      rw [readItem, readItem, ih l hl fun spec hs => h spec (.item hl hs)]
  | object fields τ declared hf ih =>
      rw [readIn_object _ _ hf, readIn_object _ _ hf]
      congr 1
      apply InputSpec.collect_congr
      intro n spec hmem
      have hn : declared.get? n = some spec := Table.get?_eq_some_iff.2 hmem
      apply received_congr
      · exact fun hg hd => h spec (.absent hf hn hg hd)
      · exact fun l hg => ih n l spec.type (mem_of_given? hg) fun inner hi =>
          h inner (.field hf hn hg hi)
  | named l τ hname =>
      rw [readIn_of_readsByName _ hname, readIn_of_readsByName _ hname]
      rfl

end Literal

private theorem InputSpec.Consults.mem_defaults {S : Schema} {outer inner : InputSpec}
    (h : InputSpec.Consults S outer inner) : inner ∈ S.defaults := by
  obtain ⟨l, -, hl⟩ := h
  exact hl.mem_defaults

namespace Schema

variable {S : Schema}

private theorem isSome_of_defaultAt_ne {depth : Nat} {spec : InputSpec}
    (h : S.defaultAt depth spec ≠ S.defaultAt (depth + 1) spec) :
    spec.default?.isSome = true := by
  rw [Option.isSome_iff_ne_none]
  intro hd
  have hnone : ∀ depth, S.defaultAt depth spec = none := by
    intro depth
    cases depth with
    | zero => rfl
    | succ depth => rw [defaultAt, hd, Option.bind_none]
  exact h ((hnone _).trans (hnone _).symm)

/-- Where one more level of defaults makes a difference, defaults ask for each other that deep. -/
private theorem exists_chain_of_defaultAt_ne {depth : Nat} {spec : InputSpec}
    (h : S.defaultAt depth spec ≠ S.defaultAt (depth + 1) spec) :
    ∃ rest : List InputSpec, rest.length = depth ∧
      (spec :: rest).IsChain (InputSpec.Consults S) ∧ ∀ inner ∈ rest, inner ∈ S.defaults := by
  induction depth generalizing spec with
  | zero => exact ⟨[], rfl, .singleton spec, fun _ hm => absurd hm List.not_mem_nil⟩
  | succ depth ih =>
      obtain ⟨l, hl⟩ := Option.isSome_iff_exists.1 (isSome_of_defaultAt_ne h)
      rw [defaultAt, defaultAt, hl, Option.bind_some, Option.bind_some] at h
      -- the literal is the same on both sides, so it asks for a default that makes the difference
      obtain ⟨inner, hinner, hne⟩ : ∃ inner, l.Consults S (fun _ => none) spec.type inner ∧
          S.defaultAt depth inner ≠ S.defaultAt (depth + 1) inner := by
        by_contra hnone
        push Not at hnone
        exact h (Literal.readIn_congr_default l spec.type hnone)
      obtain ⟨rest, hlength, hchain, hmem⟩ := ih hne
      refine ⟨inner :: rest, by rw [List.length_cons, hlength], ?_, ?_⟩
      · exact .cons_cons ⟨l, hl, hinner⟩ hchain
      · exact List.forall_mem_cons.2 ⟨hinner.mem_defaults, hmem⟩

/-- Defaults that ask for each other in a row are all different. -/
private theorem DefaultsAcyclic.nodup_of_chain (hS : S.DefaultsAcyclic) {chain : List InputSpec}
    (h : chain.IsChain (InputSpec.Consults S)) : chain.Nodup := by
  have htrans : chain.IsChain (Relation.TransGen (InputSpec.Consults S)) :=
    h.imp fun _ _ => .single
  refine (List.isChain_iff_pairwise.1 htrans).imp ?_
  rintro outer _ hconsults rfl
  exact hS outer hconsults

/-- Without a cycle of defaults the default of a field is the value of its literal. -/
theorem DefaultsAcyclic.default?_eq (hS : S.DefaultsAcyclic) {name n : String}
    {declared : Table InputSpec} {spec : InputSpec} (hf : S.inputFields? name = some declared)
    (hn : declared.get? n = some spec) :
    S.default? spec = spec.default?.bind fun l => l.read S none spec.type := by
  by_contra hne
  -- the two sides are one level of defaults apart
  have hdeep : S.defaultAt S.defaultCount spec ≠ S.defaultAt (S.defaultCount + 1) spec := hne
  obtain ⟨rest, hlength, hchain, hmem⟩ := exists_chain_of_defaultAt_ne hdeep
  have hsub : spec :: rest ⊆ S.defaults :=
    List.cons_subset.2 ⟨mem_defaults hf hn (isSome_of_defaultAt_ne hdeep), hmem⟩
  have hle := (List.subperm_of_subset (hS.nodup_of_chain hchain) hsub).length_le
  rw [List.length_cons, hlength, length_defaults] at hle
  omega

/-- The default of the second field asks for that of the first, at some remove. -/
def Deeper (S : Schema) (inner outer : {spec // spec ∈ S.defaults}) : Prop :=
  Relation.TransGen (InputSpec.Consults S) outer.1 inner.1

private theorem DefaultsAcyclic.wellFounded_deeper (hS : S.DefaultsAcyclic) :
    WellFounded S.Deeper := by
  have htrans : IsTrans _ S.Deeper := ⟨fun _ _ _ hab hbc => hbc.trans hab⟩
  have hirrefl : Std.Irrefl S.Deeper := ⟨fun spec => hS spec.1⟩
  have hfinite : Finite {spec // spec ∈ S.defaults} := (List.finite_toSet S.defaults).to_subtype
  exact Finite.wellFounded_of_trans_of_irrefl S.Deeper

private theorem DefaultsAcyclic.acc_of_mem (hS : S.DefaultsAcyclic)
    (spec : {spec // spec ∈ S.defaults}) :
    Acc (fun inner outer => InputSpec.Consults S outer inner) spec.1 := by
  induction spec using hS.wellFounded_deeper.induction with
  | h spec ih =>
      constructor
      intro inner hinner
      exact ih ⟨inner, hinner.mem_defaults⟩ (.single hinner)

/-- Defaults ask for each other in no infinite chain. -/
theorem DefaultsAcyclic.wellFounded (hS : S.DefaultsAcyclic) :
    WellFounded fun inner outer => InputSpec.Consults S outer inner := by
  -- only the first of a chain need not be a default itself
  refine ⟨fun spec => ⟨spec, fun inner hinner => ?_⟩⟩
  exact hS.acc_of_mem ⟨inner, hinner.mem_defaults⟩

/-- The second input object type is that of a field of the first, below its levels of list. -/
def Refers (S : Schema) (outer inner : String) : Prop :=
  ∃ declared n spec, S.inputFields? outer = some declared ∧ declared.get? n = some spec ∧
    spec.type.base = inner

/-- No cycle of input object types goes through a field that has a default. -/
def DefaultsOffCycles (S : Schema) : Prop :=
  ∀ name declared n spec, S.inputFields? name = some declared → declared.get? n = some spec →
    spec.default?.isSome = true → ¬ Relation.ReflTransGen S.Refers spec.type.base name

/-- A literal asks for defaults of fields of the types that its own type refers to. -/
theorem exists_refers_of_consults {value? : String → Option Value} {l : Literal} {τ : TypeRef}
    {inner : InputSpec} (h : l.Consults S value? τ inner) :
    ∃ name declared n, S.inputFields? name = some declared ∧ declared.get? n = some inner ∧
      inner.default?.isSome = true ∧ Relation.ReflTransGen S.Refers τ.base name := by
  induction h with
  | absent hf hn _ hd => exact ⟨_, _, _, hf, hn, hd, .refl⟩
  | field hf hn _ _ ih =>
      obtain ⟨name, declared, n, hf', hn', hd, hreach⟩ := ih
      exact ⟨name, declared, n, hf', hn', hd, .head ⟨_, _, _, hf, hn, rfl⟩ hreach⟩
  | item _ _ ih => exact ih

/-- A default that asks for itself is that of a field on a cycle. -/
theorem DefaultsOffCycles.acyclic (hS : S.DefaultsOffCycles) : S.DefaultsAcyclic := by
  have hchain : ∀ {outer inner}, Relation.TransGen (InputSpec.Consults S) outer inner →
      ∃ name declared n, S.inputFields? name = some declared ∧ declared.get? n = some inner ∧
        inner.default?.isSome = true ∧ Relation.ReflTransGen S.Refers outer.type.base name := by
    intro outer inner hc
    induction hc with
    | single hc =>
        obtain ⟨l, -, hl⟩ := hc
        exact exists_refers_of_consults hl
    | tail _ hc ih =>
        obtain ⟨l, -, hl⟩ := hc
        obtain ⟨name, declared, n, hf, hn, -, hreach⟩ := ih
        obtain ⟨name', declared', n', hf', hn', hd', hreach'⟩ := exists_refers_of_consults hl
        have hstep : S.Refers name _ := ⟨declared, n, _, hf, hn, rfl⟩
        exact ⟨name', declared', n', hf', hn', hd', (hreach.tail hstep).trans hreach'⟩
  intro spec hc
  obtain ⟨name, declared, n, hf, hn, hd, hreach⟩ := hchain hc
  exact hS name declared n spec hf hn hd hreach

/-- No cycle goes through a default where the types of fields never rank higher than the object that
declares them, and those of fields with a default rank lower. -/
theorem defaultsOffCycles_of_rank (rank : String → Nat)
    (h : ∀ t ∈ S.types.entries, ∀ f ∈ t.2.inputFields, rank f.2.type.base ≤ rank t.1 ∧
      (f.2.default?.isSome = true → rank f.2.type.base < rank t.1)) : S.DefaultsOffCycles := by
  have hfield : ∀ {name declared n spec}, S.inputFields? name = some declared →
      declared.get? n = some spec → rank spec.type.base ≤ rank name ∧
        (spec.default?.isSome = true → rank spec.type.base < rank name) :=
    fun hf hn => h _ (mem_types_of_inputFields? hf) _ (Table.get?_eq_some_iff.1 hn)
  have hreach : ∀ {outer inner}, Relation.ReflTransGen S.Refers outer inner →
      rank inner ≤ rank outer := by
    intro outer inner hr
    induction hr with
    | refl => exact le_rfl
    | tail _ hstep ih =>
        obtain ⟨declared, n, spec, hf, hn, rfl⟩ := hstep
        exact (hfield hf hn).1.trans ih
  intro name declared n spec hf hn hd hcycle
  have hlower : rank spec.type.base < rank name := (hfield hf hn).2 hd
  have hhigher : rank name ≤ rank spec.type.base := hreach hcycle
  omega

end Schema

end GraphQLInput
