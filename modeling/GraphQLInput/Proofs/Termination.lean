import GraphQLInput.Proofs.Acceptance
import GraphQLInput.Proofs.Recursion
import Mathlib.Logic.Function.Iterate
import Mathlib.Order.RelClasses
/-!
# Every call comes to its end

The default of a field that is left out is a literal that has nothing to do with the one that leaves
it out, so neither literals nor types get smaller from call to call. Still no chain of calls goes on
for ever where no default asks for itself, as where no cycle of input object types goes through a
field that has a default. What is returned depends on the calls up to some depth only.
-/
namespace GraphQLInput

namespace Task

/-- The second call makes the first. -/
def Below (S : Schema) (inner outer : Task) : Prop :=
  inner ∈ outer.calls S

section Chains

variable {S : Schema} {vars : Option Bindings}

private theorem acc_of_calls_eq_nil {t : Task} (h : t.calls S = []) : Acc (Below S) t := by
  constructor
  intro inner hinner
  rw [Below, h] at hinner
  exact absurd hinner List.not_mem_nil

private theorem acc_untyped (l : Literal) : Acc (Below S) (.untyped vars l) := by
  induction l with
  | list items ih =>
      constructor
      intro inner hinner
      obtain ⟨l, hl, rfl⟩ := List.mem_map.1 hinner
      exact ih l (List.mem_of_mem_filter hl)
  | object fields ih =>
      constructor
      intro inner hinner
      obtain ⟨⟨n, l⟩, hl, rfl⟩ := List.mem_map.1 hinner
      exact ih n l (List.mem_of_mem_filter hl)
  | _ => exact acc_of_calls_eq_nil rfl

private theorem acc_of_mem_namedCalls {name : String} {l : Literal} {inner : Task}
    (h : inner ∈ namedCalls S vars name l) : Acc (Below S) inner := by
  rw [namedCalls] at h
  split at h
  · rw [List.mem_singleton] at h
    exact h ▸ acc_untyped l
  · cases h

/-- Calls go on for ever only by way of a default. -/
private theorem acc_read_of_defaults (l : Literal) (τ : TypeRef) :
    (∀ spec d, l.Consults S (S.scope vars).value? τ spec → spec.default? = some d →
      Acc (Below S) (.read none d spec.type)) → Acc (Below S) (.read vars l τ) := by
  induction l, τ using Literal.indDown S with
  | null τ => exact fun _ => acc_of_calls_eq_nil rfl
  | reference x τ => exact fun _ => acc_of_calls_eq_nil rfl
  | list items item a ih =>
      intro h
      constructor
      intro inner hinner
      obtain ⟨l, hl, rfl⟩ := List.mem_map.1 hinner
      have hl : l ∈ items := List.mem_of_mem_filter hl
      exact ih l hl fun spec d hc => h spec d (.item hl hc)
  | single l item a hnull href hlist ih =>
      intro h
      constructor
      intro inner hinner
      rw [Below, calls, readCalls_single hnull href hlist, List.mem_singleton] at hinner
      subst hinner
      exact ih fun spec d hc => h spec d (hc.single hlist)
  | object fields name a declared hf ih =>
      intro h
      constructor
      intro inner hinner
      rw [Below, calls, readCalls, hf] at hinner
      obtain ⟨⟨n, spec⟩, hmem, hcall⟩ := List.mem_filterMap.1 hinner
      have hn : declared.get? n = some spec := Table.get?_eq_some_iff.2 hmem
      simp only [fieldCall?] at hcall
      cases hg : Literal.given? (S.scope vars).value? fields n with
      | some l =>
          rw [hg] at hcall
          cases hcall
          exact ih n l spec.type (Literal.mem_of_given? hg) fun spec' d hc =>
            h spec' d (.field hf hn hg hc)
      | none =>
          rw [hg] at hcall
          obtain ⟨d, hd, rfl⟩ := Option.map_eq_some_iff.1 hcall
          exact h spec d (.absent hf hn hg (by simp [hd])) hd
  | named l name a hname =>
      intro _
      constructor
      intro inner hinner
      rw [Below, calls, readCalls_named hname] at hinner
      exact acc_of_mem_namedCalls hinner

private theorem acc_read (hS : S.DefaultsAcyclic) (l : Literal) (τ : TypeRef) :
    Acc (Below S) (.read vars l τ) := by
  have hdefault : ∀ (spec : InputSpec) (d : Literal), spec.default? = some d →
      Acc (Below S) (.read none d spec.type) := by
    intro spec
    -- neither the literal nor the type gets smaller here, but the defaults have an order of their own
    induction spec using hS.wellFounded.induction with
    | h spec ih =>
        intro d hd
        apply acc_read_of_defaults
        exact fun inner d' hc => ih inner ⟨d, hd, hc⟩ d'
  exact acc_read_of_defaults l τ fun spec d _ hd => hdefault spec d hd

private theorem acc_check (hS : S.DefaultsAcyclic) (v : Value) (τ : TypeRef) :
    ∀ place, Acc (Below S) (.check place v τ) := by
  induction v, τ using Value.indDown S with
  | null τ => exact fun _ => acc_of_calls_eq_nil rfl
  | list items item a ih =>
      intro place
      constructor
      intro inner hinner
      obtain ⟨e, he, rfl⟩ := List.mem_map.1 hinner
      exact ih e.1 (List.fst_mem_of_mem_zipIdx he) _
  | single v item a hv hlist ih =>
      intro place
      constructor
      intro inner hinner
      rw [Below, calls, checkCalls_single hv hlist, List.mem_singleton] at hinner
      exact hinner ▸ ih place
  | object entries name a declared hf ih =>
      intro place
      constructor
      intro inner hinner
      rw [Below, calls, checkCalls, hf] at hinner
      obtain ⟨⟨n, spec⟩, -, hcall⟩ := List.mem_filterMap.1 hinner
      simp only [entryCall?] at hcall
      cases hl : entries.lookup n with
      | some v =>
          rw [hl] at hcall
          cases hcall
          exact ih n v spec.type (Entries.mem_of_lookup hl) _
      | none =>
          rw [hl] at hcall
          obtain ⟨d, -, rfl⟩ := Option.map_eq_some_iff.1 hcall
          exact acc_read hS d spec.type
  | named v name a hname =>
      exact fun place => acc_of_calls_eq_nil (checkCalls_named hname place)

/-- No chain of calls goes on for ever. -/
theorem wellFounded_below (hS : S.DefaultsAcyclic) : WellFounded (Below S) := by
  constructor
  intro t
  cases t with
  | untyped vars l => exact acc_untyped l
  | read vars l τ => exact acc_read hS l τ
  | check place v τ => exact acc_check hS v τ place

/-- A default that a literal asks for is read in its course. -/
private theorem transGen_below_of_consults {l d : Literal} {τ : TypeRef} {spec : InputSpec}
    (h : l.Consults S (S.scope vars).value? τ spec) (hd : spec.default? = some d) :
    Relation.TransGen (Below S) (.read none d spec.type) (.read vars l τ) := by
  have hlevel : ∀ {t : Task} {fields : List (String × Literal)} {item : TypeRef} {a : Bool},
      Relation.TransGen (Below S) t (.read vars (.object fields) item) →
        Relation.TransGen (Below S) t (.read vars (.object fields) (.list item a)) :=
    fun h => h.tail (List.mem_singleton_self _)
  induction h with
  | @absent fields τ declared n spec hf hn hg _ =>
      induction τ with
      | list item a ih => exact hlevel (ih hf)
      | named name a =>
          have hcall : fieldCall? S vars fields n spec = some (.read none d spec.type) := by
            rw [fieldCall?, hg, hd]
            rfl
          exact .single (mem_readCalls_object (a := a) hf hn hcall)
  | @field fields τ declared n l spec inner hf hn hg _ ih =>
      induction τ with
      | list item a ihitem => exact hlevel (ihitem hf)
      | named name a =>
          have hcall : fieldCall? S vars fields n spec = some (.read vars l spec.type) := by
            rw [fieldCall?, hg]
          exact (ih hd).tail (mem_readCalls_object (a := a) hf hn hcall)
  | @item l items item a inner hl hc ih =>
      have hbound : (!l.isUnbound (S.scope vars).value?) = true := by cases hc <;> rfl
      exact (ih hd).tail (List.mem_map.2 ⟨l, List.mem_filter.2 ⟨hl, hbound⟩, rfl⟩)

private theorem exists_below_of_consults {outer inner : InputSpec} {l : Literal}
    (h : InputSpec.Consults S outer inner) (hl : outer.default? = some l) :
    ∃ d, inner.default? = some d ∧
      Relation.TransGen (Below S) (.read none d inner.type) (.read none l outer.type) := by
  obtain ⟨l', hl', hc⟩ := h
  obtain rfl : l = l' := Option.some.inj (hl.symm.trans hl')
  obtain ⟨_, _, _, _, _, hsome, _⟩ := Schema.exists_refers_of_consults hc
  obtain ⟨d, hd⟩ := Option.isSome_iff_exists.1 hsome
  exact ⟨d, hd, transGen_below_of_consults hc hd⟩

/-- Some chain of calls goes on for ever where a default asks for itself, and only there. -/
theorem wellFounded_below_iff : WellFounded (Below S) ↔ S.DefaultsAcyclic := by
  constructor
  · intro hwf spec hcycle
    have hchain : ∀ {outer inner : InputSpec},
        Relation.TransGen (InputSpec.Consults S) outer inner → ∀ l, outer.default? = some l →
          ∃ d, inner.default? = some d ∧
            Relation.TransGen (Below S) (.read none d inner.type) (.read none l outer.type) := by
      intro outer inner hc
      induction hc with
      | single hc =>
          intro l hl
          exact exists_below_of_consults hc hl
      | tail _ hc ih =>
          intro l hl
          obtain ⟨d, hd, hbelow⟩ := ih l hl
          obtain ⟨d', hd', hbelow'⟩ := exists_below_of_consults hc hd
          exact ⟨d', hd', hbelow'.trans hbelow⟩
    obtain ⟨l, hl⟩ : ∃ l, spec.default? = some l := by
      obtain ⟨_, ⟨l, hl, -⟩, -⟩ := Relation.TransGen.head'_iff.1 hcycle
      exact ⟨l, hl⟩
    obtain ⟨d, hd, hbelow⟩ := hchain hcycle l hl
    obtain rfl : l = d := Option.some.inj (hl.symm.trans hd)
    exact hwf.transGen.asymmetric _ _ hbelow hbelow
  · exact wellFounded_below

end Chains

section Depth

variable {S : Schema}

/-- Deeper calls return the same. -/
private theorem iterate_step_of_le {t : Task} {depth depth' : Nat} (hle : depth ≤ depth')
    (h : ∀ call, (step S)^[depth] call t = t.result S) (call : (t : Task) → t.Result) :
    (step S)^[depth'] call t = t.result S := by
  obtain ⟨k, rfl⟩ := Nat.exists_eq_add_of_le hle
  rw [Function.iterate_add_apply]
  exact h _

private theorem exists_common_depth {ts : List Task}
    (h : ∀ t ∈ ts, ∃ depth, ∀ call, (step S)^[depth] call t = t.result S) :
    ∃ depth, ∀ t ∈ ts, ∀ call, (step S)^[depth] call t = t.result S := by
  induction ts with
  | nil => exact ⟨0, fun _ hm => absurd hm List.not_mem_nil⟩
  | cons t ts ih =>
      rw [List.forall_mem_cons] at h
      obtain ⟨depth, hdepth⟩ := h.1
      obtain ⟨depth', hdepth'⟩ := ih h.2
      refine ⟨max depth depth', List.forall_mem_cons.2 ⟨?_, fun t ht => ?_⟩⟩
      · exact iterate_step_of_le (Nat.le_max_left _ _) hdepth
      · exact iterate_step_of_le (Nat.le_max_right _ _) (hdepth' t ht)

/-- What a call returns is settled at some depth, whatever deeper calls may return. -/
private theorem exists_depth (hS : S.DefaultsAcyclic) (t : Task) :
    ∃ depth, ∀ call, (step S)^[depth] call t = t.result S := by
  induction t using (wellFounded_below hS).induction with
  | h t ih =>
      obtain ⟨depth, hdepth⟩ := exists_common_depth ih
      refine ⟨depth + 1, fun call => ?_⟩
      rw [Function.iterate_succ_apply', result_eq_step hS t]
      exact step_congr fun inner hinner => hdepth inner hinner call

/-- Where no cycle of input object types goes through a default, no chain of calls goes on for ever:
every literal is read, and all data is checked, within some depth of calls. -/
theorem returns_of_defaultsOffCycles (hS : S.DefaultsOffCycles) :
    WellFounded (Below S) ∧
      (∀ (vars : Option Bindings) (l : Literal) (τ : TypeRef), ∃ depth, ∀ call,
        (step S)^[depth] call (.read vars l τ) = l.read S vars τ) ∧
      ∀ (place : Path) (v : Value) (τ : TypeRef), ∃ depth, ∀ call,
        (step S)^[depth] call (.check place v τ) = v.checkAt S τ place := by
  refine ⟨wellFounded_below hS.acyclic, ?_, ?_⟩
  · intro vars l τ
    exact exists_depth hS.acyclic (.read vars l τ)
  · intro place v τ
    exact exists_depth hS.acyclic (.check place v τ)

theorem returns_of_defaultsOffCycles_sample :
    Sample.voyages.DefaultsOffCycles ∧ WellFounded (Below Sample.voyages) ∧
      (∃ depth, ∀ call, (step Sample.voyages)^[depth] call
        (.read none (.object [("id", .string "A")]) (.named "Place" true)) = some Sample.harbour) ∧
      ∃ depth, ∀ call,
        (step Sample.voyages)^[depth] call (.check [] Sample.journey Sample.journeys) = .ok
          (.list [.object [("start", Sample.harbour),
          ("legs", .list [.object [("start", Sample.harbour)]])]]) :=
  have h := returns_of_defaultsOffCycles Sample.defaultsOffCycles_voyages
  ⟨Sample.defaultsOffCycles_voyages, h.1, h.2.1 _ _ _, h.2.2 _ _ _⟩

end Depth

end Task

end GraphQLInput
