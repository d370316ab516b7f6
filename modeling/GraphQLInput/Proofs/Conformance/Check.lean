import GraphQLInput.Proofs.Checking
import GraphQLInput.Proofs.Conformance.Read
/-!
# Given data is accepted as values of its type

What checking makes of data is a value of the type that it is checked at, and such values are
accepted as they are. Checking an accepted value once more therefore changes nothing.
-/
namespace GraphQLInput

private theorem Scalar.holds_of_check {s : Scalar} {v w : Value} (h : s.check v = .ok w) :
    s.holds w = true := by
  cases s <;> cases v <;> simp only [Scalar.check, reduceCtorEq] at h
  case int.int n =>
    split at h
    · rename_i hn
      cases h
      exact hn
    · cases h
  all_goals
    cases h
    rfl

private theorem Scalar.check_of_holds {s : Scalar} {v : Value} (h : s.holds v = true) :
    s.check v = .ok v := by
  cases s <;> cases v <;> first | rfl | cases h | exact if_pos h

namespace Value

variable {S : Schema}

private theorem conforms_checkNamed {name : String} {v w : Value} (hnull : v ≠ .null)
    (h : (v.checkNamed S name []).value? = some w) : Conforms S w (.named name true) := by
  rcases S.named_cases name with ⟨s, ht, hs⟩ | ⟨ht, hs⟩ | ⟨values, ht⟩ | ⟨hscalar, henum⟩
  · rw [value?_checkNamed_scalar ht hs] at h
    cases hc : s.check v with
    | error why =>
        rw [hc] at h
        cases h
    | ok u =>
        rw [hc] at h
        cases h
        exact .scalar ht hs (Scalar.holds_of_check hc)
  · rw [value?_checkNamed_custom ht hs] at h
    cases h
    exact .custom ht hs hnull
  · rw [value?_checkNamed_enum ht] at h
    cases v with
    | string s =>
        by_cases hs : s ∈ values
        · simp only [hs, if_true, Option.some.injEq] at h
          exact h ▸ .enum ht hs
        · simp [hs] at h
    | _ => cases h
  · rw [value?_checkNamed_other hscalar henum] at h
    cases h

/-- Data is accepted as a value of the type, and as null only where it is null. -/
theorem conforms_accept? (v : Value) (τ : TypeRef) :
    ∀ w, v.accept? S τ = some w → Conforms S w τ ∧ (v ≠ .null → w ≠ .null) := by
  induction v, τ using indAt S with
  | null τ =>
      intro w h
      rw [accept?_null] at h
      exact ⟨.of_null h, fun hv => absurd rfl hv⟩
  | list items item a ih =>
      intro w h
      rw [accept?_list, Option.map_eq_some_iff] at h
      obtain ⟨ws, hws, rfl⟩ := h
      refine ⟨.list fun w hw => ?_, fun _ => Value.noConfusion⟩
      obtain ⟨v, hv, haccept⟩ := exists_of_mapM_eq_some hws hw
      exact (ih v hv w haccept).1
  | object entries τ declared hf ih =>
      intro w h
      rw [accept?_object S entries hf] at h
      split at h
      · obtain ⟨fields, hc, rfl⟩ := Option.map_eq_some_iff.1 h
        refine ⟨Conforms.wrap ?_, fun _ => TypeRef.wrap_ne_null Value.noConfusion τ⟩
        refine Scope.conforms_of_collect (S.scope_defaultsConform none) hf hc ?_
        intro n spec u _ hu
        obtain ⟨v, hv, haccept⟩ := Option.map_eq_some_iff.1 hu
        exact (ih n v spec.type (Entries.mem_of_lookup hv) u haccept).1
      · cases h
  | named v τ hname =>
      intro w h
      rw [accept?_of_checksByName hname, Option.map_eq_some_iff] at h
      obtain ⟨u, hu, rfl⟩ := h
      have hnull : v ≠ .null := by
        rintro rfl
        cases hname
      have hconf := conforms_checkNamed hnull hu
      exact ⟨hconf.wrap, fun _ => TypeRef.wrap_ne_null (hconf.ne_null rfl) τ⟩

end Value

namespace Conforms

variable {S : Schema}

private theorem mapM_accept? {items : List Value} {item : TypeRef}
    (h : ∀ v ∈ items, v.accept? S item = some v) :
    items.mapM (Value.accept? S item) = some items := by
  rw [mapM_eq_some_iff, List.forall₂_same]
  exact h

private theorem collect_acceptReceived {declared : Table InputSpec}
    {entries : List (String × Value)} (hk : (entries.map Prod.fst).Sublist declared.keys)
    (hkept : ∀ n spec, declared.get? n = some spec → spec.isKept = true →
      n ∈ entries.map Prod.fst)
    (haccept : ∀ n v spec, (n, v) ∈ entries → declared.get? n = some spec →
      v.accept? S spec.type = some v) :
    InputSpec.collect (Value.acceptReceived S entries) declared.entries = some entries := by
  have hreceived : ∀ e ∈ declared.entries,
      Value.acceptReceived S entries e.1 e.2 = some (entries.lookup e.1) := by
    intro e he
    have hn : declared.get? e.1 = some e.2 := Table.get?_eq_some_iff.2 he
    rw [Value.acceptReceived]
    cases hl : entries.lookup e.1 with
    | some v =>
        rw [Option.map_some, haccept e.1 v e.2 (Entries.mem_of_lookup hl) hn]
        rfl
    | none =>
        have hnot := mt (hkept e.1 e.2 hn) (Entries.lookup_eq_none_iff.1 hl)
        exact Scope.absent?_of_isKept _ (Bool.not_eq_true _ ▸ hnot)
  rw [InputSpec.collect_eq_some_iff]
  refine ⟨fun e he => by simp [hreceived e he], ?_⟩
  have hjoin : Entries.gather Prod.fst (fun e => (Value.acceptReceived S entries e.1 e.2).join)
      declared.entries = Entries.gather Prod.fst (fun e => entries.lookup e.1) declared.entries :=
    Entries.gather_congr fun e he => by rw [hreceived e he, Option.join_some]
  rw [hjoin, Entries.gather_lookup declared.distinct hk]

/-- A value of a type is accepted there as it is. -/
theorem accept?_eq {v : Value} {τ : TypeRef} (h : Conforms S v τ) : v.accept? S τ = some v := by
  induction h with
  | null hn => simp [Value.accept?_null, hn]
  | list _ ih => rw [Value.accept?_list, mapM_accept? ih, Option.map_some]
  | scalar ht hs hv =>
      rw [Value.accept?_named (Scalar.ne_null_of_holds hv)
          (Schema.inputFields?_eq_none ht fun _ => TypeDef.noConfusion),
        Value.value?_checkNamed_scalar ht hs, Scalar.check_of_holds hv]
      rfl
  | custom ht hs hv =>
      rw [Value.accept?_named hv (Schema.inputFields?_eq_none ht fun _ => TypeDef.noConfusion),
        Value.value?_checkNamed_custom ht hs]
  | enum ht hv =>
      rw [Value.accept?_named Value.noConfusion
          (Schema.inputFields?_eq_none ht fun _ => TypeDef.noConfusion),
        Value.value?_checkNamed_enum ht]
      exact if_pos hv
  | @object name a declared entries hf hk hkept _ ih =>
      have hdeclared : ∀ n ∈ entries.map Prod.fst, declared.contains n = true :=
        fun n hn => Table.contains_iff.2 (hk.subset hn)
      have hbase : S.inputFields? (TypeRef.named name a).base = some declared := hf
      rw [Value.accept?_object S entries hbase, if_pos hdeclared,
        collect_acceptReceived hk hkept ih]
      rfl

end Conforms

end GraphQLInput
