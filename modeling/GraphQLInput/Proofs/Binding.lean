import GraphQLInput.Proofs.Entries
import GraphQLInput.Proofs.Limit
import GraphQLInput.Request
import GraphQLInput.Signature
/-!
# What a binding holds

Declared variables and the parameters of a signature are bound one after the other. A binding that
succeeds holds the entries of its declarations in their order, each as the declaration alone makes
it, whatever the primitives are that single values are read with.
-/
namespace GraphQLInput

namespace Table

variable {α β : Type}

/-- The table with one more entry, if there is one. -/
def extend (t : Table α) (name : String) (a : Option α) : Table α :=
  match a with
  | some a => t.insert name a
  | none => t

private theorem entries_extend {t : Table α} {name : String} (a : Option α) (h : name ∉ t.keys) :
    (t.extend name a).entries = t.entries ++ (a.map (name, ·)).toList := by
  cases a with
  | none => exact (List.append_nil _).symm
  | some a => exact Entries.insert_of_notMem h

private theorem keys_extend_subset {t : Table α} {name n : String} {a : Option α}
    (h : n ∈ (t.extend name a).keys) : n ∈ t.keys ∨ n = name := by
  cases a with
  | none => exact .inl h
  | some a =>
      have hk : (t.insert name a).keys = _ := Entries.keys_insert name a t.entries
      rw [extend, hk] at h
      split at h
      · exact .inl h
      · exact (List.mem_append.1 h).imp_right List.mem_singleton.1

/-- Distinct names that are all new receive their entries at the end, in order. -/
private theorem entries_foldl_extend {name : β → String} {value? : β → Option α} {xs : List β}
    (t : Table α) (hd : (xs.map name).Nodup) (hnew : ∀ x ∈ xs, name x ∉ t.keys) :
    (xs.foldl (fun t x => t.extend (name x) (value? x)) t).entries =
      t.entries ++ Entries.gather name value? xs := by
  induction xs generalizing t with
  | nil => exact (List.append_nil _).symm
  | cons x xs ih =>
      rw [List.map_cons, List.nodup_cons] at hd
      rw [List.forall_mem_cons] at hnew
      have hnew' : ∀ y ∈ xs, name y ∉ (t.extend (name x) (value? x)).keys := by
        intro y hy hm
        rcases keys_extend_subset hm with hm | hm
        · exact hnew.2 y hy hm
        · exact hd.1 (hm ▸ List.mem_map_of_mem hy)
      rw [List.foldl_cons, ih _ hd.2 hnew', entries_extend _ hnew.1, Entries.gather_cons,
        List.append_assoc]

theorem keys_foldl_extend_subset {name : β → String} {value? : β → Option α} {xs : List β}
    {t : Table α} {n : String}
    (h : n ∈ (xs.foldl (fun t x => t.extend (name x) (value? x)) t).keys) :
    n ∈ t.keys ∨ n ∈ xs.map name := by
  induction xs generalizing t with
  | nil => exact .inl h
  | cons x xs ih =>
      rw [List.map_cons, List.mem_cons]
      rcases ih h with hn | hn
      · exact (keys_extend_subset hn).imp_right .inl
      · exact .inr (.inr hn)

private theorem entries_extend_append {front : List (String × α)} {t u : Table α} {name : String}
    (a : Option α) (htu : t.entries = front ++ u.entries) (h : name ∉ front.map Prod.fst) :
    (t.extend name a).entries = front ++ (u.extend name a).entries := by
  cases a with
  | none => exact htu
  | some a =>
      rw [extend, extend, entries_insert, entries_insert, htu, Entries.insert_append_of_notMem h]

/-- Entries of other names in front stay there, and change nothing behind. -/
theorem entries_foldl_extend_append {name : β → String} {value? : β → Option α} {xs : List β}
    {front : List (String × α)} {t u : Table α} (htu : t.entries = front ++ u.entries)
    (h : ∀ x ∈ xs, name x ∉ front.map Prod.fst) :
    (xs.foldl (fun t x => t.extend (name x) (value? x)) t).entries =
      front ++ (xs.foldl (fun t x => t.extend (name x) (value? x)) u).entries := by
  induction xs generalizing t u with
  | nil => exact htu
  | cons x xs ih =>
      rw [List.forall_mem_cons] at h
      exact ih (entries_extend_append _ htu h.1) h.2

end Table

namespace VariableDecl

variable {S : Schema} {primitives : Primitives} {given : Bindings} {d : VariableDecl}

theorem bind_of_notInput (hi : (S.inputTypeOf? d.type.item).isNone = true) :
    d.bind S primitives given =
      .failed (.notInputType d.name d.type.item) d.type.location := by
  rw [bind]
  exact if_pos hi

theorem bind_of_default {l : Located Literal} (hi : (S.inputTypeOf? d.type.item).isNone = false)
    (hg : given.get? d.name = none) (hd : d.default? = some l) :
    d.bind S primitives given =
      match primitives.literal S none d.type.item l.item with
      | some v => .bound v
      | none => .failed (.invalidVariableDefault d.name l.item) l.location := by
  cases hl : primitives.literal S none d.type.item l.item <;>
    simp only [bind, hi, hg, hd, hl, Bool.false_eq_true, if_false]

theorem bind_of_missing (hi : (S.inputTypeOf? d.type.item).isNone = false)
    (hg : given.get? d.name = none) (hd : d.default? = none) :
    d.bind S primitives given =
      if d.type.item.isNonNull then .failed (.missingVariable d.name d.type.item) d.location
      else .unset := by
  simp only [bind, hi, hg, hd, Bool.false_eq_true, if_false]

theorem bind_of_null (hi : (S.inputTypeOf? d.type.item).isNone = false)
    (hg : given.get? d.name = some .null) :
    d.bind S primitives given =
      if d.type.item.isNonNull then .failed (.nullVariable d.name d.type.item) d.location
      else .bound .null := by
  simp only [bind, hi, hg, Bool.false_eq_true, if_false]

theorem bind_of_value {v : Value} (hi : (S.inputTypeOf? d.type.item).isNone = false)
    (hg : given.get? d.name = some v) (hv : v ≠ .null) :
    d.bind S primitives given =
      match primitives.value S d.type.item d.location v with
      | .ok w => .bound w
      | .error fs => ⟨none, fs.map (·.inVariable d.name v)⟩ := by
  cases hc : primitives.value S d.type.item d.location v <;> cases v with
  | null => exact absurd rfl hv
  | _ => simp only [bind, hi, hg, hc, Bool.false_eq_true, if_false]

end VariableDecl

namespace Request

variable (S : Schema) (primitives : Primitives) (given : Bindings)

/-- The faults of every declaration, in the order of the declarations. -/
def faults (ds : List VariableDecl) : List Fault :=
  ds.flatMap fun d => (d.bind S primitives given).faults

/-- The entries of every declaration, whether or not others are at fault. -/
def entries (ds : List VariableDecl) : Bindings :=
  ds.foldl (fun t d => t.extend d.name (d.bind S primitives given).entry) .empty

theorem faults_append (ds₁ ds₂ : List VariableDecl) :
    faults S primitives given (ds₁ ++ ds₂) =
      faults S primitives given ds₁ ++ faults S primitives given ds₂ :=
  List.flatMap_append

private theorem keys_entries_subset {ds : List VariableDecl} {n : String}
    (h : n ∈ (entries S primitives given ds).keys) : n ∈ ds.map VariableDecl.name :=
  (Table.keys_foldl_extend_subset h).resolve_left List.not_mem_nil

theorem entries_append {ds₁ ds₂ : List VariableDecl}
    (h : (ds₁.map VariableDecl.name).Disjoint (ds₂.map VariableDecl.name)) :
    (entries S primitives given (ds₁ ++ ds₂)).entries =
      (entries S primitives given ds₁).entries ++ (entries S primitives given ds₂).entries := by
  rw [entries, List.foldl_append]
  apply Table.entries_foldl_extend_append (List.append_nil _).symm
  intro d hd hm
  exact h (keys_entries_subset S primitives given hm) (List.mem_map_of_mem hd)

variable {S primitives given} {limit : Option Nat} {settings : Settings} {ds : List VariableDecl}

private theorem faults_eq_nil_iff :
    faults S primitives given ds = [] ↔ ∀ d ∈ ds, (d.bind S primitives given).faults = [] :=
  List.flatMap_eq_nil_iff

private theorem entries_of_nodup (hd : (ds.map VariableDecl.name).Nodup) :
    (entries S primitives given ds).entries =
      Entries.gather VariableDecl.name (fun d => (d.bind S primitives given).entry) ds :=
  Table.entries_foldl_extend .empty hd fun _ _ => List.not_mem_nil

private theorem bindAfter_cons (d : VariableDecl) (ds : List VariableDecl) (bound : Bindings)
    (reported : List Fault) :
    bindAfter S primitives limit given (d :: ds) bound reported =
      match (d.bind S primitives given).faults.foldlM (Fault.report limit) reported with
      | .error reported => (bound, reported)
      | .ok reported =>
        bindAfter S primitives limit given ds
          (bound.extend d.name (d.bind S primitives given).entry) reported := by
  rw [bindAfter]
  cases (d.bind S primitives given).entry <;> rfl

private theorem bindAfter_of_faultless {ds : List VariableDecl} (bound : Bindings)
    (reported : List Fault) (h : ∀ d ∈ ds, (d.bind S primitives given).faults = []) :
    bindAfter S primitives limit given ds bound reported =
      (ds.foldl (fun t d => t.extend d.name (d.bind S primitives given).entry) bound,
        reported) := by
  induction ds generalizing bound with
  | nil => rfl
  | cons d ds ih =>
      rw [List.forall_mem_cons] at h
      rw [bindAfter_cons, h.1, List.foldlM_nil]
      exact ih _ h.2

/-- Binding goes on as long as the faults fit, and what it reports is what the limit leaves. -/
private theorem reported_bindAfter (bound : Bindings) {reported : List Fault}
    (hr : Fault.Fit limit reported) :
    (bindAfter S primitives limit given ds bound reported).2 =
      Fault.upTo limit (reported ++ faults S primitives given ds) := by
  -- what is reported ahead of the rest fits, or binding has stopped
  induction ds generalizing bound reported with
  | nil => exact (Fault.upTo_of_fit (List.append_nil reported ▸ hr)).symm ▸ (List.append_nil _).symm
  | cons d ds ih =>
      rw [bindAfter_cons, ← List.singleton_append, faults_append, ← List.append_assoc]
      have hown : faults S primitives given [d] = (d.bind S primitives given).faults :=
        List.flatMap_singleton ..
      by_cases h : Fault.Fit limit (reported ++ (d.bind S primitives given).faults)
      · rw [Fault.foldlM_report_of_fit h, hown]
        exact ih _ h
      · rw [Fault.foldlM_report_of_not_fit hr h, hown, Fault.upTo_append h]

theorem bind_of_faults_nil (h : faults S primitives given ds = []) :
    bind S primitives settings ds given = .ok (entries S primitives given ds) := by
  rw [bind, bindAfter_of_faultless .empty [] (faults_eq_nil_iff.1 h)]
  rfl

theorem bind_of_faults_ne_nil (h : faults S primitives given ds ≠ []) :
    bind S primitives settings ds given =
      .error (Fault.upTo settings.limit (faults S primitives given ds)) := by
  have hreported : (bindAfter S primitives settings.limit given ds .empty []).2 =
      Fault.upTo settings.limit (faults S primitives given ds) :=
    reported_bindAfter .empty (Fault.fit_nil settings.limit)
  simp only [bind, hreported, List.isEmpty_iff, Fault.upTo_ne_nil h, if_false]

theorem bind_eq_ok_iff {settings : Settings} {ds : List VariableDecl} {bound : Bindings}
    (hd : (ds.map VariableDecl.name).Nodup) :
    bind S primitives settings ds given = .ok bound ↔
      (∀ d ∈ ds, (d.bind S primitives given).faults = []) ∧
        bound.entries =
          Entries.gather VariableDecl.name (fun d => (d.bind S primitives given).entry) ds := by
  rw [← faults_eq_nil_iff, ← entries_of_nodup hd]
  by_cases hf : faults S primitives given ds = []
  · rw [bind_of_faults_nil hf, Except.ok.injEq]
    exact ⟨fun h => ⟨hf, congrArg Table.entries h.symm⟩, fun h => Table.ext h.2.symm⟩
  · rw [bind_of_faults_ne_nil hf]
    exact ⟨nofun, fun h => absurd h.1 hf⟩

theorem get?_of_bind {settings : Settings} {ds : List VariableDecl} {bound : Bindings}
    (hd : (ds.map VariableDecl.name).Nodup)
    (h : bind S primitives settings ds given = .ok bound) {d : VariableDecl} (hm : d ∈ ds) :
    bound.get? d.name = (d.bind S primitives given).entry := by
  rw [Table.get?, ((bind_eq_ok_iff hd).1 h).2]
  exact Entries.lookup_gather hd hm

end Request

namespace Parameter

variable {S : Schema} {primitives : Primitives} {vars : Option Bindings} {call : Call}
  {p : Parameter}

/-- The entry that a parameter gets. Only a variable without a value is as good as no argument. -/
inductive Takes (S : Schema) (primitives : Primitives) (vars : Option Bindings) (call : Call)
    (p : Parameter) : Option Value → Prop
  | absent :
      (∀ l, call.value? p.name = some l → l.item.isUnbound (fun x => vars.bind (·.get? x)) = true) →
      (p.default? = none → p.type.isNonNull = false) → Takes S primitives vars call p p.default?
  | null : p.type.isNonNull = false → Takes S primitives vars call p (some .null)
  | reference {x : String} {location : Option Location} {v : Value} :
      call.value? p.name = some ⟨.reference x, location⟩ → vars.bind (·.get? x) = some v →
      v ≠ .null → Takes S primitives vars call p (some v)
  | literal {l : Located Literal} {v : Value} :
      call.value? p.name = some l → l.item.referent? = none →
      primitives.literal S vars p.type l.item = some v → Takes S primitives vars call p (some v)

private theorem takes_of_bindAbsent {fault : Fault} {entry : Option Value}
    (habsent : ∀ l, call.value? p.name = some l →
      l.item.isUnbound (fun x => vars.bind (·.get? x)) = true)
    (h : p.bindAbsent fault = .ok entry) : p.Takes S primitives vars call entry := by
  have hentry : entry = p.default? ∧ (p.default? = none → p.type.isNonNull = false) := by
    rw [bindAbsent] at h
    cases hd : p.default? with
    | some v =>
        rw [hd] at h
        cases h
        exact ⟨rfl, fun hn => nomatch hn⟩
    | none =>
        cases hn : p.type.isNonNull <;> simp [hd, hn] at h
        exact ⟨h.symm, fun _ => rfl⟩
  exact hentry.1 ▸ .absent habsent hentry.2

private theorem takes_of_bindNull {location : Option Location} {entry : Option Value}
    (h : p.bindNull location = .ok entry) : p.Takes S primitives vars call entry := by
  rw [bindNull] at h
  cases hn : p.type.isNonNull <;> simp [hn] at h
  exact h ▸ .null hn

theorem takes_of_bind {entry : Option Value} (h : p.bind S primitives vars call = .ok entry) :
    p.Takes S primitives vars call entry := by
  rw [bind] at h
  split at h
  · rename_i hl
    exact takes_of_bindAbsent (fun l h' => nomatch hl.symm.trans h') h
  · rename_i x location hl
    split at h
    · rename_i hx
      refine takes_of_bindAbsent (fun l h' => ?_) h
      cases hl.symm.trans h'
      simp [Literal.isUnbound, Literal.referent?, hx]
    · exact takes_of_bindNull h
    · rename_i v hv hx
      cases h
      exact .reference hl hx hv
  · exact takes_of_bindNull h
  · rename_i l location href _ hl
    split at h
    · rename_i v hv
      cases h
      refine .literal hl ?_ hv
      cases l with
      | reference x => exact absurd rfl (href x)
      | _ => rfl
    · cases h

end Parameter

/-- The fault that an outcome is refused for, if it is. -/
def Fault.of? {α : Type} : Except Fault α → Option Fault
  | .ok _ => none
  | .error f => some f

namespace Signature

variable {S : Schema} {primitives : Primitives} {vars : Option Bindings} {call : Call}

/-- The fault of the first parameter that is refused. -/
def firstFault? (S : Schema) (primitives : Primitives) (vars : Option Bindings) (call : Call)
    (ps : List Parameter) : Option Fault :=
  ps.findSome? fun p => Fault.of? (p.bind S primitives vars call)

/-- The entries of every parameter behind what is bound already, whether or not others are
refused. -/
def entriesAfter (S : Schema) (primitives : Primitives) (vars : Option Bindings) (call : Call)
    (ps : List Parameter) (bound : Bindings) : Bindings :=
  ps.foldl (fun t p => t.extend p.name ((p.bind S primitives vars call).toOption.join)) bound

/-- The first fault ends a binding, and without one every parameter makes its entry. -/
theorem bindAfter_eq (ps : List Parameter) (bound : Bindings) :
    bindAfter S primitives vars call ps bound =
      match firstFault? S primitives vars call ps with
      | some f => .error f
      | none => .ok (entriesAfter S primitives vars call ps bound) := by
  induction ps generalizing bound with
  | nil => rfl
  | cons p ps ih =>
      rw [bindAfter, firstFault?, entriesAfter, List.findSome?_cons, List.foldl_cons]
      cases p.bind S primitives vars call with
      | error f => rfl
      | ok entry => cases entry <;> exact ih _

private theorem bindAfter_eq_ok {ps : List Parameter} {bound result : Bindings}
    (h : bindAfter S primitives vars call ps bound = .ok result) :
    (∀ p ∈ ps, ∃ entry, p.bind S primitives vars call = .ok entry) ∧
      result = entriesAfter S primitives vars call ps bound := by
  rw [bindAfter_eq] at h
  cases hf : firstFault? S primitives vars call ps with
  | some f =>
      rw [hf] at h
      cases h
  | none =>
      rw [hf] at h
      cases h
      refine ⟨fun p hp => ?_, rfl⟩
      have hnone := List.findSome?_eq_none_iff.1 hf p hp
      cases hb : p.bind S primitives vars call with
      | ok entry => exact ⟨entry, rfl⟩
      | error f => simp [hb, Fault.of?] at hnone

theorem bind_eq_ok {s : Signature} {result : Bindings}
    (hd : (s.parameters.map Parameter.name).Nodup)
    (h : s.bind S primitives call vars = .ok result) :
    (∀ p ∈ s.parameters, p.bind S primitives vars call = .ok (result.get? p.name)) ∧
      result.keys.Sublist (s.parameters.map Parameter.name) := by
  obtain ⟨hall, hresult⟩ := bindAfter_eq_ok h
  have hentries : result.entries = Entries.gather Parameter.name
      (fun p => (p.bind S primitives vars call).toOption.join) s.parameters := by
    rw [hresult]
    exact Table.entries_foldl_extend .empty hd fun _ _ => List.not_mem_nil
  constructor
  · intro p hp
    obtain ⟨entry, hentry⟩ := hall p hp
    rw [Table.get?, hentries, Entries.lookup_gather hd hp, hentry]
    rfl
  · rw [Table.keys, hentries]
    exact Entries.keys_gather_sublist s.parameters

end Signature

end GraphQLInput
