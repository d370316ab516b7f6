import GraphQLInput.Proofs.Conformance.Request
/-!
# What a request reports

Every declaration reports its own faults, whatever is declared before it, and a limit cuts the
report off without a change to what stands in front of the cut. Where nothing is reported, all
entries are made. None of this depends on the primitives that single values are read with.
-/
namespace GraphQLInput

namespace Request

variable {S : Schema} {primitives : Primitives} {given : Bindings}

/-- The faults that an outcome reports, none where variables are bound. -/
def reported : Except (List Fault) Bindings → List Fault
  | .ok _ => []
  | .error fs => fs

private theorem bind_default (ds : List VariableDecl) :
    bind S primitives .default ds given =
      if (faults S primitives given ds).isEmpty then .ok (entries S primitives given ds)
      else .error (faults S primitives given ds) := by
  cases h : faults S primitives given ds with
  | nil => exact bind_of_faults_nil h
  | cons f fs =>
      rw [bind_of_faults_ne_nil (h ▸ List.cons_ne_nil f fs), h]
      rfl

private theorem reported_bind_default (ds : List VariableDecl) :
    reported (bind S primitives .default ds given) = faults S primitives given ds := by
  rw [bind_default]
  cases faults S primitives given ds <;> rfl

end Request

namespace Sample

def count : VariableDecl :=
  ⟨"n", ⟨.named "Int" true, some 1⟩, none, some 0⟩

def counted : Bindings :=
  ⟨[("n", .int one)], by decide⟩

/-- Refuses every value, and finds no fault in any. -/
def silent : Primitives :=
  ⟨fun _ _ _ _ => none, fun _ _ _ _ => .error []⟩

def faulty : List VariableDecl :=
  [count, ⟨"u", ⟨.named "Unit" true, none⟩, none, some 2⟩]

def mixed : List VariableDecl :=
  [⟨"k", ⟨.list (.named "Int" true) false, none⟩, some ⟨.int "7", none⟩, none⟩,
   ⟨"p", ⟨.named "Place" true, none⟩, none, some 4⟩]

def refused : Bindings :=
  ⟨[("p", .object [("size", .string "KM"), ("name", .null)]), ("u", .null)], by decide⟩

end Sample

namespace Request

variable {S : Schema} {primitives : Primitives} {settings : Settings} {given bound : Bindings}
  {ds : List VariableDecl}

/-- A limit changes nothing but how many faults are told of. Those beyond it are replaced by one
notice, which has no place in a document. -/
theorem bind_limited (n : Nat) (ds : List VariableDecl) :
    bind S primitives ⟨some n⟩ ds given =
      match bind S primitives .default ds given with
      | .ok bound => .ok bound
      | .error fs => .error (if fs.length ≤ n then fs else fs.take n ++ [⟨.tooMany, none⟩]) := by
  by_cases h : faults S primitives given ds = []
  · rw [bind_of_faults_nil h, bind_of_faults_nil h]
  · rw [bind_of_faults_ne_nil h, bind_of_faults_ne_nil h]
    rfl

example : (reported (bind Sample.schema .standard ⟨some 2⟩ (Sample.faulty ++ Sample.mixed)
    Sample.refused)).map Fault.kind = [.missing, .null, .tooMany] := rfl

/-- Declarations of other names neither hide nor change what is reported or bound. A request
therefore reports what each declaration reports alone. -/
theorem bind_append {ds₁ ds₂ : List VariableDecl}
    (h : (ds₁.map VariableDecl.name).Disjoint (ds₂.map VariableDecl.name)) :
    (bind S primitives .default (ds₁ ++ ds₂) given).map Table.entries =
        (match bind S primitives .default ds₁ given, bind S primitives .default ds₂ given with
        | .ok bound₁, .ok bound₂ => .ok (bound₁.entries ++ bound₂.entries)
        | outcome₁, outcome₂ => .error (reported outcome₁ ++ reported outcome₂)) ∧
      reported (bind S primitives .default (ds₁ ++ ds₂) given) =
        (ds₁ ++ ds₂).flatMap fun d => reported (bind S primitives .default [d] given) := by
  constructor
  · rw [bind_default, bind_default, bind_default, faults_append]
    cases h₁ : faults S primitives given ds₁ with
    | cons f fs => cases faults S primitives given ds₂ <;> rfl
    | nil =>
        cases h₂ : faults S primitives given ds₂ with
        | cons f fs => rfl
        | nil => exact congrArg Except.ok (entries_append S primitives given h)
  · rw [reported_bind_default, faults]
    congr 1
    funext d
    rw [reported_bind_default, faults, List.flatMap_singleton]

theorem bind_append_sample :
    (Sample.faulty.map VariableDecl.name).Disjoint (Sample.mixed.map VariableDecl.name) ∧
      (reported (bind Sample.schema .standard .default (Sample.faulty ++ Sample.mixed)
          Sample.refused)).map Fault.kind = [.missing, .null, .invalid, .invalid, .invalid] ∧
      (bind Sample.schema .standard .default (Sample.faulty ++ Sample.mixed)
          Sample.refused).map Table.entries =
        .error (reported (bind Sample.schema .standard .default Sample.faulty Sample.refused) ++
          reported (bind Sample.schema .standard .default Sample.mixed Sample.refused)) ∧
      reported (bind Sample.schema .standard .default (Sample.faulty ++ Sample.mixed)
          Sample.refused) =
        (Sample.faulty ++ Sample.mixed).flatMap fun d =>
          reported (bind Sample.schema .standard .default [d] Sample.refused) :=
  have h : (Sample.faulty.map VariableDecl.name).Disjoint
      (Sample.mixed.map VariableDecl.name) := by
    simp [Sample.faulty, Sample.mixed, Sample.count]
  ⟨h, rfl, bind_append h⟩

/-- Where variables are bound, no given value was refused with a fault. One that was refused
without any is left out. -/
theorem given_bound_or_refused (hd : (ds.map VariableDecl.name).Nodup)
    (h : bind S primitives settings ds given = .ok bound) {d : VariableDecl} (hm : d ∈ ds)
    {v : Value} (hg : given.get? d.name = some v) (hv : v ≠ .null) :
    (∃ w, primitives.value S d.type.item d.location v = .ok w ∧ bound.get? d.name = some w) ∨
      primitives.value S d.type.item d.location v = .error [] ∧ bound.get? d.name = none := by
  have hfaults := ((bind_eq_ok_iff hd).1 h).1 d hm
  rw [get?_of_bind hd h hm]
  cases hi : (S.inputTypeOf? d.type.item).isNone with
  | true =>
      rw [VariableDecl.bind_of_notInput hi] at hfaults
      cases hfaults
  | false =>
      rw [VariableDecl.bind_of_value hi hg hv] at hfaults ⊢
      cases hc : primitives.value S d.type.item d.location v with
      | ok w => exact .inl ⟨w, rfl, rfl⟩
      | error fs =>
          rw [hc] at hfaults
          exact .inr ⟨congrArg Except.error (List.map_eq_nil_iff.1 hfaults), rfl⟩

theorem given_bound_or_refused_sample :
    bind Sample.schema .standard ⟨some 2⟩ Sample.declared Sample.given = .ok Sample.bound ∧
      ∃ w, Primitives.standard.value Sample.schema (.list (.named "Place" true) true) none
          (.object [("at", .int Sample.seven), ("id", .int Sample.seven)]) = .ok w ∧
        Sample.bound.get? "p" = some w :=
  have h : bind Sample.schema .standard ⟨some 2⟩ Sample.declared Sample.given =
      .ok Sample.bound := rfl
  ⟨h, (given_bound_or_refused (by decide) h List.mem_cons_self rfl Value.noConfusion).resolve_right
    fun hnone => nomatch hnone.2⟩

/-- A refusal without a fault goes unnoticed, even where null is not allowed. -/
theorem bind_ok_of_silent_refusal :
    ¬ ∀ (S : Schema) (primitives : Primitives) (settings : Settings) (ds : List VariableDecl)
        (given bound : Bindings), (ds.map VariableDecl.name).Nodup →
        bind S primitives settings ds given = .ok bound →
        ∀ d ∈ ds, ∀ v, given.get? d.name = some v → v ≠ .null → ∃ w, bound.get? d.name = some w := by
  intro h
  obtain ⟨w, hw⟩ := h Sample.schema Sample.silent .default [Sample.count] Sample.counted .empty
    (by decide) rfl Sample.count List.mem_cons_self (.int Sample.one) rfl Value.noConfusion
  cases hw

end Request

end GraphQLInput
