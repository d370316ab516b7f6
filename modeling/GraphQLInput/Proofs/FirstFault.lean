import GraphQLInput.Proofs.Conformance.Signature
/-!
# What a call is refused for

The first parameter at fault ends a binding, so that what stands behind it plays no part. Without a
fault the entries of the parts of a signature follow each other. None of this depends on the
primitives that single values are read with.
-/
namespace GraphQLInput

namespace Signature

variable {S : Schema} {primitives : Primitives} {vars : Option Bindings} {call : Call}

private theorem firstFault?_append (ps qs : List Parameter) :
    firstFault? S primitives vars call (ps ++ qs) =
      (firstFault? S primitives vars call ps).or (firstFault? S primitives vars call qs) :=
  List.findSome?_append

private theorem bind_eq (s : Signature) :
    s.bind S primitives call vars =
      match firstFault? S primitives vars call s.parameters with
      | some f => .error f
      | none => .ok (entriesAfter S primitives vars call s.parameters .empty) :=
  bindAfter_eq s.parameters .empty

theorem of?_bind (s : Signature) :
    Fault.of? (s.bind S primitives call vars) =
      firstFault? S primitives vars call s.parameters := by
  rw [bind_eq]
  cases firstFault? S primitives vars call s.parameters <;> rfl

/-- A parameter on its own is refused for its own fault. -/
private theorem of?_bind_singleton (name : String) (p : Parameter) :
    Fault.of? (bind S primitives ⟨name, [p]⟩ call vars) =
      Fault.of? (p.bind S primitives vars call) := by
  rw [of?_bind, firstFault?, List.findSome?_cons, List.findSome?_nil]
  cases Fault.of? (p.bind S primitives vars call) <;> rfl

private theorem keys_entriesAfter_empty_subset {ps : List Parameter} {n : String}
    (h : n ∈ (entriesAfter S primitives vars call ps .empty).keys) : n ∈ ps.map Parameter.name :=
  (Table.keys_foldl_extend_subset h).resolve_left List.not_mem_nil

/-- Parameters of other names make their entries behind those in front. -/
private theorem entriesAfter_append {ps qs : List Parameter}
    (h : (ps.map Parameter.name).Disjoint (qs.map Parameter.name)) :
    (entriesAfter S primitives vars call (ps ++ qs) .empty).entries =
      (entriesAfter S primitives vars call ps .empty).entries ++
        (entriesAfter S primitives vars call qs .empty).entries := by
  rw [entriesAfter, List.foldl_append]
  apply Table.entries_foldl_extend_append (List.append_nil _).symm
  intro q hq hm
  exact h (keys_entriesAfter_empty_subset hm) (List.mem_map_of_mem hq)

end Signature

namespace Sample

def front : List Parameter :=
  [⟨"place", .named "Place" true, none⟩, ⟨"note", .named "Any" false, some (.string "KM")⟩]

def back : List Parameter :=
  [⟨"size", .named "Int" false, none⟩, ⟨"unit", .named "Unit" true, some (.string "KM")⟩,
   ⟨"at", .named "Float" true, none⟩]

/-- A call with two faults, both in the back. -/
def visit : Call :=
  ⟨[⟨"unit", ⟨.null, some 3⟩⟩, ⟨"place", ⟨.object [("id", .int "5")], some 4⟩⟩,
    ⟨"size", ⟨.reference "n", none⟩⟩], some 9⟩

def visited : Value :=
  .object [("id", .string "5"), ("size", .int one), ("unit", .string "KM")]

end Sample

namespace Signature

variable {S : Schema} {primitives : Primitives} {vars : Option Bindings} {call : Call}

/-- A signature is refused for the fault of its front, whatever stands behind. Where the front is
bound the back decides, and its entries follow. A call is therefore refused for the fault of the
first parameter that is refused on its own. -/
theorem entries_bind_append {name : String} {ps qs : List Parameter}
    (h : (ps.map Parameter.name).Disjoint (qs.map Parameter.name)) :
    (bind S primitives ⟨name, ps ++ qs⟩ call vars).map Table.entries =
        (match bind S primitives ⟨name, ps⟩ call vars with
        | .error f => .error f
        | .ok bound =>
          (bind S primitives ⟨name, qs⟩ call vars).map fun rest => bound.entries ++ rest.entries) ∧
      Fault.of? (bind S primitives ⟨name, ps ++ qs⟩ call vars) =
        (ps ++ qs).findSome? fun p => Fault.of? (bind S primitives ⟨name, [p]⟩ call vars) := by
  constructor
  · simp only [bind_eq, firstFault?_append]
    cases firstFault? S primitives vars call ps with
    | some f => rfl
    | none =>
        cases firstFault? S primitives vars call qs with
        | some f => rfl
        | none => exact congrArg Except.ok (entriesAfter_append h)
  · have hsingle : (fun p => Fault.of? (bind S primitives ⟨name, [p]⟩ call vars)) =
        fun p => Fault.of? (p.bind S primitives vars call) := by
      funext p
      exact of?_bind_singleton name p
    rw [of?_bind, hsingle]
    rfl

theorem entries_bind_append_sample :
    (Sample.front.map Parameter.name).Disjoint (Sample.back.map Parameter.name) ∧
      (bind Sample.schema .standard ⟨"find", Sample.front⟩ Sample.visit none).map Table.entries =
        .ok [("place", Sample.visited), ("note", .string "KM")] ∧
      Fault.of? (bind Sample.schema .standard ⟨"find", Sample.front ++ Sample.back⟩ Sample.visit
        none) = some ⟨.nullArgument "unit" (.named "Unit" true), some 3⟩ ∧
      (bind Sample.schema .standard ⟨"find", Sample.front ++ Sample.back⟩ Sample.visit
        none).map Table.entries =
        (match bind Sample.schema .standard ⟨"find", Sample.front⟩ Sample.visit none with
        | .error f => .error f
        | .ok bound => (bind Sample.schema .standard ⟨"find", Sample.back⟩ Sample.visit none).map
            fun rest => bound.entries ++ rest.entries) ∧
      Fault.of? (bind Sample.schema .standard ⟨"find", Sample.front ++ Sample.back⟩ Sample.visit
        none) =
        (Sample.front ++ Sample.back).findSome? fun p =>
          Fault.of? (bind Sample.schema .standard ⟨"find", [p]⟩ Sample.visit none) :=
  have h : (Sample.front.map Parameter.name).Disjoint (Sample.back.map Parameter.name) := by
    simp [Sample.front, Sample.back]
  ⟨h, rfl, rfl, entries_bind_append h⟩

end Signature

end GraphQLInput
