import GraphQLInput.Proofs.Calls
import GraphQLInput.Proofs.Influence
import GraphQLInput.Proofs.Slots
/-!
# What is supplied first

Of the arguments of a call the first under each declared name counts, and of the directives that are
applied the first under the name of the signature. The others can be taken away or put into any
order: both what is bound and what a call is refused for follow the order of the signature. None of
this depends on the primitives that single values are read with.
-/
namespace GraphQLInput

namespace Call

/-- Of the arguments under the names the first of each is kept, and nothing else, in some order. -/
structure Tidies (names : List String) (call tidy : Call) : Prop where
  arguments : tidy.entries.Perm (Entries.firsts (call.entries.filter fun e => names.contains e.1))
  location : tidy.location = call.location

/-- What is kept supplies what all arguments do. -/
private theorem Tidies.value?_eq {names : List String} {call tidy : Call}
    (h : call.Tidies names tidy) {name : String} (hn : name ∈ names) :
    call.value? name = tidy.value? name := by
  have hkeep : names.contains name = true := List.contains_iff_mem.2 hn
  have hfirsts := Entries.nodup_firsts (call.entries.filter fun e => names.contains e.1)
  calc
    call.value? name = call.entries.lookup name := call.value?_eq_lookup name
    _ = (call.entries.filter fun e => names.contains e.1).lookup name :=
      (Entries.lookup_filter_name hkeep call.entries).symm
    _ = (Entries.firsts (call.entries.filter fun e => names.contains e.1)).lookup name :=
      (Entries.lookup_firsts _ name).symm
    _ = tidy.entries.lookup name := Entries.lookup_eq_of_perm h.arguments.symm hfirsts name
    _ = tidy.value? name := (tidy.value?_eq_lookup name).symm

end Call

/-- The application comes first of all under the name. -/
def Application.IsFirst (a : Application) (name : String) (applications : List Application) :
    Prop :=
  a.name = name ∧
    ∃ before after, applications = before ++ a :: after ∧ ∀ b ∈ before, b.name ≠ name

namespace Parameter

variable {S : Schema} {primitives : Primitives} {vars : Option Bindings} {call call' : Call}

/-- A call shows to a parameter by the value that it supplies first, and by its own place. -/
private theorem bind_of_value?_eq (p : Parameter)
    (hvalue : call.value? p.name = call'.value? p.name)
    (hlocation : call.location = call'.location) :
    p.bind S primitives vars call = p.bind S primitives vars call' := by
  rw [bind, bind, hvalue, hlocation]

end Parameter

namespace Signature

variable {S : Schema} {primitives : Primitives} {vars : Option Bindings} {s : Signature}

private theorem bind_tidied {call tidy : Call}
    (h : call.Tidies (s.parameters.map Parameter.name) tidy) :
    s.bind S primitives call vars = s.bind S primitives tidy vars := by
  apply bindAfter_congr
  intro p hp
  exact p.bind_of_value?_eq (h.value?_eq (List.mem_map_of_mem hp)) h.location.symm

private theorem applied?_eq_none_iff {applications : List Application} :
    s.applied? applications = none ↔ ∀ a ∈ applications, a.name ≠ s.name := by
  rw [applied?, Option.map_eq_none_iff, List.find?_eq_none]
  simp

private theorem applied?_of_isFirst {a : Application} {applications : List Application}
    (h : a.IsFirst s.name applications) : s.applied? applications = some a.call := by
  obtain ⟨hname, before, after, rfl, hbefore⟩ := h
  have hnone : before.find? (·.name = s.name) = none := by
    rw [List.find?_eq_none]
    simpa using hbefore
  simp [applied?, List.find?_append, hnone, hname]

private theorem bindApplied_eq_ok_none_iff {applications : List Application} :
    s.bindApplied S primitives applications vars = .ok none ↔
      ∀ a ∈ applications, a.name ≠ s.name := by
  rw [← applied?_eq_none_iff, bindApplied]
  cases s.applied? applications with
  | none => simp
  | some call => cases hbind : s.bind S primitives call vars <;> simp [hbind, Except.map]

/-- The first application decides for all. -/
private theorem bindApplied_of_isFirst {a : Application} {applications : List Application}
    (h : a.IsFirst s.name applications) :
    s.bindApplied S primitives applications vars =
      (s.bind S primitives a.call vars).map some := by
  rw [bindApplied, applied?_of_isFirst h]

end Signature

namespace Sample

/-- The call of the guide among arguments that do not count, of a name that is not declared and of
names that come a second time. -/
def crowdedCall : Call :=
  ⟨⟨"zone", ⟨.reference "where", none⟩⟩ :: guideCall.arguments ++
    [⟨"place", ⟨.null, some 5⟩⟩, ⟨"zone", ⟨.int "1", none⟩⟩, ⟨"note", ⟨.int "2", some 6⟩⟩], some 9⟩

def tidyCall : Call :=
  ⟨[⟨"size", ⟨.null, none⟩⟩, ⟨"at", ⟨.reference "where", none⟩⟩,
    ⟨"place", ⟨.object [("id", .int "5")], some 4⟩⟩, ⟨"note", ⟨.reference "lost", none⟩⟩], some 9⟩

private theorem tidies_crowdedCall :
    crowdedCall.Tidies (guide.parameters.map Parameter.name) tidyCall :=
  ⟨List.reverse_perm [("note", _), ("place", _), ("at", _), ("size", _)], rfl⟩

def guideApplied : Application :=
  ⟨"guide", crowdedCall⟩

def detour : Application :=
  ⟨"detour", guideCall⟩

def crowdedApplications : List Application :=
  [detour, guideApplied, detour, ⟨"guide", guideCall⟩]

private theorem isFirst_guideApplied : guideApplied.IsFirst "guide" crowdedApplications :=
  ⟨rfl, [detour], _, rfl, by decide⟩

end Sample

namespace Signature

variable {S : Schema} {primitives : Primitives} {vars : Option Bindings}

/-- A call is bound alike, or refused for the same fault, when only the first argument of each
declared name is kept, and in any order. A directive receives nothing just where it is not applied,
and otherwise the same wherever the same application of it comes first. -/
theorem outcomes_eq_of_firsts (s : Signature) :
    (∀ call tidy : Call, call.Tidies (s.parameters.map Parameter.name) tidy →
      s.bind S primitives call vars = s.bind S primitives tidy vars) ∧
    (∀ applications : List Application,
      s.bindApplied S primitives applications vars = .ok none ↔
        ∀ a ∈ applications, a.name ≠ s.name) ∧
    ∀ (a : Application) (applications applications' : List Application),
      a.IsFirst s.name applications → a.IsFirst s.name applications' →
      s.bindApplied S primitives applications vars =
        s.bindApplied S primitives applications' vars := by
  refine ⟨fun call tidy h => bind_tidied h, fun applications => bindApplied_eq_ok_none_iff, ?_⟩
  intro a applications applications' h h'
  rw [bindApplied_of_isFirst h, bindApplied_of_isFirst h']

theorem outcomes_eq_of_firsts_sample :
    Sample.crowdedCall.Tidies (Sample.guide.parameters.map Parameter.name) Sample.tidyCall ∧
      Sample.guide.bind Sample.schema .standard Sample.tidyCall (some Sample.whereabouts) =
        .ok Sample.guided ∧
      Sample.guide.bind Sample.schema .standard Sample.crowdedCall (some Sample.whereabouts) =
        Sample.guide.bind Sample.schema .standard Sample.tidyCall (some Sample.whereabouts) ∧
      Sample.guide.bind Sample.schema .standard Sample.tidyCall none =
        .error ⟨.unboundArgument "at" (.named "Float" true) "where", some 9⟩ ∧
      Sample.guide.bind Sample.schema .standard Sample.crowdedCall none =
        Sample.guide.bind Sample.schema .standard Sample.tidyCall none ∧
      (Sample.guide.bindApplied Sample.schema .standard [Sample.detour] none = .ok none ↔
        ∀ a ∈ [Sample.detour], a.name ≠ Sample.guide.name) ∧
      Sample.guideApplied.IsFirst "guide" Sample.crowdedApplications ∧
      Sample.guide.bindApplied Sample.schema .standard [Sample.guideApplied]
          (some Sample.whereabouts) = .ok (some Sample.guided) ∧
      Sample.guide.bindApplied Sample.schema .standard Sample.crowdedApplications
          (some Sample.whereabouts) =
        Sample.guide.bindApplied Sample.schema .standard [Sample.guideApplied]
          (some Sample.whereabouts) :=
  have htidies := Sample.tidies_crowdedCall
  have hfirst := Sample.isFirst_guideApplied
  have heq (vars : Option Bindings) :=
    @outcomes_eq_of_firsts Sample.schema .standard vars Sample.guide
  ⟨htidies, rfl, (heq _).1 _ _ htidies, rfl, (heq _).1 _ _ htidies, (heq _).2.1 [Sample.detour],
    hfirst, rfl, (heq _).2.2 Sample.guideApplied _ _ hfirst ⟨rfl, [], [], rfl, nofun⟩⟩

end Signature

end GraphQLInput
