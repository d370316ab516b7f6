import GraphQLInput.Proofs.Acceptance
import GraphQLInput.Proofs.Rewriting.Basic
/-!
# Tidy object literals

Of an object that stands for an input object, only the first field of each declared name counts,
and not where its value is a variable without one. Such a variable is as good as a field left out,
so that no later field of the name stands in for it. What does not count can be taken away, and
what remains can be put into any order.
-/
namespace GraphQLInput

namespace Literal

/-- The fields that count: the first of each name that is declared, if it has a value. -/
def tidied (value? : String → Option Value) (declared : Table InputSpec)
    (fields : List (String × Literal)) : List (String × Literal) :=
  (Entries.firsts fields).filter fun (n, l) => declared.contains n && !l.isUnbound value?

/-- The fields that count are kept, in some order. -/
def Tidies (value? : String → Option Value) : FieldRule :=
  fun declared fields fields' => fields'.Perm (tidied value? declared fields)

variable {value? : String → Option Value} {declared : Table InputSpec}

private theorem nodup_tidied (fields : List (String × Literal)) :
    ((tidied value? declared fields).map Prod.fst).Nodup :=
  (Entries.nodup_firsts fields).sublist (List.filter_sublist.map Prod.fst)

/-- The fields that count supply what all fields do. -/
private theorem given?_tidied {n : String} (hn : declared.contains n = true)
    (fields : List (String × Literal)) :
    given? value? (tidied value? declared fields) n = given? value? fields n := by
  rw [given?, given?, tidied, Entries.lookup_filter _ (Entries.nodup_firsts fields),
    Entries.lookup_firsts, Option.filter_filter]
  simp only [hn, Bool.true_and, Bool.and_self]

private theorem preserves_tidies (scope : Scope) : (Tidies scope.value?).Preserves scope := by
  intro name declared _ fields fields' htidy n spec hn
  have hcontains : declared.contains n = true := by rw [Table.contains, hn, Option.isSome_some]
  have hlookup : (tidied scope.value? declared fields).lookup n = fields'.lookup n :=
    Entries.lookup_eq_of_perm htidy.symm (nodup_tidied fields) n
  have hgiven : given? scope.value? fields n = given? scope.value? fields' n := by
    rw [← given?_tidied hcontains fields, given?, given?, hlookup]
  rw [received, received, hgiven]

end Literal

namespace Sample

def untidyStart : List (String × Literal) :=
  [("id", .string "B"), ("id", .null), ("size", .reference "q")]

def tidyStart : List (String × Literal) :=
  [("size", .reference "q"), ("id", .string "B")]

def untidyLeg (start : List (String × Literal)) : List (String × Literal) :=
  [("start", .object start), ("way", .reference "q")]

def tidyLeg : List (String × Literal) :=
  [("start", .object tidyStart)]

/-- Two names that are declared come twice, and the first value of one is a variable without one. -/
def untidyTrip (leg : List (String × Literal)) : List (String × Literal) :=
  [("up", .float "x"), ("start", .reference "p"), ("legs", .list [.object leg]),
   ("start", .object [("id", .int "1")]), ("legs", .null)]

def tidyTrip : List (String × Literal) :=
  [("legs", .list [.object tidyLeg])]

def sized : Bindings :=
  ⟨[("q", .int seven)], by decide⟩

def sizedHarbour : Value :=
  .object [("id", .string "B"), ("size", .int seven), ("unit", .string "KM")]

private theorem rewrites_tidyTrip :
    Literal.Rewrites voyages (Literal.Tidies (voyages.scope (some sized)).value?) journeys
      (.list [.object (untidyTrip (untidyLeg untidyStart))]) (.list [.object tidyTrip]) := by
  have hstart : Literal.Step voyages (Literal.Tidies (voyages.scope (some sized)).value?)
      (.named "Trip" true) (.object (untidyLeg untidyStart)) (.object (untidyLeg tidyStart)) :=
    .field [] [("way", .reference "q")] rfl rfl (.rule rfl (.swap _ _ []))
  have hleg : Literal.Step voyages (Literal.Tidies (voyages.scope (some sized)).value?)
      (.named "Trip" true) (.object (untidyLeg tidyStart)) (.object tidyLeg) :=
    .rule rfl (.refl _)
  have htrip {leg leg' : List (String × Literal)} (h : Literal.Step voyages
      (Literal.Tidies (voyages.scope (some sized)).value?) (.named "Trip" true) (.object leg)
      (.object leg')) :
      Literal.Step voyages (Literal.Tidies (voyages.scope (some sized)).value?) journeys
        (.list [.object (untidyTrip leg)]) (.list [.object (untidyTrip leg')]) :=
    .item [] [] (.field [("up", .float "x"), ("start", .reference "p")]
      [("start", .object [("id", .int "1")]), ("legs", .null)] rfl rfl (.item [] [] h))
  exact .tail (.tail (.single (htrip hstart)) (htrip hleg)) (.item [] [] (.rule rfl (.refl _)))

end Sample

namespace Literal

variable {S : Schema} {vars : Option Bindings}

/-- Literals are read as before once objects in them, anywhere, are tidied. -/
theorem read_tidied {τ : TypeRef} {l l' : Literal}
    (h : Rewrites S (Tidies (S.scope vars).value?) τ l l') : l.read S vars τ = l'.read S vars τ :=
  h.readIn_eq (preserves_tidies (S.scope vars))

theorem read_tidied_sample :
    Rewrites Sample.voyages (Tidies (Sample.voyages.scope (some Sample.sized)).value?)
        Sample.journeys
        (.list [.object (Sample.untidyTrip (Sample.untidyLeg Sample.untidyStart))])
        (.list [.object Sample.tidyTrip]) ∧
      (list [.object Sample.tidyTrip]).read Sample.voyages (some Sample.sized) Sample.journeys =
        some (.list [.object [("start", Sample.harbour),
          ("legs", .list [.object [("start", Sample.sizedHarbour)]])]]) ∧
      (list [.object (Sample.untidyTrip (Sample.untidyLeg Sample.untidyStart))]).read
          Sample.voyages (some Sample.sized) Sample.journeys =
        (list [.object Sample.tidyTrip]).read Sample.voyages (some Sample.sized) Sample.journeys :=
  ⟨Sample.rewrites_tidyTrip, rfl, read_tidied Sample.rewrites_tidyTrip⟩

end Literal

end GraphQLInput
