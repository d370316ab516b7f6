import GraphQLInput.Proofs.Calls
import GraphQLInput.Proofs.Conformance.Check
import GraphQLInput.Proofs.Conformance.Signature
import GraphQLInput.Proofs.Contexts
import GraphQLInput.Proofs.Influence
import GraphQLInput.Proofs.Rewriting.Basic
/-!
# Defaults written out

To leave a field or an argument out comes to the same as to give it its default. In a literal and
in a call that is the default as it is declared, which is read as it is when nothing is given as
long as no variable stands in it. In given data it is the value of the default, which is checked as
itself.
-/
namespace GraphQLInput

/-- Whether no variable stands in the default. -/
def InputSpec.isClosed (spec : InputSpec) : Bool :=
  spec.default?.all fun d => d.references.isEmpty

/-- No variable stands in the default of a field of an input object. -/
def Schema.DefaultsClosed (S : Schema) : Prop :=
  ∀ t ∈ S.types.entries, ∀ f ∈ t.2.inputFields, f.2.isClosed = true

private theorem InputSpec.references_of_isClosed {spec : InputSpec} {d : Literal}
    (h : spec.isClosed = true) (hd : spec.default? = some d) : d.references = [] := by
  rw [isClosed, hd, Option.all_some] at h
  exact List.isEmpty_iff.1 h

private theorem Schema.DefaultsClosed.references {S : Schema} (hS : S.DefaultsClosed)
    {name n : String} {declared : Table InputSpec} {spec : InputSpec} {d : Literal}
    (hf : S.inputFields? name = some declared) (hn : declared.get? n = some spec)
    (hd : spec.default? = some d) : d.references = [] :=
  InputSpec.references_of_isClosed
    (hS _ (mem_types_of_inputFields? hf) _ (Table.get?_eq_some_iff.1 hn)) hd

namespace Literal

/-- The default of a field that is left out is written among the others. -/
inductive WritesDefault (declared : Table InputSpec) :
    List (String × Literal) → List (String × Literal) → Prop
  | insert {n : String} {spec : InputSpec} {d : Literal} (before after : List (String × Literal)) :
      declared.get? n = some spec → spec.default? = some d →
      n ∉ (before ++ after).map Prod.fst →
      WritesDefault declared (before ++ after) (before ++ (n, d) :: after)

variable {S : Schema}

private theorem received_written {n : String} {spec : InputSpec} {d : Literal}
    (hclosed : d.references = []) {before : List (String × Literal)}
    (hn : n ∉ before.map Prod.fst) (after : List (String × Literal)) (vars : Option Bindings) :
    received (S.scope vars) (before ++ (n, d) :: after) n spec =
      (d.read S none spec.type).map some := by
  have hgiven : given? (S.scope vars).value? (before ++ (n, d) :: after) n = some d := by
    rw [given?, Entries.lookup_append_cons_self hn, Option.filter_some, isUnbound_of_closed hclosed]
    rfl
  rw [received, hgiven, ← read_of_closed hclosed vars]
  rfl

private theorem preserves_writesDefault (hS : S.DefaultsAcyclic) (hclosed : S.DefaultsClosed)
    (vars : Option Bindings) : FieldRule.Preserves WritesDefault (S.scope vars) := by
  intro name declared hf fields fields' hwrites m spec' hm
  cases hwrites with
  | @insert n spec d before after hn hd hfresh =>
      by_cases hmn : m = n
      · subst hmn
        have hspec : spec' = spec := Option.some.inj (hm.symm.trans hn)
        have habsent : given? (S.scope vars).value? (before ++ after) m = none := by
          rw [given?, Entries.lookup_eq_none_iff.2 hfresh, Option.filter_none]
        rw [List.map_append, List.mem_append, not_or] at hfresh
        rw [hspec, received_default hS hf hn hd habsent,
          received_written (hclosed.references hf hn hd) hfresh.1]
      · rw [received, received, given?, given?, Entries.lookup_append_cons_of_ne hmn]

end Literal

namespace Parameter

variable {S : Schema} {vars : Option Bindings} {p : Parameter}

/-- A default binds its parameter alike, whether it is supplied or not. -/
private theorem bind_written {d : Literal} {v : Value} {before after : List Argument}
    {location at? : Option Location} (hclosed : d.references = [])
    (hread : d.read S none p.type = some v) (hp : p.default? = some v)
    (hfresh : ∀ a ∈ before ++ after, a.name ≠ p.name) :
    p.bind S .standard vars ⟨before ++ ⟨p.name, ⟨d, at?⟩⟩ :: after, location⟩ =
      p.bind S .standard vars ⟨before ++ after, location⟩ := by
  have habsent : (⟨before ++ after, location⟩ : Call).value? p.name = none :=
    Call.value?_eq_none hfresh location
  have hsupplied : (⟨before ++ ⟨p.name, ⟨d, at?⟩⟩ :: after, location⟩ : Call).value? p.name =
      some ⟨d, at?⟩ :=
    Call.value?_self (fun a ha => hfresh a (List.mem_append_left after ha)) ⟨d, at?⟩ after location
  have hwritten : p.bind S .standard vars ⟨before ++ ⟨p.name, ⟨d, at?⟩⟩ :: after, location⟩ =
      .ok (some v) := by
    rw [← toOption_eq_some_iff, p.toOption_bind_literal hsupplied
      (Literal.referent?_of_closed hclosed), Literal.read_of_closed hclosed, hread, Option.map_some]
  rw [hwritten, bind, habsent, bindAbsent, hp]

end Parameter

namespace Signature

variable {S : Schema} {vars : Option Bindings} {name n : String} {specs : ArgumentSpecs}

/-- A call is bound alike, or refused for the same fault, with and without a default that the
signature keeps. -/
private theorem bind_written {d : Literal} {before after : List Argument}
    {location at? : Option Location} (hclosed : ∀ e ∈ specs, e.2.isClosed = true)
    (hfresh : ∀ a ∈ before ++ after, a.name ≠ n)
    (hkept : ∀ spec, (n, spec) ∈ specs →
      spec.default? = some d ∧ (readDefault S .standard spec).isSome = true) :
    (ofSpecs S .standard name specs).bind S .standard
        ⟨before ++ ⟨n, ⟨d, at?⟩⟩ :: after, location⟩ vars =
      (ofSpecs S .standard name specs).bind S .standard ⟨before ++ after, location⟩ vars := by
  apply bindAfter_congr
  intro p hp
  obtain ⟨⟨m, spec⟩, he, rfl⟩ := List.mem_map.1 hp
  by_cases hm : n = m
  · subst hm
    obtain ⟨hd, hsome⟩ := hkept spec he
    obtain ⟨v, hv⟩ := Option.isSome_iff_exists.1 hsome
    have hread : d.read S none spec.type = some v := by
      rw [← hv, readDefault, hd]
      rfl
    have hreferences : d.references = [] := InputSpec.references_of_isClosed (hclosed _ he) hd
    exact Parameter.bind_written hreferences hread hv hfresh
  · rw [Parameter.bind, Parameter.bind, Call.value?_of_ne hm]

end Signature

private theorem Checked.eq_ok_of_value? {α : Type} {c : Checked α} {a : α} (h : c.value? = some a) :
    c = .ok a := by
  obtain ⟨result, faults⟩ := c
  cases faults with
  | nil =>
      cases h
      rfl
  | cons f fs => cases h

namespace Value

variable {S : Schema}

/-- A value of a type is checked as itself. -/
private theorem checkAt_of_conforms {v : Value} {τ : TypeRef} (h : Conforms S v τ) (place : Path) :
    v.checkAt S τ place = .ok v :=
  Checked.eq_ok_of_value? ((value?_checkAt S v τ place).trans h.accept?_eq)

/-- An object is checked alike with and without the value of a default. -/
private theorem checkAt_written (hS : S.DefaultsAcyclic) {σ : TypeRef} {declared : Table InputSpec}
    {n : String} {spec : InputSpec} {d : Literal} {w : Value}
    {before after : List (String × Value)} (hf : S.inputFields? σ.base = some declared)
    (hn : declared.get? n = some spec) (hd : spec.default? = some d)
    (hw : d.read S none spec.type = some w) (hfresh : n ∉ (before ++ after).map Prod.fst)
    (place : Path) :
    (object (before ++ (n, w) :: after)).checkAt S σ place =
      (object (before ++ after)).checkAt S σ place := by
  have hreceived : InputSpec.checkEach (checkReceived S (before ++ (n, w) :: after) place)
        declared.entries =
      InputSpec.checkEach (checkReceived S (before ++ after) place) declared.entries := by
    apply InputSpec.checkEach_congr
    rintro ⟨m, spec'⟩ he
    by_cases hm : m = n
    · subst hm
      have hspec : spec' = spec := Option.some.inj ((Table.get?_eq_some_iff.2 he).symm.trans hn)
      have hdefault : S.default? spec = some w := by
        rw [hS.default?_eq hf hn, hd, Option.bind_some, hw]
      have habsent : (before ++ after).lookup m = none := Entries.lookup_eq_none_iff.2 hfresh
      rw [List.map_append, List.mem_append, not_or] at hfresh
      rw [hspec, checkReceived_self hfresh.1,
        checkAt_of_conforms (Literal.conforms_read_none hw), checkReceived, habsent]
      simp only [InputSpec.checkAbsent, hd, hdefault]
      rfl
    · exact checkReceived_of_ne hm w place spec'
  -- the name is declared, so that there is no fault for it either
  have hcontains : declared.contains n = true := by rw [Table.contains, hn, Option.isSome_some]
  have hundeclared : undeclaredFaults declared σ.base place
        ((before ++ (n, w) :: after).map Prod.fst) =
      undeclaredFaults declared σ.base place ((before ++ after).map Prod.fst) := by
    simp [undeclaredFaults, hcontains]
  rw [checkAt_object S _ hf, checkAt_object S _ hf, hreceived, hundeclared]

/-- Data is accepted alike, or refused for the same faults, where objects in it that are checked
alike stand for each other. -/
private theorem check_fill_congr {c : Context} {τ σ : TypeRef} {path : Path}
    (hc : c.Leads S τ path σ) {v w : Value} (h : ∀ place, v.checkAt S σ place = w.checkAt S σ place)
    (location : Option Location) :
    (c.fill v).check S τ location = (c.fill w).check S τ location := by
  obtain ⟨front, back, k, hk⟩ := exists_framed_fill hc []
  rw [check, check, hk v, hk w, h]

end Value

namespace Sample

/-- A schema with a default that is null, and one that is an object where a list is declared and
leaves out fields that have defaults themselves. -/
def cruises : Schema :=
  schema.define [("Cruise", .inputObject
    ⟨[("ports", ⟨.list (.named "Place" true) false, some (.object [("id", .string "A")])⟩),
      ("home", ⟨.named "Place" false, some .null⟩)], by decide⟩)] []

def cruisesRank (name : String) : Nat :=
  if name = "Cruise" then 2 else if name = "Place" then 1 else 0

private theorem defaultsAcyclic_cruises : cruises.DefaultsAcyclic :=
  (Schema.defaultsOffCycles_of_rank cruisesRank (by decide)).acyclic

private theorem defaultsClosed_cruises : cruises.DefaultsClosed := by
  unfold Schema.DefaultsClosed
  decide

def cruise : Literal :=
  .object [("ports", .object [("id", .reference "p")])]

def cruiseWritten : Literal :=
  .object [("home", .null), ("ports", .object [("id", .reference "p"), ("size", .int "1")])]

private theorem rewrites_cruise :
    Literal.Rewrites cruises Literal.WritesDefault (.named "Cruise" true) cruise cruiseWritten := by
  have hsize : Literal.Step cruises Literal.WritesDefault (.named "Cruise" true) cruise
      (.object [("ports", .object [("id", .reference "p"), ("size", .int "1")])]) :=
    .field [] [] rfl rfl (.rule rfl (.insert [("id", .reference "p")] [] rfl rfl (by decide)))
  exact .tail (.single hsize)
    (.rule rfl (.insert [] [("ports", .object [("id", .reference "p"), ("size", .int "1")])] rfl rfl
      (by decide)))

def passenger : Bindings :=
  ⟨[("p", .string "B")], by decide⟩

def cruised : Value :=
  .object
    [("ports", .list [.object [("id", .string "B"), ("size", .int one), ("unit", .string "KM")]]),
     ("home", .null)]

def booking : ArgumentSpecs :=
  [("cruise", ⟨.named "Cruise" true, some (.object [])⟩),
   ("unit", ⟨.named "Unit" true, none⟩)]

def unitArgument : Argument :=
  ⟨"unit", ⟨.enum "KM", none⟩⟩

/-- Data that is refused for its first item, and whose second one leaves out a default. -/
def sailed (entries : List (String × Value)) : Value :=
  .list [.null, .object (("home", .object []) :: entries)]

def booked : Bindings :=
  ⟨[("cruise", .object [("ports", .list [harbour]), ("home", .null)]), ("unit", .string "KM")],
    by decide⟩

end Sample

namespace Schema

variable {S : Schema}

/-- To write a default out changes nothing: the literal of a field in an object, the literal of an
argument in a call, or its value in an object of given data. -/
theorem outcomes_eq_of_written (hS : S.DefaultsAcyclic) (hclosed : S.DefaultsClosed) :
    (∀ (vars : Option Bindings) (τ : TypeRef) (l l' : Literal),
      Literal.Rewrites S Literal.WritesDefault τ l l' → l.read S vars τ = l'.read S vars τ) ∧
    (∀ (vars : Option Bindings) (name n : String) (specs : ArgumentSpecs) (d : Literal)
      (before after : List Argument) (location at? : Option Location),
      (∀ e ∈ specs, e.2.isClosed = true) → (∀ a ∈ before ++ after, a.name ≠ n) →
      (∀ spec, (n, spec) ∈ specs → spec.default? = some d ∧
        (Signature.readDefault S .standard spec).isSome = true) →
      (Signature.ofSpecs S .standard name specs).bind S .standard
          ⟨before ++ after, location⟩ vars =
        (Signature.ofSpecs S .standard name specs).bind S .standard
          ⟨before ++ ⟨n, ⟨d, at?⟩⟩ :: after, location⟩ vars) ∧
    ∀ (τ σ : TypeRef) (c : Context) (path : Path) (declared : Table InputSpec) (n : String)
      (spec : InputSpec) (d : Literal) (w : Value) (before after : List (String × Value))
      (location : Option Location),
      c.Leads S τ path σ → S.inputFields? σ.base = some declared →
      declared.get? n = some spec → spec.default? = some d → d.read S none spec.type = some w →
      n ∉ (before ++ after).map Prod.fst →
      (c.fill (.object (before ++ after))).check S τ location =
        (c.fill (.object (before ++ (n, w) :: after))).check S τ location := by
  refine ⟨?_, ?_, ?_⟩
  · exact fun vars τ l l' h => h.readIn_eq (Literal.preserves_writesDefault hS hclosed vars)
  · exact fun vars name n specs d before after location at? hspecs hfresh hkept =>
      (Signature.bind_written hspecs hfresh hkept).symm
  · intro τ σ c path declared n spec d w before after location hc hf hn hd hw hfresh
    exact Value.check_fill_congr hc
      (fun place => (Value.checkAt_written hS hf hn hd hw hfresh place).symm) location

theorem outcomes_eq_of_written_sample :
    Sample.cruises.DefaultsAcyclic ∧ Sample.cruises.DefaultsClosed ∧
      Literal.Rewrites Sample.cruises Literal.WritesDefault (.named "Cruise" true) Sample.cruise
        Sample.cruiseWritten ∧
      Sample.cruise.read Sample.cruises (some Sample.passenger) (.named "Cruise" true) =
        some Sample.cruised ∧
      Sample.cruise.read Sample.cruises (some Sample.passenger) (.named "Cruise" true) =
        Sample.cruiseWritten.read Sample.cruises (some Sample.passenger) (.named "Cruise" true) ∧
      (Signature.ofSpecs Sample.cruises .standard "book" Sample.booking).bind Sample.cruises
          .standard ⟨[Sample.unitArgument], some 1⟩ none = .ok Sample.booked ∧
      (Signature.ofSpecs Sample.cruises .standard "book" Sample.booking).bind Sample.cruises
          .standard ⟨[Sample.unitArgument], some 1⟩ none =
        (Signature.ofSpecs Sample.cruises .standard "book" Sample.booking).bind Sample.cruises
          .standard ⟨[Sample.unitArgument, ⟨"cruise", ⟨.object [], some 2⟩⟩], some 1⟩ none ∧
      (Sample.sailed []).check Sample.cruises (.list (.named "Cruise" true) false) (some 3) =
        (Sample.sailed [("ports", .list [Sample.harbour])]).check Sample.cruises
          (.list (.named "Cruise" true) false) (some 3) := by
  have hS := Sample.defaultsAcyclic_cruises
  have hclosed := Sample.defaultsClosed_cruises
  have heq := outcomes_eq_of_written hS hclosed
  have hread := heq.1 (some Sample.passenger) (.named "Cruise" true) _ _ Sample.rewrites_cruise
  refine ⟨hS, hclosed, Sample.rewrites_cruise, rfl, hread, rfl, ?_, ?_⟩
  · apply heq.2.1 none "book" "cruise" Sample.booking (.object []) [Sample.unitArgument] []
      (some 1) (some 2) (by decide) (by decide)
    intro spec hspec
    have hdeclared : spec = ⟨.named "Cruise" true, some (.object [])⟩ := by
      simpa [Sample.booking] using hspec
    rw [hdeclared]
    exact ⟨rfl, rfl⟩
  · exact heq.2.2 _ _ (.item [.null] .hole []) _ _ "ports" _ _ _ [("home", .object [])] []
      (some 3) (.item .hole) rfl rfl rfl rfl (by decide)

end Schema

end GraphQLInput
