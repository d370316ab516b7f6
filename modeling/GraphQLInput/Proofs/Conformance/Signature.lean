import GraphQLInput.Proofs.Conformance.Request
/-!
# The arguments of a call have values of their types

Variables are taken as they are, at any depth of a call. What a call receives is of the declared
types all the same, because a variable is declared with a type that suits every place of its use,
and was bound to a value of that type.
-/
namespace GraphQLInput

/-- Every variable that the literal has at the type is declared, with a type that suits its place.
A null of the variable itself is met where it is used, so that the outermost mark of the place asks
for nothing. -/
def Request.Covers (S : Schema) (ds : List VariableDecl) (l : Literal) (τ : TypeRef) : Prop :=
  ∀ x place, l.UsesAt S τ x place → ∃ d ∈ ds, d.name = x ∧ d.type.item.suits place.nullable = true

namespace Request

variable {S : Schema} {settings : Settings} {ds : List VariableDecl} {given vars : Bindings}

private theorem supplies_of_bind (hd : (ds.map VariableDecl.name).Nodup)
    (h : bind S .standard settings ds given = .ok vars) {l : Literal} {τ : TypeRef}
    (hc : Covers S ds l τ) : (S.scope (some vars)).Supplies l τ := by
  intro x place v hx hv hnull
  obtain ⟨d, hm, rfl, hs⟩ := hc x place hx
  exact ((conforms_of_bind hd h hm hv).of_suits hs).of_nullable hnull

end Request

namespace Parameter

variable {S : Schema} {vars : Option Bindings} {call : Call} {p : Parameter}

/-- An entry of a parameter is of its type, as its default and the values of variables are. -/
private theorem Takes.conforms {entry : Option Value} (h : p.Takes S .standard vars call entry)
    (hdefault : ∀ v, p.default? = some v → Conforms S v p.type)
    (hs : ∀ l, call.value? p.name = some l → (S.scope vars).Supplies l.item p.type) {v : Value}
    (hv : entry = some v) : Conforms S v p.type := by
  cases h with
  | absent => exact hdefault v hv
  | null hn =>
      cases hv
      exact .null hn
  | @reference x location w hl hx hw =>
      cases hv
      have hnull : (v.isNull && p.type.isNonNull) = false := by
        rw [Bool.and_eq_false_iff]
        exact .inl (Bool.eq_false_iff.2 (mt Value.isNull_iff.1 hw))
      exact hs _ hl x p.type v .here hx hnull
  | literal hl _ hread =>
      cases hv
      exact Literal.conforms_read (hs _ hl) hread

private theorem Takes.isSome {entry : Option Value} (h : p.Takes S .standard vars call entry)
    (hp : p.default?.isSome = true ∨ p.type.isNonNull = true) : entry.isSome = true := by
  cases h with
  | absent _ hn =>
      rcases hp with hp | hp
      · exact hp
      · cases hd : p.default? with
        | some v => rfl
        | none =>
            rw [hn hd] at hp
            cases hp
  | _ => rfl

end Parameter

namespace Sample

def specs : ArgumentSpecs :=
  [("place", ⟨.named "Place" true, none⟩), ("unit", ⟨.named "Unit" true, some (.enum "KM")⟩),
   ("note", ⟨.named "Any" false, none⟩)]

def call : Call :=
  ⟨[⟨"place", ⟨.object [("near", .reference "p"), ("id", .int "5")], none⟩⟩], none⟩

def arguments : Bindings :=
  ⟨[("place", .object [("id", .string "5"), ("size", .int one), ("unit", .string "KM"),
      ("near", .list [place])]),
    ("unit", .string "KM")], by decide⟩

end Sample

namespace Signature

variable {S : Schema} {settings : Settings} {ds : List VariableDecl} {given vars bound : Bindings}
  {name : String} {specs : ArgumentSpecs} {call : Call}

private theorem names_ofSpecs (S : Schema) (primitives : Primitives) (name : String)
    (specs : ArgumentSpecs) :
    (ofSpecs S primitives name specs).parameters.map Parameter.name = specs.map Prod.fst := by
  rw [ofSpecs, List.map_map]
  rfl

private theorem mem_ofSpecs {primitives : Primitives} {argument : String} {spec : InputSpec}
    (h : (argument, spec) ∈ specs) :
    ⟨argument, spec.type, readDefault S primitives spec⟩ ∈
      (ofSpecs S primitives name specs).parameters :=
  List.mem_map.2 ⟨(argument, spec), h, rfl⟩

private theorem conforms_readDefault {spec : InputSpec} {v : Value}
    (h : readDefault S .standard spec = some v) : Conforms S v spec.type := by
  obtain ⟨l, _, hl⟩ := Option.bind_eq_some_iff.1 h
  exact Literal.conforms_read_none hl

/-- Arguments are bound in the order of their declarations and to values of their types, whatever
variables stand in them. None is left out that must not be null or has a valid default. -/
theorem arguments_conform (hd : (ds.map VariableDecl.name).Nodup)
    (hspecs : (specs.map Prod.fst).Nodup)
    (hcovers : ∀ e ∈ specs, ∀ l, call.value? e.1 = some l →
      Request.Covers S ds l.item e.2.type)
    (hvars : Request.bind S .standard settings ds given = .ok vars)
    (h : (ofSpecs S .standard name specs).bind S .standard call (some vars) = .ok bound) :
    bound.keys.Sublist (specs.map Prod.fst) ∧
      (∀ e ∈ specs, ∀ v, bound.get? e.1 = some v → Conforms S v e.2.type) ∧
      ∀ e ∈ specs, (e.2.type.isNonNull = true ∨ (readDefault S .standard e.2).isSome = true) →
        ∃ v, bound.get? e.1 = some v := by
  obtain ⟨hall, hkeys⟩ := bind_eq_ok ((names_ofSpecs ..).symm ▸ hspecs) h
  have htakes : ∀ e ∈ specs,
      Parameter.Takes S .standard (some vars) call ⟨e.1, e.2.type, readDefault S .standard e.2⟩
        (bound.get? e.1) := fun e he => Parameter.takes_of_bind (hall _ (mem_ofSpecs he))
  refine ⟨names_ofSpecs S .standard name specs ▸ hkeys, ?_, ?_⟩
  · intro e he v hv
    refine (htakes e he).conforms (fun w hw => conforms_readDefault hw) (fun l hl => ?_) hv
    exact Request.supplies_of_bind hd hvars (hcovers e he l hl)
  · intro e he hkept
    exact Option.isSome_iff_exists.1 ((htakes e he).isSome hkept.symm)

private theorem covers_sample : ∀ e ∈ Sample.specs, ∀ l, Sample.call.value? e.1 = some l →
    Request.Covers Sample.schema Sample.declared l.item e.2.type := by
  intro e he l hl x place hx
  simp only [Sample.specs, List.mem_cons, List.not_mem_nil, or_false] at he
  rcases he with rfl | rfl | rfl
  · cases hl
    cases hx with
    | field hf hm hn hx =>
        cases hf
        simp only [List.mem_cons, List.not_mem_nil, or_false, Prod.mk.injEq] at hm
        rcases hm with ⟨rfl, rfl⟩ | ⟨rfl, rfl⟩
        · cases hn
          cases hx
          exact ⟨_, List.mem_cons_self, rfl, rfl⟩
        · cases hx
  · cases hl
  · cases hl

theorem arguments_conform_sample :
    Request.bind Sample.schema .standard .default Sample.declared Sample.given =
        .ok Sample.bound ∧
      (ofSpecs Sample.schema .standard "find" Sample.specs).bind Sample.schema .standard
        Sample.call (some Sample.bound) = .ok Sample.arguments ∧
      Sample.arguments.keys.Sublist (Sample.specs.map Prod.fst) ∧
      (∀ e ∈ Sample.specs, ∀ v, Sample.arguments.get? e.1 = some v →
        Conforms Sample.schema v e.2.type) ∧
      ∀ e ∈ Sample.specs, (e.2.type.isNonNull = true ∨
        (readDefault Sample.schema .standard e.2).isSome = true) →
          ∃ v, Sample.arguments.get? e.1 = some v :=
  have hvars : Request.bind Sample.schema .standard .default Sample.declared Sample.given =
      .ok Sample.bound := rfl
  have h : (ofSpecs Sample.schema .standard "find" Sample.specs).bind Sample.schema .standard
      Sample.call (some Sample.bound) = .ok Sample.arguments := rfl
  ⟨hvars, h, arguments_conform (by decide) (by decide) covers_sample hvars h⟩

end Signature

end GraphQLInput
