import GraphQLInput.Proofs.FirstFault
/-!
# Absent, null and given

What a call supplies for a parameter is absent, an explicit null, a value, or a literal that is yet
to be read, and a variable without a value is as good as nothing. Each of these leads to one entry
or to one kind of fault. The default of a parameter is used where what is supplied is absent and
nowhere else.
-/
namespace GraphQLInput

/-- What is supplied for a parameter. -/
inductive Supplied where
  | slot (s : Slot)
  | literal (l : Literal)

/-- What the first value for a name supplies. A variable supplies what it holds. -/
def Call.supplied (vars : Option Bindings) (call : Call) (name : String) : Supplied :=
  match (call.value? name).map Located.item with
  | none => .slot .absent
  | some .null => .slot .null
  | some (.reference x) => .slot ((vars.getD .empty).slot x)
  | some l => .literal l

namespace Parameter

/-- The entry of a parameter, or that there is none, by what is supplied for it. -/
inductive Receives (S : Schema) (primitives : Primitives) (vars : Option Bindings) (call : Call)
    (p : Parameter) : Option Value → Prop
  | absent :
      call.supplied vars p.name = .slot .absent → (p.default? = none → p.type.isNonNull = false) →
      Receives S primitives vars call p p.default?
  | null :
      call.supplied vars p.name = .slot .null → p.type.isNonNull = false →
      Receives S primitives vars call p (some .null)
  | value {v : Value} :
      call.supplied vars p.name = .slot (.value v) → Receives S primitives vars call p (some v)
  | literal {l : Literal} {v : Value} :
      call.supplied vars p.name = .literal l → primitives.literal S vars p.type l = some v →
      Receives S primitives vars call p (some v)

/-- The kind of fault that a parameter is refused for, by what is supplied for it. -/
inductive Refused (S : Schema) (primitives : Primitives) (vars : Option Bindings) (call : Call)
    (p : Parameter) : Kind → Prop
  | missing :
      call.supplied vars p.name = .slot .absent → p.default? = none → p.type.isNonNull = true →
      Refused S primitives vars call p .missing
  | null :
      call.supplied vars p.name = .slot .null → p.type.isNonNull = true →
      Refused S primitives vars call p .null
  | invalid {l : Literal} :
      call.supplied vars p.name = .literal l → primitives.literal S vars p.type l = none →
      Refused S primitives vars call p .invalid

variable {S : Schema} {primitives : Primitives} {vars : Option Bindings} {call : Call}
  {p : Parameter}

/-- A parameter is bound by one rule for each state of what is supplied. -/
private theorem bind_supplied (S : Schema) (primitives : Primitives) (vars : Option Bindings)
    (call : Call) (p : Parameter) :
    match call.supplied vars p.name with
    | .slot .absent =>
      ∃ f : Fault, f.kind = .missing ∧ p.bind S primitives vars call = p.bindAbsent f
    | .slot .null => ∃ location, p.bind S primitives vars call = p.bindNull location
    | .slot (.value v) => p.bind S primitives vars call = .ok (some v)
    | .literal l => ∃ location, p.bind S primitives vars call =
      match primitives.literal S vars p.type l with
      | some v => .ok (some v)
      | none => .error ⟨.invalidArgument p.name l, location⟩ := by
  rw [Call.supplied, bind]
  cases call.value? p.name with
  | none => exact ⟨_, rfl, rfl⟩
  | some given =>
      obtain ⟨l, location⟩ := given
      cases l with
      | null => exact ⟨_, rfl⟩
      | reference x =>
          have hx : (vars.getD .empty).get? x = vars.bind (·.get? x) := by cases vars <;> rfl
          simp only [Option.map_some, Table.slot, hx]
          cases vars.bind (·.get? x) with
          | none => exact ⟨_, rfl, rfl⟩
          | some v =>
              cases v with
              | null => exact ⟨_, rfl⟩
              | _ => rfl
      | _ => exact ⟨location, rfl⟩

private theorem bind_of_receives {entry : Option Value}
    (h : p.Receives S primitives vars call entry) :
    p.bind S primitives vars call = .ok entry := by
  have hbind := bind_supplied S primitives vars call p
  cases h with
  | absent hs hdefault =>
      rw [hs] at hbind
      obtain ⟨f, -, hbind⟩ := hbind
      rw [hbind, bindAbsent]
      cases hd : p.default? with
      | some v => rfl
      | none => simp [hdefault hd]
  | null hs hn =>
      rw [hs] at hbind
      obtain ⟨location, hbind⟩ := hbind
      simp [hbind, bindNull, hn]
  | value hs =>
      rw [hs] at hbind
      exact hbind
  | literal hs hv =>
      rw [hs] at hbind
      obtain ⟨location, hbind⟩ := hbind
      simp only [hbind, hv]

private theorem bind_of_refused {kind : Kind} (h : p.Refused S primitives vars call kind) :
    ∃ f, p.bind S primitives vars call = .error f ∧ f.kind = kind := by
  have hbind := bind_supplied S primitives vars call p
  cases h with
  | missing hs hd hn =>
      rw [hs] at hbind
      obtain ⟨f, hkind, hbind⟩ := hbind
      refine ⟨f, ?_, hkind⟩
      simp only [hbind, bindAbsent, hd, hn, if_true]
  | null hs hn =>
      rw [hs] at hbind
      obtain ⟨location, hbind⟩ := hbind
      refine ⟨⟨.nullArgument p.name p.type, location⟩, ?_, rfl⟩
      simp only [hbind, bindNull, hn, if_true]
  | @invalid l hs hl =>
      rw [hs] at hbind
      obtain ⟨location, hbind⟩ := hbind
      refine ⟨⟨.invalidArgument p.name l, location⟩, ?_, rfl⟩
      simp only [hbind, hl]

theorem receives_or_refused (S : Schema) (primitives : Primitives) (vars : Option Bindings)
    (call : Call) (p : Parameter) :
    (∃ entry, p.Receives S primitives vars call entry) ∨
      ∃ kind, p.Refused S primitives vars call kind := by
  cases hs : call.supplied vars p.name with
  | slot s =>
      cases s with
      | absent =>
          by_cases h : p.default? = none → p.type.isNonNull = false
          · exact .inl ⟨_, .absent hs h⟩
          · simp only [Classical.not_imp, Bool.not_eq_false] at h
            exact .inr ⟨_, .missing hs h.1 h.2⟩
      | null =>
          cases hn : p.type.isNonNull with
          | false => exact .inl ⟨_, .null hs hn⟩
          | true => exact .inr ⟨_, .null hs hn⟩
      | value v => exact .inl ⟨_, .value hs⟩
  | literal l =>
      cases hl : primitives.literal S vars p.type l with
      | some v => exact .inl ⟨_, .literal hs hl⟩
      | none => exact .inr ⟨_, .invalid hs hl⟩

theorem receives_iff {entry : Option Value} :
    p.Receives S primitives vars call entry ↔ p.bind S primitives vars call = .ok entry := by
  refine ⟨bind_of_receives, fun h => ?_⟩
  rcases receives_or_refused S primitives vars call p with ⟨entry', h'⟩ | ⟨kind, hk⟩
  · cases h.symm.trans (bind_of_receives h')
    exact h'
  · obtain ⟨f, hf, _⟩ := bind_of_refused hk
    cases h.symm.trans hf

theorem refused_iff {kind : Kind} :
    p.Refused S primitives vars call kind ↔
      ∃ f, p.bind S primitives vars call = .error f ∧ f.kind = kind := by
  refine ⟨bind_of_refused, fun ⟨f, hf, hkind⟩ => ?_⟩
  rcases receives_or_refused S primitives vars call p with ⟨entry, h⟩ | ⟨kind', hk⟩
  · cases hf.symm.trans (bind_of_receives h)
  · obtain ⟨f', hf', hkind'⟩ := bind_of_refused hk
    cases hf.symm.trans hf'
    exact hkind.symm.trans hkind' ▸ hk

end Parameter

namespace Fault

variable {α : Type} {r : Except Fault α}

private theorem of?_eq_some_iff {f : Fault} : of? r = some f ↔ r = .error f := by
  cases r <;> simp [of?]

private theorem of?_eq_none_iff : of? r = none ↔ ∃ a, r = .ok a := by
  cases r <;> simp [of?]

end Fault

namespace Signature

variable {S : Schema} {primitives : Primitives} {vars : Option Bindings} {call : Call}
  {s : Signature}

/-- A binding fails at the first parameter that is refused. -/
private theorem bind_eq_error_iff {f : Fault} :
    s.bind S primitives call vars = .error f ↔
      ∃ front p back, s.parameters = front ++ p :: back ∧
        (∀ q ∈ front, ∃ entry, q.Receives S primitives vars call entry) ∧
        p.bind S primitives vars call = .error f := by
  rw [← Fault.of?_eq_some_iff, of?_bind, firstFault?, List.findSome?_eq_some_iff]
  simp only [Fault.of?_eq_some_iff, Fault.of?_eq_none_iff, Parameter.receives_iff]
  constructor
  · rintro ⟨front, p, back, hs, hp, hfront⟩
    exact ⟨front, p, back, hs, hfront, hp⟩
  · rintro ⟨front, p, back, hs, hfront, hp⟩
    exact ⟨front, p, back, hs, hp, hfront⟩

end Signature

namespace Sample

/-- What is supplied for the five parameters is absent, null, the value of a variable, a literal,
and a variable without a value. -/
def guide : Signature :=
  ⟨"guide", [⟨"unit", .named "Unit" true, some .null⟩,
    ⟨"size", .named "Int" false, some (.int one)⟩, ⟨"at", .named "Float" true, none⟩,
    ⟨"place", .named "Place" true, none⟩, ⟨"note", .named "Any" false, none⟩]⟩

def guideCall : Call :=
  ⟨[⟨"note", ⟨.reference "lost", none⟩⟩, ⟨"place", ⟨.object [("id", .int "5")], some 4⟩⟩,
    ⟨"at", ⟨.reference "where", none⟩⟩, ⟨"size", ⟨.null, none⟩⟩, ⟨"size", ⟨.int "3", none⟩⟩],
    some 9⟩

def whereabouts : Bindings :=
  ⟨[("where", .string "B")], by decide⟩

def guided : Bindings :=
  ⟨[("unit", .null), ("size", .null), ("at", .string "B"), ("place", visited)], by decide⟩

end Sample

namespace Signature

variable {S : Schema} {primitives : Primitives} {vars : Option Bindings} {call : Call}
  {s : Signature}

/-- A binding holds just what each parameter receives by what is supplied for it, in the order of
the signature. It fails where some parameter is refused, with the kind of fault of the first one
that is. -/
theorem bind_by_supplied (hd : (s.parameters.map Parameter.name).Nodup) :
    (∀ bound, s.bind S primitives call vars = .ok bound →
      bound.keys.Sublist (s.parameters.map Parameter.name) ∧
        ∀ p ∈ s.parameters, p.Receives S primitives vars call (bound.get? p.name)) ∧
      ((∃ f, s.bind S primitives call vars = .error f) ↔
        ∃ p ∈ s.parameters, ∃ kind, p.Refused S primitives vars call kind) ∧
      ∀ f, s.bind S primitives call vars = .error f →
        ∃ front p back, s.parameters = front ++ p :: back ∧
          (∀ q ∈ front, ∃ entry, q.Receives S primitives vars call entry) ∧
          p.Refused S primitives vars call f.kind := by
  have hfirst : ∀ f, s.bind S primitives call vars = .error f →
      ∃ front p back, s.parameters = front ++ p :: back ∧
        (∀ q ∈ front, ∃ entry, q.Receives S primitives vars call entry) ∧
        p.Refused S primitives vars call f.kind := by
    intro f hf
    obtain ⟨front, p, back, hs, hfront, hp⟩ := bind_eq_error_iff.1 hf
    exact ⟨front, p, back, hs, hfront, Parameter.refused_iff.2 ⟨f, hp, rfl⟩⟩
  refine ⟨fun bound hbound => ?_, ⟨?_, ?_⟩, hfirst⟩
  · obtain ⟨hall, hkeys⟩ := bind_eq_ok hd hbound
    exact ⟨hkeys, fun p hp => Parameter.receives_iff.2 (hall p hp)⟩
  · rintro ⟨f, hf⟩
    obtain ⟨front, p, back, hs, -, hp⟩ := hfirst f hf
    exact ⟨p, by simp [hs], f.kind, hp⟩
  · rintro ⟨p, hp, kind, hrefused⟩
    obtain ⟨f, hf, -⟩ := Parameter.bind_of_refused hrefused
    cases hbind : s.bind S primitives call vars with
    | error g => exact ⟨g, rfl⟩
    | ok bound =>
        have hok := (bind_eq_ok hd hbind).1 p hp
        cases hf.symm.trans hok

/-- The same call is bound with a value for the variable of a required argument, and refused
without one. -/
theorem bind_by_supplied_sample :
    (Sample.guide.parameters.map Parameter.name).Nodup ∧
      Sample.guide.bind Sample.schema .standard Sample.guideCall (some Sample.whereabouts) =
        .ok Sample.guided ∧
      (∀ p ∈ Sample.guide.parameters,
        p.Receives Sample.schema .standard (some Sample.whereabouts) Sample.guideCall
          (Sample.guided.get? p.name)) ∧
      ∃ front p back, Sample.guide.parameters = front ++ p :: back ∧
        (∀ q ∈ front, ∃ entry, q.Receives Sample.schema .standard none Sample.guideCall entry) ∧
        p.Refused Sample.schema .standard none Sample.guideCall .missing :=
  have hd : (Sample.guide.parameters.map Parameter.name).Nodup := by decide
  ⟨hd, rfl, ((bind_by_supplied hd).1 Sample.guided rfl).2,
    (bind_by_supplied hd).2.2 ⟨.unboundArgument "at" (.named "Float" true) "where", some 9⟩ rfl⟩

end Signature

end GraphQLInput
