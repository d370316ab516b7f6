import GraphQLInput.Proofs.Reading
import GraphQLInput.Signature
/-!
# What a call gives

A parameter receives the value of what is given for it, and otherwise what it does when it is left
out, as the field of an object does. A variable without a value gives nothing. Whether a signature
can be bound, and to what, follows from what its parameters receive.
-/
namespace GraphQLInput

theorem toOption_eq_some_iff {ε α : Type} {r : Except ε α} {a : α} :
    r.toOption = some a ↔ r = .ok a := by
  cases r <;> simp [Except.toOption]

namespace Call

/-- The first literal that is supplied for a name, if it has a value. -/
def given? (vars : Option Bindings) (call : Call) (name : String) : Option Literal :=
  ((call.value? name).map Located.item).filter fun l => !l.isUnbound fun x => vars.bind (·.get? x)

theorem value?_of_given? {vars : Option Bindings} {call : Call} {name : String} {l : Literal}
    (h : call.given? vars name = some l) :
    ∃ location, call.value? name = some ⟨l, location⟩ := by
  obtain ⟨l', hl', rfl⟩ := Option.map_eq_some_iff.1 (Option.filter_eq_some_iff.1 h).1
  exact ⟨l'.location, hl'⟩

/-- The supplied values under their names, in order. -/
def entries (call : Call) : List (String × Located Literal) :=
  call.arguments.map fun a => (a.name, a.value)

theorem value?_eq_lookup (call : Call) (name : String) :
    call.value? name = call.entries.lookup name := by
  obtain ⟨arguments, location⟩ := call
  rw [value?, entries]
  induction arguments with
  | nil => rfl
  | cons a arguments ih =>
      rw [List.map_cons, Entries.lookup_cons, List.find?_cons]
      by_cases hn : a.name = name
      · simp [hn]
      · simp only [hn, decide_false, Ne.symm hn, if_false]
        exact ih

theorem value?_eq_none {name : String} {arguments : List Argument}
    (h : ∀ a ∈ arguments, a.name ≠ name) (location : Option Location) :
    (⟨arguments, location⟩ : Call).value? name = none := by
  rw [value?_eq_lookup, Entries.lookup_eq_none_iff]
  simpa [entries] using h

theorem value?_self {name : String} {before : List Argument}
    (h : ∀ a ∈ before, a.name ≠ name) (l : Located Literal) (after : List Argument)
    (location : Option Location) :
    (⟨before ++ ⟨name, l⟩ :: after, location⟩ : Call).value? name = some l := by
  have hfresh : name ∉ (before.map fun a => (a.name, a.value)).map Prod.fst := by
    simpa using h
  rw [value?_eq_lookup, entries, List.map_append, List.map_cons]
  exact Entries.lookup_append_cons_self hfresh l _

/-- An argument does not show under another name. -/
theorem value?_of_ne {name : String} {a : Argument} (h : a.name ≠ name)
    (before after : List Argument) (location : Option Location) :
    (⟨before ++ a :: after, location⟩ : Call).value? name =
      (⟨before ++ after, location⟩ : Call).value? name := by
  rw [value?_eq_lookup, value?_eq_lookup, entries, entries, List.map_append, List.map_append,
    List.map_cons]
  exact Entries.lookup_append_cons_of_ne (Ne.symm h) a.value _ _

end Call

namespace Parameter

variable {S : Schema} {vars : Option Bindings} {call : Call} (p : Parameter)

/-- The entry that the parameter gets where nothing is given for it. -/
def absent? : Option (Option Value) :=
  match p.default? with
  | some v => some (some v)
  | none => if p.type.isNonNull then none else some none

private theorem toOption_bindAbsent (fault : Fault) :
    (p.bindAbsent fault).toOption = p.absent? := by
  rw [bindAbsent, absent?]
  cases p.default? with
  | some v => rfl
  | none => cases p.type.isNonNull <;> rfl

private theorem toOption_bindNull (location : Option Location) :
    (p.bindNull location).toOption = (Literal.null.read S vars p.type).map some := by
  rw [bindNull, Literal.read, Literal.readIn]
  cases p.type.isNonNull <;> rfl

private theorem toOption_bind_reference {x : String} {location : Option Location} {v : Value}
    (hl : call.value? p.name = some ⟨.reference x, location⟩)
    (hx : vars.bind (·.get? x) = some v) :
    (p.bind S .standard vars call).toOption =
      ((Literal.reference x).read S vars p.type).map some := by
  have hread : (Literal.reference x).read S vars p.type =
      (some v).filter fun v => !(v.isNull && p.type.isNonNull) := by
    rw [← hx]
    rfl
  rw [hread]
  cases v with
  | null =>
      simp only [bind, hl, hx, bindNull]
      cases p.type.isNonNull <;> rfl
  | _ =>
      simp only [bind, hl, hx]
      rfl

theorem toOption_bind_literal {l : Literal} {location : Option Location}
    (hl : call.value? p.name = some ⟨l, location⟩) (href : l.referent? = none) :
    (p.bind S .standard vars call).toOption = (l.read S vars p.type).map some := by
  have hliteral : Primitives.standard.literal S vars p.type l = l.read S vars p.type := rfl
  cases l with
  | null =>
      simp only [bind, hl]
      exact p.toOption_bindNull _
  | reference x => cases href
  | _ =>
      simp only [bind, hl, hliteral]
      cases Literal.read S vars p.type _ <;> rfl

/-- A parameter gets the value of what is given for it. -/
theorem toOption_bind :
    (p.bind S .standard vars call).toOption =
      match call.given? vars p.name with
      | some l => (l.read S vars p.type).map some
      | none => p.absent? := by
  rw [Call.given?]
  cases hl : call.value? p.name with
  | none =>
      simp only [bind, hl]
      exact p.toOption_bindAbsent _
  | some l =>
      obtain ⟨l, location⟩ := l
      cases hr : l.referent? with
      | none =>
          rw [Option.map_some, Option.filter_some, Literal.isUnbound, hr]
          exact p.toOption_bind_literal hl hr
      | some x =>
          obtain rfl := Literal.referent?_eq_some_iff.1 hr
          cases hx : vars.bind (·.get? x) with
          | none =>
              simp only [bind, hl, hx, Option.map_some, Option.filter_some, Literal.isUnbound,
                Literal.referent?, Option.any_some]
              exact p.toOption_bindAbsent _
          | some v =>
              rw [p.toOption_bind_reference hl hx]
              simp only [hx, Option.map_some, Option.filter_some, Literal.isUnbound,
                Literal.referent?, Option.any_some]
              rfl

end Parameter

namespace Signature

/-- A signature is bound alike where each of its parameters is. -/
theorem toOption_bindAfter_congr {S : Schema} {primitives : Primitives}
    {vars vars' : Option Bindings} {call call' : Call} {ps : List Parameter}
    (h : ∀ p ∈ ps, (p.bind S primitives vars call).toOption =
      (p.bind S primitives vars' call').toOption) (bound : Bindings) :
    (bindAfter S primitives vars call ps bound).toOption =
      (bindAfter S primitives vars' call' ps bound).toOption := by
  induction ps generalizing bound with
  | nil => rfl
  | cons p ps ih =>
      rw [List.forall_mem_cons] at h
      have hp := h.1
      rw [bindAfter, bindAfter]
      cases h₁ : p.bind S primitives vars call <;> cases h₂ : p.bind S primitives vars' call' <;>
        rw [h₁, h₂] at hp <;> cases hp
      · rfl
      · rename_i entry
        cases entry <;> exact ih h.2 _

end Signature

end GraphQLInput
