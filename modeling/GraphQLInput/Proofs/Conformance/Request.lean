import GraphQLInput.Proofs.Binding
import GraphQLInput.Proofs.Conformance.Check
/-!
# The variables of a request have values of their types

A variable is unset, null or bound to a value of its declared type, and which of these it is
depends on what is given for it and on its default. Binding what was bound once more gives the same
variables.
-/
namespace GraphQLInput

namespace VariableDecl

variable {S : Schema} {given : Bindings} {d : VariableDecl}

/-- What a declaration comes to without a fault. An explicit null passes the default by. -/
inductive Binds (S : Schema) (given : Bindings) (d : VariableDecl) : Option Value → Prop
  | default {l : Located Literal} {w : Value} :
      given.get? d.name = none → d.default? = some l → l.item.read S none d.type.item = some w →
      Binds S given d (some w)
  | unset :
      given.get? d.name = none → d.default? = none → d.type.item.isNonNull = false →
      Binds S given d none
  | null :
      given.get? d.name = some .null → d.type.item.isNonNull = false →
      Binds S given d (some .null)
  | value {v w : Value} :
      given.get? d.name = some v → v ≠ .null → v.check S d.type.item d.location = .ok w →
      Binds S given d (some w)

theorem binds_of_faultless (h : (d.bind S .standard given).faults = []) :
    (S.inputTypeOf? d.type.item).isNone = false ∧
      d.Binds S given (d.bind S .standard given).entry := by
  cases hi : (S.inputTypeOf? d.type.item).isNone with
  | true =>
      rw [bind_of_notInput hi] at h
      cases h
  | false =>
      refine ⟨rfl, ?_⟩
      cases hg : given.get? d.name with
      | none =>
          cases hd : d.default? with
          | none =>
              rw [bind_of_missing hi hg hd] at h ⊢
              cases hn : d.type.item.isNonNull with
              | true => simp [hn, Contribution.failed] at h
              | false => exact .unset hg hd hn
          | some l =>
              rw [bind_of_default hi hg hd] at h ⊢
              cases hl : Primitives.standard.literal S none d.type.item l.item with
              | none => simp [hl, Contribution.failed] at h
              | some w => exact .default hg hd hl
      | some v =>
          by_cases hv : v = .null
          · subst hv
            rw [bind_of_null hi hg] at h ⊢
            cases hn : d.type.item.isNonNull with
            | true => simp [hn, Contribution.failed] at h
            | false => exact .null hg hn
          · rw [bind_of_value hi hg hv] at h ⊢
            cases hc : Primitives.standard.value S d.type.item d.location v with
            | ok w => exact .value hg hv hc
            | error fs =>
                simp only [hc, List.map_eq_nil_iff] at h
                exact absurd (h ▸ hc) (Value.check_ne_error_nil S)

private theorem bind_of_binds {entry : Option Value}
    (hi : (S.inputTypeOf? d.type.item).isNone = false) (h : d.Binds S given entry) :
    d.bind S .standard given = ⟨entry, []⟩ := by
  cases h with
  | default hg hd hl =>
      rw [bind_of_default hi hg hd]
      simp only [Primitives.standard, hl]
      rfl
  | unset hg hd hn =>
      rw [bind_of_missing hi hg hd, hn]
      rfl
  | null hg hn =>
      rw [bind_of_null hi hg, hn]
      rfl
  | value hg hv hc =>
      rw [bind_of_value hi hg hv]
      simp only [Primitives.standard, hc]
      rfl

private theorem Binds.conforms {entry : Option Value} {w : Value} (h : d.Binds S given entry)
    (hw : entry = some w) : Conforms S w d.type.item := by
  cases h with
  | default _ _ hl =>
      cases hw
      exact Literal.conforms_read_none hl
  | unset => cases hw
  | null _ hn =>
      cases hw
      exact .null hn
  | value _ _ hc =>
      cases hw
      exact (Value.conforms_accept? _ _ _ ((Value.check_eq_ok_iff S).1 hc)).1

private theorem binds_of_conforms {w : Value} (hg : given.get? d.name = some w)
    (hw : Conforms S w d.type.item) : d.Binds S given (some w) := by
  by_cases hnull : w = .null
  · subst hnull
    exact .null hg (Conforms.null_iff.1 hw)
  · exact .value hg hnull ((Value.check_eq_ok_iff S).2 hw.accept?_eq)

private theorem Binds.rebinds {entry : Option Value} {bound : Bindings} (h : d.Binds S given entry)
    (hb : bound.get? d.name = entry) : d.Binds S bound entry := by
  cases entry with
  | some w => exact binds_of_conforms hb (h.conforms rfl)
  | none =>
      cases h with
      | unset _ hd hn => exact .unset hb hd hn

/-- A declaration comes to the same once its own entry is what is given for it. -/
theorem bind_rebind {bound : Bindings} (hf : (d.bind S .standard given).faults = [])
    (hb : bound.get? d.name = (d.bind S .standard given).entry) :
    d.bind S .standard bound = d.bind S .standard given := by
  obtain ⟨hi, hbinds⟩ := binds_of_faultless hf
  rw [bind_of_binds hi (hbinds.rebinds hb), bind_of_binds hi hbinds]

/-- What is promised of a variable's entry. -/
structure Outcome (S : Schema) (given : Bindings) (d : VariableDecl) (entry : Option Value) :
    Prop where
  unset_iff : entry = none ↔
    given.get? d.name = none ∧ d.default? = none ∧ d.type.item.isNonNull = false
  null : given.get? d.name = some .null → entry = some .null ∧ d.type.item.isNonNull = false
  value : ∀ v, given.get? d.name = some v → v ≠ .null →
    ∃ w, entry = some w ∧ v.check S d.type.item d.location = .ok w ∧ w ≠ .null ∧
      Conforms S w d.type.item
  default : ∀ l, given.get? d.name = none → d.default? = some l →
    ∃ w, entry = some w ∧ l.item.read S none d.type.item = some w ∧ Conforms S w d.type.item
  nonNull : d.type.item.isNonNull = true → ∃ w, entry = some w ∧ w ≠ .null

private theorem Binds.eq_none_iff {entry : Option Value} (h : d.Binds S given entry) :
    entry = none ↔
      given.get? d.name = none ∧ d.default? = none ∧ d.type.item.isNonNull = false := by
  cases h with
  | default _ hd _ => simp [hd]
  | unset hg hd hn => simp [hg, hd, hn]
  | null hg _ => simp [hg]
  | value hg _ _ => simp [hg]

private theorem Binds.ne_null {entry : Option Value} (h : d.Binds S given entry)
    (hn : d.type.item.isNonNull = true) : ∃ w, entry = some w ∧ w ≠ .null := by
  have hne : entry ≠ none := by
    rw [Ne, h.eq_none_iff, hn]
    simp
  obtain ⟨w, hw⟩ := Option.ne_none_iff_exists'.1 hne
  exact ⟨w, hw, (h.conforms hw).ne_null hn⟩

private theorem Binds.outcome {entry : Option Value} (h : d.Binds S given entry) :
    d.Outcome S given entry := by
  refine ⟨h.eq_none_iff, ?_, ?_, ?_, h.ne_null⟩
  · intro hnull
    cases h with
    | null _ hn => exact ⟨rfl, hn⟩
    | value hg hv _ => exact absurd (Option.some.inj (hg.symm.trans hnull)) hv
    | _ hg => cases hg.symm.trans hnull
  · intro v hgiven hne
    cases h with
    | null hg _ => exact absurd (Option.some.inj (hgiven.symm.trans hg)) hne
    | @value _ w hg _ hc =>
        cases hg.symm.trans hgiven
        have haccept := Value.conforms_accept? _ _ _ ((Value.check_eq_ok_iff S).1 hc)
        exact ⟨w, rfl, hc, haccept.2 hne, haccept.1⟩
    | _ hg => cases hg.symm.trans hgiven
  · intro l hgiven hdefault
    cases h with
    | @default _ w _ hd hl =>
        cases hd.symm.trans hdefault
        exact ⟨w, rfl, hl, Literal.conforms_read_none hl⟩
    | unset _ hd _ => cases hd.symm.trans hdefault
    | _ hg => cases hg.symm.trans hgiven

end VariableDecl

namespace Sample

def declared : List VariableDecl :=
  [⟨"p", ⟨.list (.named "Place" true) true, none⟩, none, none⟩,
   ⟨"n", ⟨.list (.named "Int" true) false, none⟩, some ⟨.int "7", none⟩, none⟩,
   ⟨"u", ⟨.named "Unit" false, none⟩, some ⟨.enum "KM", none⟩, none⟩,
   ⟨"x", ⟨.named "ID" false, none⟩, none, none⟩]

def given : Bindings :=
  ⟨[("u", .null), ("p", .object [("at", .int seven), ("id", .int seven)])], by decide⟩

def place : Value :=
  .object [("id", .string "7"), ("at", .list [.float seven.toBinary64]), ("size", .int one),
    ("unit", .string "KM")]

def bound : Bindings :=
  ⟨[("p", .list [place]), ("n", .list [.int seven]), ("u", .null)], by decide⟩

end Sample

namespace Request

variable {S : Schema} {settings : Settings} {ds : List VariableDecl} {given bound : Bindings}

theorem conforms_of_bind (hd : (ds.map VariableDecl.name).Nodup)
    (h : bind S .standard settings ds given = .ok bound) {d : VariableDecl} (hm : d ∈ ds)
    {v : Value} (hv : bound.get? d.name = some v) : Conforms S v d.type.item := by
  have hfaults := ((bind_eq_ok_iff hd).1 h).1 d hm
  exact (VariableDecl.binds_of_faultless hfaults).2.conforms ((get?_of_bind hd h hm).symm.trans hv)

/-- Bound variables are declared ones, in the order of their declarations, and each of them is what
its type, its default and the given data ask for. -/
theorem variables_conform (hd : (ds.map VariableDecl.name).Nodup)
    (h : bind S .standard settings ds given = .ok bound) :
    bound.keys.Sublist (ds.map VariableDecl.name) ∧
      ∀ d ∈ ds, d.Outcome S given (bound.get? d.name) := by
  obtain ⟨hfaults, hentries⟩ := (bind_eq_ok_iff hd).1 h
  constructor
  · rw [Table.keys, hentries]
    exact Entries.keys_gather_sublist ds
  · intro d hm
    rw [get?_of_bind hd h hm]
    exact (VariableDecl.binds_of_faultless (hfaults d hm)).2.outcome

theorem variables_conform_sample :
    (Sample.declared.map VariableDecl.name).Nodup ∧
      bind Sample.schema .standard ⟨some 2⟩ Sample.declared Sample.given = .ok Sample.bound ∧
      Sample.bound.keys.Sublist (Sample.declared.map VariableDecl.name) ∧
      ∀ d ∈ Sample.declared, d.Outcome Sample.schema Sample.given (Sample.bound.get? d.name) :=
  have hd : (Sample.declared.map VariableDecl.name).Nodup := by decide
  have h : bind Sample.schema .standard ⟨some 2⟩ Sample.declared Sample.given =
      .ok Sample.bound := rfl
  ⟨hd, h, variables_conform hd h⟩

/-- Variables that are bound to what they were bound to before stay what they are. -/
theorem bind_idempotent (hd : (ds.map VariableDecl.name).Nodup)
    (h : bind S .standard settings ds given = .ok bound) :
    bind S .standard settings ds bound = .ok bound := by
  obtain ⟨hfaults, hentries⟩ := (bind_eq_ok_iff hd).1 h
  have hsame : ∀ d ∈ ds, d.bind S .standard bound = d.bind S .standard given := fun d hm =>
    VariableDecl.bind_rebind (hfaults d hm) (get?_of_bind hd h hm)
  rw [bind_eq_ok_iff hd]
  constructor
  · intro d hm
    rw [hsame d hm]
    exact hfaults d hm
  · rw [hentries]
    exact Entries.gather_congr fun d hm => by rw [hsame d hm]

theorem bind_idempotent_sample :
    bind Sample.schema .standard ⟨some 2⟩ Sample.declared Sample.given = .ok Sample.bound ∧
      bind Sample.schema .standard ⟨some 2⟩ Sample.declared Sample.bound = .ok Sample.bound :=
  have h : bind Sample.schema .standard ⟨some 2⟩ Sample.declared Sample.given =
      .ok Sample.bound := rfl
  ⟨h, bind_idempotent (by decide) h⟩

end Request

end GraphQLInput
