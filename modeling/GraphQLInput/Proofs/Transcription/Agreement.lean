import GraphQLInput.Proofs.Checking
import GraphQLInput.Proofs.Conformance.Basic
import GraphQLInput.Proofs.Transcription.Basic
/-!
# Reading and checking agree

Reading what data is written as and checking the data come to the same, part by part: for the
scalars of the language and for enums, inside custom scalars, and for the lists and objects around.
-/
namespace GraphQLInput

/-- Entries that correspond one by one are found under the same names. -/
private theorem Entries.lookup_of_forall₂ {α β : Type} {R : String → α → β → Prop}
    {es : List (String × α)} {fs : List (String × β)}
    (h : List.Forall₂ (fun e f => e.1 = f.1 ∧ R e.1 e.2 f.2) es fs) (name : String) :
    (es.lookup name = none ∧ fs.lookup name = none) ∨
      ∃ a b, es.lookup name = some a ∧ fs.lookup name = some b ∧ R name a b := by
  induction h with
  | nil => exact .inl ⟨rfl, rfl⟩
  | @cons e f es fs hef _ ih =>
      obtain ⟨n, a⟩ := e
      obtain ⟨m, b⟩ := f
      obtain ⟨rfl, hr⟩ := hef
      rw [lookup_cons, lookup_cons]
      by_cases hn : name = n
      · subst hn
        exact .inr ⟨a, b, if_pos rfl, if_pos rfl, hr⟩
      · rwa [if_neg hn, if_neg hn]

namespace Transcribes

variable {S : Schema} {p : Site}

/-- Where nothing declares a type, reading gives the value that is written. -/
private theorem untyped_eq (value? : String → Option Value) (v : Value) :
    ∀ l, Transcribes S none v l →
      (∀ entries, v.Holds S none (.object entries) none → (entries.map Prod.fst).Nodup) →
      (∀ n, v.Holds S none (.int n) none → n.val < 0x8000000000000000) →
      l.untyped value? = some v := by
  induction v with
  | null =>
      intro l ht _ _
      cases ht
      rfl
  | bool b =>
      intro l ht _ _
      cases ht
      rfl
  | int n =>
      intro l ht _ hsigned
      cases ht
      rw [Literal.untyped, Literal.wholeNumber?_text, if_pos (hsigned n .here)]
  | float x =>
      intro l ht _ _
      cases ht with
      | float hx => rw [Literal.untyped, hx, Option.map_some]
  | string s =>
      intro l ht _ _
      cases ht with
      | enum he => cases he
      | string => rfl
  | list items ih =>
      intro l ht hdistinct hsigned
      obtain ⟨ls, rfl, hls⟩ := ht.items
      have hread : List.Forall₂ (fun v l => Literal.untypedItem value? l = some v) items ls := by
        apply forall₂_imp_of_mem hls
        intro v hv l hl
        rw [Literal.untypedItem, hl.isUnbound_eq_false]
        exact ih v hv l hl (fun entries hu => hdistinct entries (.item hv hu))
          fun n hu => hsigned n (.item hv hu)
      rw [Literal.untyped_list, mapM_eq_some_iff.2 hread.flip, Option.map_some]
  | object entries ih =>
      intro l ht hdistinct hsigned
      obtain ⟨fields, rfl, hfields⟩ := ht.fields
      have hread : List.Forall₂ (fun e f => Literal.untypedField value? f = some e)
          entries fields := by
        apply forall₂_imp_of_mem hfields
        rintro ⟨n, v⟩ hv ⟨m, l⟩ ⟨rfl, hl⟩
        have hl := ih n v hv l hl (fun entries hu => hdistinct entries (.entry hv hu))
          fun n hu => hsigned n (.entry hv hu)
        rw [Literal.untypedField, hl, Option.map_some]
      have hbound : ∀ f ∈ fields, (!f.2.isUnbound value?) = true := by
        intro f hf
        obtain ⟨e, -, -, hl⟩ := exists_of_forall₂_right hfields hf
        rw [hl.isUnbound_eq_false, Bool.not_false]
      rw [Literal.untyped_object, List.filter_eq_self.2 hbound, mapM_eq_some_iff.2 hread.flip,
        Option.map_some, Value.ofEntries, Entries.merge_of_nodup (hdistinct entries .here)]

private theorem read?_eq {v : Value} {l : Literal} (h : Transcribes S p v l)
    (he : p.isEnum S = false) (s : Scalar) : s.read? l = (s.check v).toOption := by
  cases h with
  | null => cases s <;> rfl
  | bool => cases s <;> rfl
  | @int _ n =>
      cases s with
      | int =>
          rw [Scalar.read?, Scalar.check, Literal.wholeNumber?_text]
          cases hfits : n.fits32 with
          | true =>
              have hn : n.val < 0x8000000000000000 := by
                simp only [WholeNumber.fits32, Bool.and_eq_true, decide_eq_true_eq] at hfits
                omega
              rw [if_pos hn, Option.filter_some, hfits]
              rfl
          | false =>
              split <;> simp [Option.filter_some, hfits, Except.toOption]
      | float =>
          rw [Scalar.read?, Binary64.read?_text]
          rfl
      | _ => rfl
  | float hx =>
      cases s with
      | float =>
          rw [Scalar.read?, hx]
          rfl
      | _ => rfl
  | enum hs =>
      rw [he] at hs
      cases hs
  | string => cases s <;> rfl
  | list => cases s <;> rfl
  | object => cases s <;> rfl

private theorem isEnum_some {τ : TypeRef} {d : TypeDef} (ht : S.types.get? τ.base = some d)
    (hd : ∀ values, d ≠ .enum values) : Site.isEnum S (some τ) = false := by
  rw [Site.isEnum, Option.bind_some, Schema.typeOf?, ht]
  cases d with
  | enum values => exact absurd rfl (hd values)
  | _ => rfl

/-- At a type that is known by its name alone, nothing is declared for the parts of a value. -/
private theorem structural {τ : TypeRef} {v : Value} {l : Literal} (h : Transcribes S (some τ) v l)
    (hname : v.checksByName S τ = true) (ht : S.types.get? τ.base = some .scalar) :
    Transcribes S none v l := by
  have hf : S.inputFields? τ.base = none :=
    Schema.inputFields?_eq_none ht fun _ => TypeDef.noConfusion
  cases h with
  | null => exact .null
  | bool => exact .bool
  | int => exact .int
  | float hx => exact .float hx
  | enum he =>
      rw [isEnum_some ht fun _ => TypeDef.noConfusion] at he
      cases he
  | string => exact .string rfl
  | list hlength hitems =>
      cases τ with
      | named name a => exact .list hlength hitems
      | list item a => cases hname
  | object hkeys hfields =>
      refine .object hkeys fun e f hm => ?_
      have hsite : Site.field S (some τ) e.1 = none := by
        rw [Site.field, Option.bind_some, hf, Option.bind_none]
      have hfield := hfields e f hm
      rw [hsite] at hfield
      exact hfield

private theorem readsByName {τ : TypeRef} {v : Value} {l : Literal} (h : Transcribes S (some τ) v l)
    (hname : v.checksByName S τ = true) : l.readsByName S τ = true := by
  cases h with
  | null => cases hname
  | list =>
      cases τ with
      | named name a => rfl
      | list item a => cases hname
  | object => exact hname
  | _ => rfl

private theorem readNamed_eq {τ : TypeRef} {v : Value} {l : Literal}
    (h : Transcribes S (some τ) v l) (hname : v.checksByName S τ = true)
    (hv : v.Transcribable S (some τ)) :
    l.readNamed (S.scope none) τ.base = (v.checkNamed S τ.base []).value? := by
  rcases S.named_cases τ.base with ⟨s, ht, hs⟩ | ⟨ht, hs⟩ | ⟨values, ht⟩ | ⟨hscalar, henum⟩
  · rw [Literal.readNamed_scalar ht hs, Value.value?_checkNamed_scalar ht hs]
    exact h.read?_eq (isEnum_some ht fun _ => TypeDef.noConfusion) s
  · rw [Literal.readNamed_custom ht hs, Value.value?_checkNamed_custom ht hs]
    exact untyped_eq _ v l (h.structural hname ht) hv.distinct fun n =>
      hv.signed v τ n .here ht hs
  · have he : Site.isEnum S (some τ) = true := by
      rw [Site.isEnum, Option.bind_some, Schema.typeOf?, ht]
    rw [Literal.readNamed_enum ht, Value.value?_checkNamed_enum ht]
    cases h with
    | string hs =>
        rw [he] at hs
        cases hs
    | _ => rfl
  · rw [Literal.readNamed_other hscalar henum, Value.value?_checkNamed_other hscalar henum]

private theorem readItem_eq {item : TypeRef} {v : Value} {l : Literal}
    (h : Transcribes S (some item) v l) (hread : l.readIn (S.scope none) item = v.accept? S item) :
    Literal.readItem (S.scope none) item l = v.accept? S item := by
  rw [Literal.readItem, h.isUnbound_eq_false, ← hread]
  rfl

private theorem field_eq {τ : TypeRef} {declared : Table InputSpec} {n : String} {spec : InputSpec}
    (hf : S.inputFields? τ.base = some declared) (hn : declared.get? n = some spec) :
    Site.field S (some τ) n = some spec.type := by
  rw [Site.field, Option.bind_some, hf, Option.bind_some, hn, Option.map_some]

/-- A declared field receives the same from the literal as from the data. -/
private theorem received_eq {entries : List (String × Value)} {fields : List (String × Literal)}
    {n : String} {spec : InputSpec} (hsite : p.field S n = some spec.type)
    (h : List.Forall₂ (fun e f => e.1 = f.1 ∧ Transcribes S (p.field S e.1) e.2 f.2)
      entries fields)
    (hread : ∀ v l, (n, v) ∈ entries → Transcribes S (some spec.type) v l →
      l.readIn (S.scope none) spec.type = v.accept? S spec.type) :
    Literal.received (S.scope none) fields n spec = Value.acceptReceived S entries n spec := by
  have hlookup := @Entries.lookup_of_forall₂ _ _
    (fun n v l => Transcribes S (p.field S n) v l) _ _ h n
  rw [Literal.received, Literal.given?, Value.acceptReceived]
  rcases hlookup with ⟨hv, hl⟩ | ⟨v, l, hv, hl, hvl⟩
  · rw [hv, hl]
    rfl
  · rw [hsite] at hvl
    rw [hv, hl, Option.filter_some, hvl.isUnbound_eq_false, Bool.not_false, if_pos rfl,
      Option.map_some, Option.map_some, hread v l (Entries.mem_of_lookup hv) hvl]

/-- Reading what data is written as accepts the data, as the same value. -/
theorem readIn_eq_accept? (v : Value) (τ : TypeRef) :
    ∀ l, Transcribes S (some τ) v l → v.Transcribable S (some τ) →
      l.readIn (S.scope none) τ = v.accept? S τ := by
  induction v, τ using Value.indAt S with
  | null τ =>
      intro l ht _
      cases ht
      rw [Literal.readIn, Value.accept?_null]
  | list items item a ih =>
      intro l ht hv
      obtain ⟨ls, rfl, hls⟩ := ht.items
      have hread : List.Forall₂ (fun v l => Literal.readItem (S.scope none) item l =
          v.accept? S item) items ls := by
        apply forall₂_imp_of_mem hls
        intro v hm l hl
        exact hl.readItem_eq (ih v hm l hl (hv.of_item hm))
      rw [Literal.readIn_list, Value.accept?_list, mapM_eq_of_forall₂ hread.flip]
  | object entries τ declared hf ih =>
      intro l ht hv
      obtain ⟨fields, rfl, hfields⟩ := ht.fields
      rw [Literal.readIn_object (S.scope none) fields hf, Value.accept?_object S entries hf,
        if_pos (hv.declared entries τ declared .here hf)]
      congr 1
      apply InputSpec.collect_congr
      intro n spec hm
      have hsite := field_eq hf (Table.get?_eq_some_iff.2 hm)
      refine received_eq hsite hfields fun v l hm hl => ih n v _ hm l hl ?_
      exact hsite ▸ hv.of_entry hm
  | named v τ hname =>
      intro l ht hv
      rw [Literal.readIn_of_readsByName (S.scope none) (ht.readsByName hname),
        Value.accept?_of_checksByName hname, ht.readNamed_eq hname hv]

end Transcribes

namespace Sample

def note : List Value :=
  [.int seven, .float (.zero true), .string "KM"]

def noted : Value :=
  .object [("note", .list note), ("id", .int seven)]

def notedLiteral : Literal :=
  .object [("note", .list [.int "7", .float "-0e0", .string "KM"]), ("id", .int "7")]

def notedPlace : Value :=
  .list [.object [("id", .string "7"), ("size", .int one), ("unit", .string "KM"),
    ("note", .list note)]]

private theorem transcribes_noted :
    Transcribes schema (some (.list (.named "Place" true) true)) noted notedLiteral := by
  refine .object rfl fun e f hm => ?_
  simp only [List.zip_cons_cons, List.zip_nil_right, List.mem_cons, List.not_mem_nil, or_false,
    Prod.mk.injEq] at hm
  rcases hm with ⟨rfl, rfl⟩ | ⟨rfl, rfl⟩
  · refine .list rfl fun v l hm => ?_
    simp only [note, List.zip_cons_cons, List.zip_nil_right, List.mem_cons, List.not_mem_nil,
      or_false, Prod.mk.injEq] at hm
    rcases hm with ⟨rfl, rfl⟩ | ⟨rfl, rfl⟩ | ⟨rfl, rfl⟩
    · exact .int
    · exact .float rfl
    · exact .string rfl
  · exact .int

/-- What the sample has in it. -/
private theorem holds_noted {p q : Site} {u : Value} (h : noted.Holds schema p u q) :
    u = noted ∧ q = p ∨ u = .list note ∧ q = p.field schema "note" ∨
      u = .int seven ∧ q = p.field schema "id" ∨
      u ∈ note ∧ q = (p.field schema "note").item := by
  cases h with
  | here => exact .inl ⟨rfl, rfl⟩
  | entry hm h =>
      simp only [List.mem_cons, List.not_mem_nil, or_false, Prod.mk.injEq] at hm
      rcases hm with ⟨rfl, rfl⟩ | ⟨rfl, rfl⟩
      · cases h with
        | here => exact .inr (.inl ⟨rfl, rfl⟩)
        | item hm h =>
            have hu := hm
            simp only [note, List.mem_cons, List.not_mem_nil, or_false] at hm
            rcases hm with rfl | rfl | rfl <;> cases h <;> exact .inr (.inr (.inr ⟨hu, rfl⟩))
      · cases h
        exact .inr (.inr (.inl ⟨rfl, rfl⟩))

private theorem transcribable_noted :
    noted.Transcribable schema (some (.list (.named "Place" true) true)) where
  distinct entries h := by
    rcases holds_noted h with ⟨h, -⟩ | ⟨h, -⟩ | ⟨h, -⟩ | ⟨h, -⟩
    · cases h
      decide
    · cases h
    · cases h
    · simp [note] at h
  declared entries τ fields h hf := by
    rcases holds_noted h with ⟨h, hq⟩ | ⟨h, -⟩ | ⟨h, -⟩ | ⟨h, -⟩
    · cases h
      cases hq
      cases hf
      decide
    · cases h
    · cases h
    · simp [note] at h
  signed u τ n h ht hs hu := by
    rcases holds_noted h with ⟨rfl, hq⟩ | ⟨rfl, -⟩ | ⟨rfl, -⟩ | ⟨-, hq⟩
    · cases hq
      cases ht
    · cases hu with
      | item hm hu =>
          simp only [note, List.mem_cons, List.not_mem_nil, or_false] at hm
          rcases hm with rfl | rfl | rfl <;> cases hu
          decide
    · cases hu
      decide
    · cases hq

end Sample

/-- Data and the literals that it is written as are accepted alike, and as the same value. There
are such literals for all data. -/
theorem Value.read_transcribed_iff_check {S : Schema} {v : Value} {τ : TypeRef}
    (hv : v.Transcribable S (some τ)) :
    (∃ l, Transcribes S (some τ) v l) ∧
      ∀ l, Transcribes S (some τ) v l → ∀ location w,
        l.read S none τ = some w ↔ v.check S τ location = .ok w := by
  refine ⟨exists_transcribes S v (some τ), fun l hl location w => ?_⟩
  rw [Literal.read, hl.readIn_eq_accept? v τ l hv, Value.check_eq_ok_iff]

theorem Value.read_transcribed_iff_check_sample :
    Sample.notedLiteral.read Sample.schema none (.list (.named "Place" true) true) =
        some Sample.notedPlace ∧
      Sample.noted.check Sample.schema (.list (.named "Place" true) true) (some 3) =
        .ok Sample.notedPlace :=
  have h : Sample.notedLiteral.read Sample.schema none (.list (.named "Place" true) true) =
      some Sample.notedPlace := rfl
  have hiff := (read_transcribed_iff_check Sample.transcribable_noted).2 _ Sample.transcribes_noted
  ⟨h, (hiff _ _).1 h⟩

end GraphQLInput
