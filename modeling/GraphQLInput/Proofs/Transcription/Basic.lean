import GraphQLInput.Proofs.Numerals
import GraphQLInput.Proofs.Reading
/-!
# Data written as literals

Given data can be written as a literal. What a string becomes depends on the type that is declared
where it stands; where none is, as inside a custom scalar, all is written by its structure alone.
-/
namespace GraphQLInput

/-- What is declared where a part of a value stands, if anything is. -/
abbrev Site :=
  Option TypeRef

namespace Site

/-- Where the items of a list stand. -/
def item : Site → Site
  | some (.list item _) => some item
  | _ => none

/-- Where the value of a field of an object stands. -/
def field (S : Schema) (p : Site) (name : String) : Site :=
  p.bind fun τ => (S.inputFields? τ.base).bind fun declared =>
    (declared.get? name).map InputSpec.type

def isEnum (S : Schema) (p : Site) : Bool :=
  match p.bind S.typeOf? with
  | some (.enum _) => true
  | _ => false

end Site

/-- The literals that a value is written as at a site. A floating point number may be written in
any way that reads back. -/
inductive Transcribes (S : Schema) : Site → Value → Literal → Prop
  | null {p : Site} : Transcribes S p .null .null
  | bool {p : Site} {b : Bool} : Transcribes S p (.bool b) (.boolean b)
  | int {p : Site} {n : WholeNumber} : Transcribes S p (.int n) (.int n.text)
  | float {p : Site} {x : Binary64} {text : String} :
      Binary64.read? text = some x → Transcribes S p (.float x) (.float text)
  | enum {p : Site} {s : String} :
      p.isEnum S = true → Transcribes S p (.string s) (.enum s)
  | string {p : Site} {s : String} :
      p.isEnum S = false → Transcribes S p (.string s) (.string s)
  | list {p : Site} {items : List Value} {ls : List Literal} :
      items.length = ls.length →
      (∀ v l, (v, l) ∈ items.zip ls → Transcribes S p.item v l) →
      Transcribes S p (.list items) (.list ls)
  | object {p : Site} {entries : List (String × Value)} {fields : List (String × Literal)} :
      entries.map Prod.fst = fields.map Prod.fst →
      (∀ e f, (e, f) ∈ entries.zip fields → Transcribes S (p.field S e.1) e.2 f.2) →
      Transcribes S p (.object entries) (.object fields)

/-- The value, at a site, is or has in it the second value, which stands at the second site. -/
inductive Value.Holds (S : Schema) : Value → Site → Value → Site → Prop
  | here {v : Value} {p : Site} : Holds S v p v p
  | item {v u : Value} {items : List Value} {p q : Site} :
      v ∈ items → Holds S v p.item u q → Holds S (.list items) p u q
  | entry {n : String} {v u : Value} {entries : List (String × Value)} {p q : Site} :
      (n, v) ∈ entries → Holds S v (p.field S n) u q → Holds S (.object entries) p u q

/-- What is asked of data besides that its literals are read. Objects name an entry once, which is
so for all JSON data; a literal may have fields that are not declared, which data may not; and the
integers of custom scalars have 64 bits with a sign. -/
structure Value.Transcribable (S : Schema) (p : Site) (v : Value) : Prop where
  distinct : ∀ entries, v.Holds S none (.object entries) none → (entries.map Prod.fst).Nodup
  declared : ∀ entries τ fields, v.Holds S p (.object entries) (some τ) →
    S.inputFields? τ.base = some fields → ∀ n ∈ entries.map Prod.fst, fields.contains n = true
  signed : ∀ u τ n, v.Holds S p u (some τ) → S.types.get? τ.base = some .scalar →
    Scalar.ofName? τ.base = none → u.Holds S none (.int n) none → n.val < 0x8000000000000000

namespace Value.Transcribable

variable {S : Schema} {p : Site}

theorem of_item {v : Value} {items : List Value} (h : (Value.list items).Transcribable S p)
    (hv : v ∈ items) : v.Transcribable S p.item where
  distinct entries hu := h.distinct entries (.item hv hu)
  declared entries τ fields hu := h.declared entries τ fields (.item hv hu)
  signed u τ n hu := h.signed u τ n (.item hv hu)

theorem of_entry {n : String} {v : Value} {entries : List (String × Value)}
    (h : (Value.object entries).Transcribable S p) (hv : (n, v) ∈ entries) :
    v.Transcribable S (p.field S n) where
  distinct entries hu := h.distinct entries (.entry hv hu)
  declared entries τ fields hu := h.declared entries τ fields (.entry hv hu)
  signed u τ n hu := h.signed u τ n (.entry hv hu)

end Value.Transcribable

namespace Transcribes

variable {S : Schema} {p : Site}

private theorem referent?_eq_none {v : Value} {l : Literal} (h : Transcribes S p v l) :
    l.referent? = none := by
  cases h <;> rfl

theorem isUnbound_eq_false {v : Value} {l : Literal} (h : Transcribes S p v l)
    (value? : String → Option Value) : l.isUnbound value? = false := by
  rw [Literal.isUnbound, h.referent?_eq_none]
  rfl

private theorem of_items {items : List Value} {ls : List Literal}
    (h : List.Forall₂ (Transcribes S p.item) items ls) :
    Transcribes S p (.list items) (.list ls) := by
  rw [List.forall₂_iff_zip] at h
  exact .list h.1 fun _ _ hm => h.2 hm

theorem items {items : List Value} {l : Literal} (h : Transcribes S p (.list items) l) :
    ∃ ls, l = .list ls ∧ List.Forall₂ (Transcribes S p.item) items ls := by
  cases h with
  | list hlength hitems =>
      exact ⟨_, rfl, List.forall₂_iff_zip.2 ⟨hlength, fun hm => hitems _ _ hm⟩⟩

private theorem of_fields {entries : List (String × Value)} {fields : List (String × Literal)}
    (h : List.Forall₂ (fun e f => e.1 = f.1 ∧ Transcribes S (p.field S e.1) e.2 f.2)
      entries fields) : Transcribes S p (.object entries) (.object fields) := by
  have hkeys : entries.map Prod.fst = fields.map Prod.fst :=
    map_eq_map_iff_forall₂.2 (h.imp fun _ _ hef => hef.1)
  exact .object hkeys fun _ _ hm => ((List.forall₂_iff_zip.1 h).2 hm).2

theorem fields {entries : List (String × Value)} {l : Literal}
    (h : Transcribes S p (.object entries) l) :
    ∃ fields, l = .object fields ∧
      List.Forall₂ (fun e f => e.1 = f.1 ∧ Transcribes S (p.field S e.1) e.2 f.2)
        entries fields := by
  cases h with
  | @object _ _ fields hkeys hfields =>
      obtain ⟨hlength, hnames⟩ := List.forall₂_iff_zip.1 (map_eq_map_iff_forall₂.1 hkeys)
      exact ⟨fields, rfl, List.forall₂_iff_zip.2
        ⟨hlength, fun hm => ⟨hnames hm, hfields _ _ hm⟩⟩⟩

end Transcribes

private theorem exists_forall₂ {α β : Type} {R : α → β → Prop} {xs : List α}
    (h : ∀ x ∈ xs, ∃ y, R x y) : ∃ ys, List.Forall₂ R xs ys := by
  induction xs with
  | nil => exact ⟨[], .nil⟩
  | cons x xs ih =>
      rw [List.forall_mem_cons] at h
      obtain ⟨y, hy⟩ := h.1
      obtain ⟨ys, hys⟩ := ih h.2
      exact ⟨y :: ys, .cons hy hys⟩

/-- Every value can be written as a literal, at any site. -/
theorem exists_transcribes (S : Schema) (v : Value) : ∀ p, ∃ l, Transcribes S p v l := by
  induction v with
  | null => exact fun p => ⟨_, .null⟩
  | bool b => exact fun p => ⟨_, .bool⟩
  | int n => exact fun p => ⟨_, .int⟩
  | float x => exact fun p => ⟨_, .float (Binary64.read?_exactText x)⟩
  | string s =>
      intro p
      cases h : p.isEnum S with
      | true => exact ⟨_, .enum h⟩
      | false => exact ⟨_, .string h⟩
  | list items ih =>
      intro p
      obtain ⟨ls, hls⟩ := exists_forall₂ fun v hv => ih v hv p.item
      exact ⟨_, .of_items hls⟩
  | object entries ih =>
      intro p
      have hfield : ∀ e ∈ entries, ∃ f : String × Literal,
          e.1 = f.1 ∧ Transcribes S (p.field S e.1) e.2 f.2 := by
        intro e he
        obtain ⟨l, hl⟩ := ih e.1 e.2 he (p.field S e.1)
        exact ⟨(e.1, l), rfl, hl⟩
      obtain ⟨fields, hfields⟩ := exists_forall₂ hfield
      exact ⟨_, .of_fields hfields⟩

end GraphQLInput
