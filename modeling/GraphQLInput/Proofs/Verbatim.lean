import GraphQLInput.Proofs.Conformance.Check
import GraphQLInput.Proofs.References
import GraphQLInput.Proofs.Validity
/-!
# Data of custom scalars

A custom scalar takes a literal over by its structure, and given data as it is. Both keep whole
numbers of 64 bits with a sign. Above these, given data keeps the whole numbers of 64 bits without
a sign, while a literal for one is taken for a floating point number. The two come to the same
value where no such literal occurs, and only there.
-/
namespace GraphQLInput

private theorem exists_mem_zip {α β : Type} {xs : List α} {ys : List β} (h : xs.length = ys.length)
    {x : α} (hx : x ∈ xs) : ∃ y, (x, y) ∈ xs.zip ys := by
  rw [← List.map_fst_zip h.le] at hx
  obtain ⟨⟨_, y⟩, hm, rfl⟩ := List.mem_map.1 hx
  exact ⟨y, hm⟩

/-- The literal is or has in it the second one. -/
inductive Literal.Holds : Literal → Literal → Prop
  | here {l : Literal} : Holds l l
  | item {l k : Literal} {items : List Literal} : l ∈ items → Holds l k → Holds (.list items) k
  | field {n : String} {l k : Literal} {fields : List (String × Literal)} :
      (n, l) ∈ fields → Holds l k → Holds (.object fields) k

/-- The literal has no variable in it, and no object with two fields of one name. -/
structure Literal.IsData (l : Literal) : Prop where
  closed : l.references = []
  distinct : ∀ fields, l.Holds (.object fields) → (fields.map Prod.fst).Nodup

/-- The value has the structure of the literal. Whole numbers below the limit are the same in it,
and others the nearest floating point number. -/
inductive Literal.Mirrors (limit : Int) : Literal → Value → Prop
  | null : Mirrors limit .null .null
  | enum {name : String} : Mirrors limit (.enum name) (.string name)
  | string {s : String} : Mirrors limit (.string s) (.string s)
  | boolean {b : Bool} : Mirrors limit (.boolean b) (.bool b)
  | int {text : String} {n : WholeNumber} :
      integer? text = some n.val → n.val < limit → Mirrors limit (.int text) (.int n)
  | rounded {text : String} {x : Binary64} :
      (∀ n : WholeNumber, integer? text = some n.val → ¬ n.val < limit) →
      Binary64.read? text = some x → Mirrors limit (.int text) (.float x)
  | float {text : String} {x : Binary64} :
      Binary64.read? text = some x → Mirrors limit (.float text) (.float x)
  | list {items : List Literal} {vs : List Value} :
      items.length = vs.length → (∀ l v, (l, v) ∈ items.zip vs → Mirrors limit l v) →
      Mirrors limit (.list items) (.list vs)
  | object {fields : List (String × Literal)} {entries : List (String × Value)} :
      fields.map Prod.fst = entries.map Prod.fst →
      (∀ f e, (f, e) ∈ fields.zip entries → Mirrors limit f.2 e.2) →
      Mirrors limit (.object fields) (.object entries)

namespace Literal

private theorem IsData.of_item {l : Literal} {items : List Literal} (h : (list items).IsData)
    (hl : l ∈ items) : l.IsData where
  closed := references_item_eq_nil h.closed hl
  distinct fields hfields := h.distinct fields (.item hl hfields)

private theorem IsData.of_field {n : String} {l : Literal} {fields : List (String × Literal)}
    (h : (object fields).IsData) (hl : (n, l) ∈ fields) : l.IsData where
  closed := references_field_eq_nil h.closed hl
  distinct inner hinner := h.distinct inner (.field hl hinner)

private theorem IsData.filter_fields {fields : List (String × Literal)} (h : (object fields).IsData)
    (value? : String → Option Value) :
    fields.filter (fun f => !f.2.isUnbound value?) = fields := by
  rw [List.filter_eq_self]
  intro f hf
  rw [isUnbound_of_closed (h.of_field hf).closed, Bool.not_false]

namespace Mirrors

variable {limit : Int}

private theorem of_items {items : List Literal} {vs : List Value}
    (h : List.Forall₂ (Mirrors limit) items vs) :
    (Literal.list items).Mirrors limit (Value.list vs) := by
  rw [List.forall₂_iff_zip] at h
  exact list h.1 fun _ _ hm => h.2 hm

private theorem of_fields {fields : List (String × Literal)} {entries : List (String × Value)}
    (h : List.Forall₂ (fun f e => f.1 = e.1 ∧ f.2.Mirrors limit e.2) fields entries) :
    (Literal.object fields).Mirrors limit (Value.object entries) := by
  have hkeys : fields.map Prod.fst = entries.map Prod.fst :=
    map_eq_map_iff_forall₂.2 (h.imp fun _ _ hfe => hfe.1)
  exact object hkeys fun _ _ hm => ((List.forall₂_iff_zip.1 h).2 hm).2

private theorem eq_null {l : Literal} (h : l.Mirrors limit Value.null) : l = Literal.null := by
  cases h
  rfl

end Mirrors

variable {value? : String → Option Value}

private theorem wholeNumber?_eq_none_iff {text : String} :
    wholeNumber? text = none ↔
      ∀ n : WholeNumber, integer? text = some n.val → ¬ n.val < 0x8000000000000000 := by
  simp only [Option.eq_none_iff_forall_ne_some, Ne, wholeNumber?_eq_some_iff, not_and]

/-- Without a type, a literal is read as what mirrors it with the whole numbers that have a sign. -/
private theorem Mirrors.untyped_eq {l : Literal} {v : Value} (h : l.Mirrors 0x8000000000000000 v) :
    l.IsData → l.untyped value? = some v := by
  induction h with
  | null => exact fun _ => rfl
  | enum => exact fun _ => rfl
  | string => exact fun _ => rfl
  | boolean => exact fun _ => rfl
  | int htext hbound =>
      intro _
      rw [untyped, wholeNumber?_eq_some_iff.2 ⟨htext, hbound⟩]
  | rounded hnone hx =>
      intro _
      rw [untyped, wholeNumber?_eq_none_iff.2 hnone]
      exact congrArg (Option.map Value.float) hx
  | float hx =>
      intro _
      rw [untyped, hx, Option.map_some]
  | @list items vs hlength _ ih =>
      intro hdata
      have hread : List.Forall₂ (fun l v => untypedItem value? l = some v) items vs := by
        refine List.forall₂_iff_zip.2 ⟨hlength, fun {l v} hm => ?_⟩
        have hl : l.IsData := hdata.of_item (List.of_mem_zip hm).1
        rw [untypedItem, isUnbound_of_closed hl.closed]
        exact ih l v hm hl
      rw [untyped_list, mapM_eq_some_iff.2 hread, Option.map_some]
  | @object fields entries hkeys _ ih =>
      intro hdata
      obtain ⟨hlength, hnames⟩ := List.forall₂_iff_zip.1 (map_eq_map_iff_forall₂.1 hkeys)
      have hread : List.Forall₂ (fun f e => untypedField value? f = some e) fields entries := by
        refine List.forall₂_iff_zip.2 ⟨hlength, fun {f e} hm => ?_⟩
        have hf : f.2.IsData := hdata.of_field (List.of_mem_zip hm).1
        rw [untypedField, ih f e hm hf, Option.map_some, hnames hm]
      have hdistinct : (entries.map Prod.fst).Nodup := hkeys ▸ hdata.distinct fields .here
      rw [untyped_object, hdata.filter_fields, mapM_eq_some_iff.2 hread, Option.map_some,
        Value.ofEntries, Entries.merge_of_nodup hdistinct]

private theorem mirrors_of_untyped (l : Literal) : l.IsData →
    ∀ v, l.untyped value? = some v → l.Mirrors 0x8000000000000000 v := by
  induction l with
  | reference x => exact fun hdata => nomatch hdata.closed
  | int text =>
      intro _ v h
      rw [untyped] at h
      cases hn : wholeNumber? text with
      | some n =>
          rw [hn] at h
          cases h
          obtain ⟨htext, hbound⟩ := wholeNumber?_eq_some_iff.1 hn
          exact .int htext hbound
      | none =>
          rw [hn] at h
          obtain ⟨x, hx, rfl⟩ := Option.map_eq_some_iff.1 h
          exact .rounded (wholeNumber?_eq_none_iff.1 hn) hx
  | float text =>
      intro _ v h
      rw [untyped] at h
      obtain ⟨x, hx, rfl⟩ := Option.map_eq_some_iff.1 h
      exact .float hx
  | list items ih =>
      intro hdata v h
      rw [untyped_list] at h
      obtain ⟨vs, hvs, rfl⟩ := Option.map_eq_some_iff.1 h
      apply Mirrors.of_items
      apply forall₂_imp_of_mem (mapM_eq_some_iff.1 hvs)
      intro l hl v hv
      have hitem : l.IsData := hdata.of_item hl
      rw [untypedItem, isUnbound_of_closed hitem.closed] at hv
      exact ih l hl hitem v hv
  | object fields ih =>
      intro hdata v h
      rw [untyped_object, hdata.filter_fields] at h
      obtain ⟨entries, hentries, rfl⟩ := Option.map_eq_some_iff.1 h
      have hfields : List.Forall₂
          (fun f e => f.1 = e.1 ∧ f.2.Mirrors 0x8000000000000000 e.2) fields entries := by
        apply forall₂_imp_of_mem (mapM_eq_some_iff.1 hentries)
        rintro ⟨n, l⟩ hl e he
        obtain ⟨v, hv, rfl⟩ := Option.map_eq_some_iff.1 he
        exact ⟨rfl, ih n l hl (hdata.of_field hl) v hv⟩
      have hkeys : fields.map Prod.fst = entries.map Prod.fst :=
        map_eq_map_iff_forall₂.2 (hfields.imp fun _ _ hfe => hfe.1)
      have hdistinct : (entries.map Prod.fst).Nodup := hkeys ▸ hdata.distinct fields .here
      rw [Value.ofEntries, Entries.merge_of_nodup hdistinct]
      exact .of_fields hfields
  | _ =>
      intro _ v h
      cases h
      constructor

/-- Where a literal has a value with all whole numbers, those in it are below any other limit that
gives it the same value. -/
private theorem Mirrors.lt_of_holds {limit : Int} {l k : Literal} (hk : l.Holds k) :
    ∀ {v text} {n : WholeNumber}, k = .int text → integer? text = some n.val →
      l.Mirrors 0x10000000000000000 v → l.Mirrors limit v → n.val < limit := by
  induction hk with
  | here =>
      rintro v text n rfl htext hall hlimit
      cases hlimit with
      | int htext' hbound =>
          rw [Option.some.inj (htext.symm.trans htext')]
          exact hbound
      | rounded =>
          -- with the greatest limit only what is no whole number of 64 bits is rounded
          cases hall with
          | rounded hnone => exact absurd n.upper (hnone n htext)
  | item hl _ ih =>
      intro v text n hint htext hall hlimit
      cases hall with
      | list hlength hall =>
          cases hlimit with
          | list _ hlimit =>
              obtain ⟨v, hm⟩ := exists_mem_zip hlength hl
              exact ih hint htext (hall _ v hm) (hlimit _ v hm)
  | @field _ _ _ fields hl _ ih =>
      intro v text n hint htext hall hlimit
      cases hall with
      | @object _ entries hkeys hall =>
          cases hlimit with
          | object _ hlimit =>
              have hlength : fields.length = entries.length := by
                simpa using congrArg List.length hkeys
              obtain ⟨e, hm⟩ := exists_mem_zip hlength hl
              exact ih hint htext (hall _ e hm) (hlimit _ e hm)

private theorem Mirrors.of_lt {limit : Int} {l : Literal} {v : Value}
    (h : l.Mirrors 0x10000000000000000 v) :
    (∀ text, ∀ n : WholeNumber, l.Holds (.int text) → integer? text = some n.val →
      n.val < limit) → l.Mirrors limit v := by
  induction h with
  | null => exact fun _ => .null
  | enum => exact fun _ => .enum
  | string => exact fun _ => .string
  | boolean => exact fun _ => .boolean
  | int htext => exact fun hlt => .int htext (hlt _ _ .here htext)
  | rounded hnone hx => exact fun _ => .rounded (fun n htext _ => hnone n htext n.upper) hx
  | float hx => exact fun _ => .float hx
  | list hlength _ ih =>
      exact fun hlt => .list hlength fun l v hm => ih l v hm fun text n hn =>
        hlt text n (.item (List.of_mem_zip hm).1 hn)
  | object hkeys _ ih =>
      exact fun hlt => .object hkeys fun f e hm => ih f e hm fun text n hn =>
        hlt text n (.field (List.of_mem_zip hm).1 hn)

variable {S : Schema} {name : String} {a : Bool}

theorem read_custom_eq_some_iff {l : Literal} (ht : S.types.get? name = some .scalar)
    (hs : Scalar.ofName? name = none) (hdata : l.IsData) (vars : Option Bindings) (v : Value) :
    l.read S vars (.named name a) = some v ↔
      (l = .null → a = false) ∧ l.Mirrors 0x8000000000000000 v := by
  by_cases hnull : l = .null
  · subst hnull
    rw [read, readIn, TypeRef.isNonNull]
    constructor
    · intro h
      cases a with
      | true => cases h
      | false =>
          cases h
          exact ⟨fun _ => rfl, .null⟩
    · rintro ⟨ha, hv⟩
      cases hv
      rw [ha rfl]
      rfl
  · have hf : (S.scope vars).schema.inputFields? name = none :=
      Schema.inputFields?_eq_none ht fun _ => TypeDef.noConfusion
    rw [read, readIn_named (S.scope vars) hnull (referent?_of_closed hdata.closed) hf,
      readNamed_custom ht hs]
    exact ⟨fun h => ⟨fun h' => absurd h' hnull, mirrors_of_untyped l hdata v h⟩,
      fun h => h.2.untyped_eq hdata⟩

end Literal

/-- Given data for a custom scalar is accepted as it is. -/
theorem Value.check_custom {S : Schema} {name : String} {a : Bool} {v : Value}
    (ht : S.types.get? name = some .scalar) (hs : Scalar.ofName? name = none)
    (ha : v = .null → a = false) (location : Option Location) :
    v.check S (.named name a) location = .ok v := by
  have hconforms : Conforms S v (.named name a) := by
    by_cases hv : v = .null
    · subst hv
      exact .null (ha rfl)
    · exact .custom ht hs hv
  exact (check_eq_ok_iff S).2 hconforms.accept?_eq

namespace Sample

/-- Two above the greatest whole number of 64 bits with a sign. -/
def huge : WholeNumber :=
  ⟨0x8000000000000001, by decide, by decide⟩

def hugeRounded : Binary64 :=
  ⟨false, 0x43E0000000000000, by decide⟩

def marker : Literal :=
  .object [("at", .list [.int "9223372036854775809", .int "1"]), ("unit", .enum "KM")]

def marked (v : Value) : Value :=
  .object [("at", .list [v, .int one]), ("unit", .string "KM")]

private theorem isData_marker : marker.IsData where
  closed := rfl
  distinct fields h := by
    cases h with
    | here => decide
    | field hl hk =>
        simp only [List.mem_cons, Prod.mk.injEq, List.not_mem_nil, or_false] at hl
        rcases hl with ⟨-, rfl⟩ | ⟨-, rfl⟩
        · cases hk with
          | item hl hk =>
              simp only [List.mem_cons, List.not_mem_nil, or_false] at hl
              rcases hl with rfl | rfl <;> cases hk
        · cases hk

private theorem integer?_huge : integer? "9223372036854775809" = some huge.val := by
  decide +kernel

private theorem read?_huge : Binary64.read? "9223372036854775809" = some hugeRounded := by
  decide +kernel

private theorem mirrors_marker : marker.Mirrors 0x10000000000000000 (marked (.int huge)) :=
  .of_fields (.cons ⟨rfl, .of_items (.cons (.int integer?_huge huge.upper)
    (.cons (.int rfl one.upper) .nil))⟩ (.cons ⟨rfl, .enum⟩ .nil))

private theorem mirrors_rounded :
    (Literal.int "9223372036854775809").Mirrors 0x8000000000000000 (.float hugeRounded) := by
  refine .rounded (fun n hn => ?_) read?_huge
  rw [← Option.some.inj (integer?_huge.symm.trans hn)]
  decide

private theorem mirrors_marker_rounded :
    marker.Mirrors 0x8000000000000000 (marked (.float hugeRounded)) :=
  .of_fields (.cons ⟨rfl, .of_items (.cons mirrors_rounded
    (.cons (.int rfl (by decide)) .nil))⟩ (.cons ⟨rfl, .enum⟩ .nil))

end Sample

namespace Literal

variable {S : Schema} {name : String} {a : Bool}

/-- A custom scalar reads a literal as what mirrors it with the whole numbers that have 64 bits and
a sign. Given data that mirrors it with all whole numbers is accepted as it is, and the literal is
read as that data just where no whole number in it is above those with a sign. -/
theorem read_iff_mirrors {l : Literal} (ht : S.types.get? name = some .scalar)
    (hs : Scalar.ofName? name = none) (hdata : l.IsData) (vars : Option Bindings)
    (location : Option Location) :
    (∀ v, l.read S vars (.named name a) = some v ↔
      (l = .null → a = false) ∧ l.Mirrors 0x8000000000000000 v) ∧
    ∀ w, l.Mirrors 0x10000000000000000 w → (l = .null → a = false) →
      w.check S (.named name a) location = .ok w ∧
      (l.read S vars (.named name a) = some w ↔
        ∀ text, ∀ n : WholeNumber, l.Holds (.int text) → integer? text = some n.val →
          n.val < 0x8000000000000000) := by
  constructor
  · exact read_custom_eq_some_iff ht hs hdata vars
  · intro w hw ha
    constructor
    · apply Value.check_custom ht hs
      rintro rfl
      exact ha hw.eq_null
    · rw [read_custom_eq_some_iff ht hs hdata]
      constructor
      · exact fun h text n hn htext => Mirrors.lt_of_holds hn rfl htext hw h.2
      · exact fun h => ⟨ha, hw.of_lt h⟩

/-- Read as a literal, a whole number above those with a sign is rounded, and as given data it is
not. -/
theorem read_iff_mirrors_sample :
    Sample.marker.IsData ∧
      Sample.marker.read Sample.schema none (.named "Any" true) =
        some (Sample.marked (.float Sample.hugeRounded)) ∧
      (Sample.marked (.int Sample.huge)).check Sample.schema (.named "Any" true) (some 1) =
        .ok (Sample.marked (.int Sample.huge)) ∧
      Sample.marker.read Sample.schema none (.named "Any" true) ≠
        some (Sample.marked (.int Sample.huge)) := by
  have hcustom : Scalar.ofName? "Any" = none := by decide
  have hiff := read_iff_mirrors (S := Sample.schema) (a := true) rfl hcustom Sample.isData_marker
    none (some 1)
  have hnull : Sample.marker = .null → true = false := Literal.noConfusion
  obtain ⟨hcheck, hread⟩ := hiff.2 _ Sample.mirrors_marker hnull
  refine ⟨Sample.isData_marker, (hiff.1 _).2 ⟨hnull, Sample.mirrors_marker_rounded⟩, hcheck, ?_⟩
  rw [Ne, hread]
  intro hlt
  have hholds : Sample.marker.Holds (.int "9223372036854775809") :=
    .field List.mem_cons_self (.item List.mem_cons_self .here)
  exact absurd (hlt _ Sample.huge hholds Sample.integer?_huge) (by decide)

/-- Not every whole number of given data stays exact when it is written as a literal. -/
theorem not_mirrors_of_read :
    ¬ ∀ (S : Schema) (name : String) (a : Bool) (l : Literal) (v : Value),
        S.types.get? name = some .scalar → Scalar.ofName? name = none → l.IsData →
        l.read S none (.named name a) = some v → l.Mirrors 0x10000000000000000 v := by
  intro h
  have hdata : (int "9223372036854775809").IsData := ⟨rfl, fun _ hk => nomatch hk⟩
  have hread : (int "9223372036854775809").read Sample.schema none (.named "Any" true) =
      some (.float Sample.hugeRounded) :=
    (read_custom_eq_some_iff rfl (by decide) hdata none _).2
      ⟨Literal.noConfusion, Sample.mirrors_rounded⟩
  cases h Sample.schema "Any" true _ _ rfl (by decide) hdata hread with
  | rounded hnone => exact hnone Sample.huge Sample.integer?_huge Sample.huge.upper

end Literal

end GraphQLInput
