import GraphQLInput.Proofs.Contexts
import GraphQLInput.Proofs.Defaults
/-!
# Places by their texts

The text of a path tells it from all others. A field ends where the characters of names end and an
index ends at its bracket, so that no segment can take over a part of the next one. This takes names
as documents have them, without points and brackets; a check places its faults under no other ones.
-/
namespace GraphQLInput

namespace Name

def isStart (c : Char) : Bool :=
  c.isAlpha || c = '_'

def isPart (c : Char) : Bool :=
  c.isAlphanum || c = '_'

/-- Whether documents can have the text as a name: letters, digits and underscores, of which no
digit comes first. -/
def isValid (name : String) : Bool :=
  match name.toList with
  | [] => false
  | c :: cs => isStart c && cs.all isPart

private theorem isPart_of_isStart {c : Char} (h : isStart c = true) : isPart c = true := by
  simp only [isStart, Bool.or_eq_true] at h
  simp only [isPart, Char.isAlphanum, Bool.or_eq_true]
  exact h.imp_left .inl

private theorem isPart_of_isValid {name : String} (h : isValid name = true) :
    ∀ c ∈ name.toList, isPart c = true := by
  rw [isValid] at h
  split at h
  · cases h
  · rename_i c cs hname
    simp only [Bool.and_eq_true, List.all_eq_true] at h
    rw [hname, List.forall_mem_cons]
    exact ⟨isPart_of_isStart h.1, h.2⟩

end Name

/-- Characters of a kind are told from what follows by where the kind ends. -/
private theorem append_inj_of_kind {kind : Char → Bool} {cs ds rest rest' : List Char}
    (hc : ∀ c ∈ cs, kind c = true) (hd : ∀ d ∈ ds, kind d = true)
    (hrest : ∀ c ∈ rest.head?, kind c = false) (hrest' : ∀ c ∈ rest'.head?, kind c = false)
    (h : cs ++ rest = ds ++ rest') : cs = ds ∧ rest = rest' := by
  have htake {cs rest : List Char} (hc : ∀ c ∈ cs, kind c = true)
      (hrest : ∀ c ∈ rest.head?, kind c = false) : (cs ++ rest).takeWhile kind = cs := by
    have hstop : rest.takeWhile kind = [] := by
      cases rest with
      | nil => rfl
      | cons c rest => simp [hrest c rfl]
    rw [List.takeWhile_append_of_pos hc, hstop, List.append_nil]
  have heq : cs = ds := by rw [← htake hc hrest, h, htake hd hrest']
  subst heq
  exact ⟨rfl, List.append_cancel_left h⟩

namespace Segment

/-- Whether a field stands under a valid name. An index may be any number. -/
def isValid : Segment → Bool
  | field name => Name.isValid name
  | index _ => true

private theorem toList_text_field (name : String) :
    (field name).text.toList = '.' :: name.toList := by
  simp [text]

private theorem toList_text_index (i : Nat) :
    (index i).text.toList = '[' :: (Nat.toDigits 10 i ++ [']']) := by
  simp [text, Nat.toList_repr]

/-- A segment is told from what follows, which is no part of a name. -/
private theorem text_append_inj {s t : Segment} (hs : s.isValid = true) (ht : t.isValid = true)
    {rest rest' : List Char} (hrest : ∀ c ∈ rest.head?, Name.isPart c = false)
    (hrest' : ∀ c ∈ rest'.head?, Name.isPart c = false)
    (h : s.text.toList ++ rest = t.text.toList ++ rest') : s = t ∧ rest = rest' := by
  cases s with
  | field name =>
      rw [toList_text_field] at h
      cases t with
      | field name' =>
          rw [toList_text_field, List.cons_append, List.cons_append, List.cons.injEq] at h
          obtain ⟨hname, hr⟩ := append_inj_of_kind (Name.isPart_of_isValid hs)
            (Name.isPart_of_isValid ht) hrest hrest' h.2
          exact ⟨congrArg field (String.toList_inj.1 hname), hr⟩
      | index j => simp [toList_text_index] at h
  | index i =>
      rw [toList_text_index] at h
      cases t with
      | field name' => simp [toList_text_field] at h
      | index j =>
          have hdigit (n : Nat) : ∀ c ∈ Nat.toDigits 10 n, c.isDigit = true :=
            fun _ hc => Nat.isDigit_of_mem_toDigits (by decide) (by decide) hc
          have hbracket (rest : List Char) : ∀ c ∈ (']' :: rest).head?, c.isDigit = false := by
            simp
          rw [toList_text_index, List.cons_append, List.cons_append, List.cons.injEq,
            List.append_assoc, List.append_assoc, List.singleton_append, List.singleton_append] at h
          obtain ⟨hi, hr⟩ := append_inj_of_kind (hdigit i) (hdigit j) (hbracket rest)
            (hbracket rest') h.2
          have hread : some i = some j := by
            rw [← Digits.read?_toDigits i, hi, Digits.read?_toDigits]
          exact ⟨congrArg index (Option.some.inj hread), List.tail_eq_of_cons_eq hr⟩

end Segment

namespace Path

/-- Whether all fields of a path stand under valid names. -/
def isValid (path : Path) : Bool :=
  path.all Segment.isValid

private theorem isValid_concat {path : Path} {s : Segment} (hp : path.isValid = true)
    (hs : s.isValid = true) : isValid (path ++ [s]) = true := by
  rw [isValid, List.all_append, Bool.and_eq_true]
  exact ⟨hp, by simp [hs]⟩

/-- The characters of the segments, one after the other. -/
def chars (path : Path) : List Char :=
  path.flatMap fun s => s.text.toList

private theorem toList_text (path : Path) : path.text.toList = "value".toList ++ path.chars := by
  rw [text, String.toList_append, String.toList_join, List.flatMap_map, chars]

/-- What a segment begins with is no part of a name. -/
private theorem isPart_head?_chars (path : Path) :
    ∀ c ∈ path.chars.head?, Name.isPart c = false := by
  intro c hc
  cases path with
  | nil => cases hc
  | cons s path =>
      cases s with
      | field name =>
          rw [chars, List.flatMap_cons, Segment.toList_text_field] at hc
          cases hc
          decide
      | index i =>
          rw [chars, List.flatMap_cons, Segment.toList_text_index] at hc
          cases hc
          decide

private theorem eq_nil_of_chars {path : Path} (h : path.chars = []) : path = [] := by
  cases path with
  | nil => rfl
  | cons s path =>
      rw [chars, List.flatMap_cons, List.append_eq_nil_iff] at h
      cases s with
      | field name => simp [Segment.toList_text_field] at h
      | index i => simp [Segment.toList_text_index] at h

/-- The characters of a path are taken apart segment by segment, from the root on. -/
private theorem eq_of_chars_eq {p q : Path} (hp : p.isValid = true) (hq : q.isValid = true)
    (h : p.chars = q.chars) : p = q := by
  induction p generalizing q with
  | nil => exact (eq_nil_of_chars h.symm).symm
  | cons s p ih =>
      cases q with
      | nil => exact eq_nil_of_chars h
      | cons t q =>
          rw [isValid, List.all_cons, Bool.and_eq_true] at hp hq
          obtain ⟨hst, hrest⟩ := Segment.text_append_inj hp.1 hq.1 (isPart_head?_chars p)
            (isPart_head?_chars q) h
          rw [hst, ih hp.2 hq.2 hrest]

private theorem eq_of_text_eq {p q : Path} (hp : p.isValid = true) (hq : q.isValid = true)
    (h : p.text = q.text) : p = q := by
  rw [← String.toList_inj, toList_text, toList_text] at h
  exact eq_of_chars_eq hp hq (List.append_cancel_left h)

end Path

/-- The fields of all input objects have names that documents can have. -/
def Schema.NamesValid (S : Schema) : Prop :=
  ∀ t ∈ S.types.entries, ∀ f ∈ t.2.inputFields, Name.isValid f.1 = true

/-- All faults of a check are at valid paths. -/
def Checked.PlacesValid {α : Type} (c : Checked α) : Prop :=
  ∀ f ∈ c.faults, f.1.isValid = true

namespace Checked.PlacesValid

variable {α β γ : Type} {place : Path}

private theorem ok (a : α) : (Checked.ok a).PlacesValid :=
  fun _ hf => absurd hf List.not_mem_nil

private theorem fault (hp : place.isValid = true) (standIn : α) (why : Mismatch) :
    (Checked.fault standIn place why).PlacesValid := by
  intro f hf
  rw [List.mem_singleton.1 hf]
  exact hp

private theorem map {c : Checked α} (h : c.PlacesValid) (f : α → β) : (c.map f).PlacesValid :=
  h

private theorem both {a : Checked α} {b : Checked β} (ha : a.PlacesValid) (hb : b.PlacesValid)
    (f : α → β → γ) : (Checked.both f a b).PlacesValid := by
  intro e he
  rw [faults_both, List.mem_append] at he
  exact he.elim (ha e) (hb e)

private theorem checkEach {f : String → InputSpec → Checked (Option Value)}
    {es : List (String × InputSpec)} (h : ∀ e ∈ es, (f e.1 e.2).PlacesValid) :
    (InputSpec.checkEach f es).PlacesValid := by
  induction es with
  | nil => exact ok []
  | cons e es ih =>
      rw [List.forall_mem_cons] at h
      exact h.1.both (ih h.2) _

end Checked.PlacesValid

private theorem InputSpec.placesValid_checkAbsent (S : Schema) {place : Path}
    (hp : place.isValid = true) (spec : InputSpec) : (spec.checkAbsent S place).PlacesValid := by
  rw [checkAbsent]
  cases spec.default? with
  | none =>
      cases spec.type.isNonNull with
      | true => exact .fault hp _ _
      | false => exact .ok _
  | some l =>
      cases S.default? spec with
      | none => exact .fault hp _ _
      | some v => exact .ok _

namespace Value

variable {S : Schema}

private theorem placesValid_checkNamed {place : Path} (hp : place.isValid = true) (v : Value)
    (name : String) : (v.checkNamed S name place).PlacesValid := by
  rw [checkNamed]
  cases S.types.get? name with
  | none => exact .fault hp _ _
  | some d =>
      cases d with
      | scalar =>
          cases Scalar.ofName? name with
          | none => exact .ok v
          | some s =>
              cases hs : s.check v with
              | ok w => simpa only [hs] using .ok w
              | error why => simpa only [hs] using .fault hp _ why
      | enum values =>
          cases v with
          | string s =>
              cases hs : values.contains s with
              | true => simpa only [hs] using .ok _
              | false => simpa only [hs] using .fault hp _ _
          | _ => exact .fault hp _ _
      | _ => exact .fault hp _ _

private theorem placesValid_checkItems {item : TypeRef} {place : Path} (hp : place.isValid = true)
    {items : List Value}
    (h : ∀ v ∈ items, ∀ place, place.isValid = true → (v.checkAt S item place).PlacesValid)
    (i : Nat) : (checkItems S item place i items).PlacesValid := by
  induction items generalizing i with
  | nil => exact .ok []
  | cons v vs ih =>
      rw [List.forall_mem_cons] at h
      exact (h.1 _ (Path.isValid_concat hp rfl)).both (ih h.2 (i + 1)) _

/-- A check goes down by indexes and by declared fields only. -/
private theorem placesValid_checkAt (hS : S.NamesValid) (v : Value) (τ : TypeRef) :
    ∀ place, place.isValid = true → (v.checkAt S τ place).PlacesValid := by
  induction v, τ using indAt S with
  | null τ =>
      intro place hp
      rw [checkAt]
      cases τ.isNonNull with
      | true => exact .fault hp _ _
      | false => exact .ok _
  | list items item a ih =>
      intro place hp
      rw [checkAt]
      exact (placesValid_checkItems hp ih 0).map _
  | object entries τ declared hf ih =>
      intro place hp
      rw [checkAt_object S entries hf]
      refine (Checked.PlacesValid.both (.checkEach fun e he => ?_) ?_ _).map _
      · have hname : Name.isValid e.1 = true := hS _ (Schema.mem_types_of_inputFields? hf) e he
        have hfield : Path.isValid (place ++ [.field e.1]) = true := Path.isValid_concat hp hname
        rw [checkReceived]
        cases hl : entries.lookup e.1 with
        | none => exact InputSpec.placesValid_checkAbsent S hfield e.2
        | some v => exact (ih e.1 v e.2.type (Entries.mem_of_lookup hl) _ hfield).map some
      · intro f hm
        obtain ⟨name, -, rfl⟩ := List.mem_map.1 hm
        exact hp
  | named v τ hname =>
      intro place hp
      rw [checkAt_of_checksByName S hname]
      exact (placesValid_checkNamed hp v τ.base).map _

theorem isValid_of_mem_refusals (hS : S.NamesValid) {v : Value} {τ : TypeRef}
    {location : Option Location} {place : Path} {why : Mismatch}
    (h : ⟨.mismatch place why, location⟩ ∈ v.refusals S τ location) : place.isValid = true := by
  rw [refusals_eq] at h
  obtain ⟨f, hf, heq⟩ := List.mem_map.1 h
  cases heq
  exact placesValid_checkAt hS v τ [] rfl f hf

end Value

namespace Sample

private theorem namesValid_schema : schema.NamesValid := by
  unfold Schema.NamesValid
  decide

def deep : Path :=
  [.field "near", .index 1, .index 2]

def wide : Path :=
  [.field "near", .index 12]

def aroundRefusals : List Fault :=
  (around.fill (.string "L")).refusals schema places (some 2)

/-- The faults of two coordinates of the place that is near. -/
def misplacedText : Fault :=
  ⟨.mismatch [.field "near", .field "at", .index 1] (.notScalar .float (.string "L")), some 2⟩

def misplacedNull : Fault :=
  ⟨.mismatch [.field "near", .field "at", .index 2] (.null (.named "Float" true)), some 2⟩

end Sample

namespace Path

/-- Paths of the same text have as many segments, of the same fields and indexes, in the same order.
The text by which a fault in given data names its place therefore stands for that place alone. -/
theorem text_inj :
    (∀ p q : Path, p.isValid = true → q.isValid = true → (p.text = q.text ↔ p = q)) ∧
    ∀ (S : Schema) (v : Value) (τ : TypeRef) (location : Option Location) (p q : Path)
      (why why' : Mismatch), S.NamesValid →
      ⟨.mismatch p why, location⟩ ∈ v.refusals S τ location →
      ⟨.mismatch q why', location⟩ ∈ v.refusals S τ location → (p.text = q.text ↔ p = q) := by
  have htext {p q : Path} (hp : p.isValid = true) (hq : q.isValid = true) :
      p.text = q.text ↔ p = q :=
    ⟨eq_of_text_eq hp hq, congrArg text⟩
  refine ⟨fun p q hp hq => htext hp hq, ?_⟩
  intro S v τ location p q why why' hS hf hg
  exact htext (Value.isValid_of_mem_refusals hS hf) (Value.isValid_of_mem_refusals hS hg)

theorem text_inj_sample :
    Sample.deep.isValid = true ∧ Sample.wide.isValid = true ∧
      Sample.deep.text = "value.near[1][2]" ∧ Sample.wide.text = "value.near[12]" ∧
      (Sample.deep.text = Sample.wide.text ↔ Sample.deep = Sample.wide) ∧
      Sample.schema.NamesValid ∧ Sample.misplacedText ∈ Sample.aroundRefusals ∧
      Sample.misplacedNull ∈ Sample.aroundRefusals ∧
      (text [.field "near", .field "at", .index 1] = text [.field "near", .field "at", .index 2] ↔
        ([.field "near", .field "at", .index 1] : Path) = [.field "near", .field "at", .index 2]) :=
  have hdeep : Sample.deep.isValid = true := by decide
  have hwide : Sample.wide.isValid = true := by decide
  have hS := Sample.namesValid_schema
  have htext : Sample.misplacedText ∈ Sample.aroundRefusals := .tail _ (.head _)
  have hnull : Sample.misplacedNull ∈ Sample.aroundRefusals := .tail _ (.tail _ (.head _))
  ⟨hdeep, hwide, by decide, by decide, text_inj.1 _ _ hdeep hwide, hS, htext, hnull,
    text_inj.2 _ _ _ _ _ _ _ _ hS htext hnull⟩

/-- A name with a point in it would be taken for two. -/
example : text [.field "near.at"] = text [.field "near", .field "at"] := by
  decide

end Path

end GraphQLInput
