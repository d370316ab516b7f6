import GraphQLInput.Proofs.Checking
import GraphQLInput.Proofs.Conformance.Basic
/-!
# Faults in a part of given data

A value with one place left open adds the same faults in front of those of whatever fills the place,
and the same behind them. No part of given data hides, repeats or changes a fault of another.
-/
namespace GraphQLInput

/-- A value with one place left open, below items of lists and entries of objects. -/
inductive Context where
  | hole
  | item (before : List Value) (inner : Context) (after : List Value)
  | entry (before : List (String × Value)) (name : String) (inner : Context)
      (after : List (String × Value))

namespace Context

/-- The value with the open place filled. -/
def fill : Context → Value → Value
  | hole, v => v
  | item before inner after, v => .list (before ++ inner.fill v :: after)
  | entry before name inner after, v => .object (before ++ (name, inner.fill v) :: after)

/-- The context as the only item of a list for each level of list around the base type. -/
def wrap : TypeRef → Context → Context
  | .named _ _, c => c
  | .list τ _, c => item [] (c.wrap τ) []

private theorem fill_wrap (c : Context) (τ : TypeRef) (v : Value) :
    (c.wrap τ).fill v = τ.wrap (c.fill v) := by
  induction τ with
  | named name a => rfl
  | list item a ih => exact congrArg (fun w => Value.list [w]) ih

/-- The open place of a context at the type has the path and the second type. An object that stands
for a list has the type of its only item. -/
inductive Leads (S : Schema) : Context → TypeRef → Path → TypeRef → Prop
  | hole {τ : TypeRef} : Leads S .hole τ [] τ
  | item {before after : List Value} {inner : Context} {τ σ : TypeRef} {a : Bool} {path : Path} :
      Leads S inner τ path σ →
      Leads S (.item before inner after) (.list τ a) (.index before.length :: path) σ
  | entry {before after : List (String × Value)} {name : String} {inner : Context} {τ σ : TypeRef}
      {declared : Table InputSpec} {spec : InputSpec} {path : Path} :
      S.inputFields? τ.base = some declared → declared.get? name = some spec →
      name ∉ before.map Prod.fst → Leads S inner spec.type path σ →
      Leads S (.entry before name inner after) τ (.field name :: path) σ

end Context

namespace Checked

variable {α β γ : Type}

/-- A check that is part of another one, with faults in front of its own and behind them. -/
def framed (front back : List (Path × Mismatch)) (f : α → β) (c : Checked α) : Checked β :=
  ⟨f c.result, front ++ c.faults ++ back⟩

private theorem framed_nil (c : Checked α) : c.framed [] [] id = c := by
  rw [framed, List.nil_append, List.append_nil]
  rfl

variable {front back : List (Path × Mismatch)} {f : α → β} {c : Checked α}

private theorem framed_framed (front' back' : List (Path × Mismatch)) (g : β → γ) :
    (c.framed front back f).framed front' back' g =
      c.framed (front' ++ front) (back ++ back') (g ∘ f) := by
  simp only [framed, List.append_assoc, Function.comp]

private theorem value?_framed_eq_some_iff {b : β} :
    (c.framed front back f).value? = some b ↔
      front = [] ∧ back = [] ∧ ∃ a, c.value? = some a ∧ b = f a := by
  rw [value?, value?, framed]
  cases front with
  | cons e front => simp
  | nil =>
      cases back with
      | cons e back => simp
      | nil => cases c.faults <;> simp [eq_comm]

end Checked

namespace InputSpec

private theorem checkEach_append (f : String → InputSpec → Checked (Option Value))
    (es fs : List (String × InputSpec)) :
    checkEach f (es ++ fs) = .both (· ++ ·) (checkEach f es) (checkEach f fs) := by
  induction es with
  | nil => rfl
  | cons e es ih =>
      rw [List.cons_append, checkEach, checkEach, ih]
      simp only [Checked.both, List.append_assoc]

end InputSpec

namespace Value

variable (S : Schema)

private theorem checkItems_append (item : TypeRef) (place : Path) (i : Nat) (vs ws : List Value) :
    checkItems S item place i (vs ++ ws) =
      .both (· ++ ·) (checkItems S item place i vs)
        (checkItems S item place (i + vs.length) ws) := by
  induction vs generalizing i with
  | nil => rfl
  | cons v vs ih =>
      have hi : i + 1 + vs.length = i + (v :: vs).length := by
        rw [List.length_cons]
        omega
      rw [List.cons_append, checkItems, checkItems, ih, hi]
      simp only [Checked.both, List.append_assoc, List.cons_append]

/-- The other items of a list are checked apart from the one at the open place. -/
private theorem exists_framed_item (τ : TypeRef) (a : Bool) (before after : List Value)
    (place : Path) :
    ∃ front back vs ws, ∀ v : Value,
      (list (before ++ v :: after)).checkAt S (.list τ a) place =
        (v.checkAt S τ (place ++ [.index before.length])).framed front back
          fun w => list (vs ++ w :: ws) := by
  refine ⟨(checkItems S τ place 0 before).faults,
    (checkItems S τ place (before.length + 1) after).faults,
    (checkItems S τ place 0 before).result,
    (checkItems S τ place (before.length + 1) after).result, fun v => ?_⟩
  rw [checkAt, checkItems_append, checkItems, Nat.zero_add]
  simp only [Checked.both, Checked.map, Checked.framed, List.append_assoc]

variable {S}

/-- A field receives the same whatever stands under another name. -/
theorem checkReceived_of_ne {before after : List (String × Value)} {name n : String} (h : n ≠ name)
    (v : Value) (place : Path) (spec : InputSpec) :
    checkReceived S (before ++ (name, v) :: after) place n spec =
      checkReceived S (before ++ after) place n spec := by
  rw [checkReceived, checkReceived, Entries.lookup_append_cons_of_ne h]

theorem checkReceived_self {before after : List (String × Value)} {name : String}
    (h : name ∉ before.map Prod.fst) (v : Value) (place : Path) (spec : InputSpec) :
    checkReceived S (before ++ (name, v) :: after) place name spec =
      (v.checkAt S spec.type (place ++ [.field name])).map some := by
  rw [checkReceived, Entries.lookup_append_cons_self h]

/-- The other entries of an object are checked apart from the one at the open place. -/
private theorem exists_framed_entry {τ : TypeRef} {declared : Table InputSpec} {name : String}
    {spec : InputSpec} (hf : S.inputFields? τ.base = some declared)
    (hn : declared.get? name = some spec) {before : List (String × Value)}
    (hbefore : name ∉ before.map Prod.fst) (after : List (String × Value)) (place : Path) :
    ∃ front back fields rest, ∀ v : Value,
      (object (before ++ (name, v) :: after)).checkAt S τ place =
        (v.checkAt S spec.type (place ++ [.field name])).framed front back
          fun w => τ.wrap (object (fields ++ (name, w) :: rest)) := by
  -- faults follow the declarations, so the open entry divides these and not the entries around it
  obtain ⟨ds, es, hsplit⟩ := List.append_of_mem (Table.get?_eq_some_iff.1 hn)
  have hdistinct := declared.distinct
  rw [hsplit, List.map_append, List.map_cons, List.nodup_append, List.nodup_cons] at hdistinct
  have hds : ∀ e ∈ ds, e.1 ≠ name := fun e he =>
    hdistinct.2.2 e.1 (List.mem_map_of_mem he) name List.mem_cons_self
  have hes : ∀ e ∈ es, e.1 ≠ name := by
    intro e he heq
    have hkey : e.1 ∈ es.map Prod.fst := List.mem_map_of_mem he
    exact hdistinct.2.1.1 (heq ▸ hkey)
  let others := checkReceived S (before ++ after) place
  refine ⟨(InputSpec.checkEach others ds).faults,
    (InputSpec.checkEach others es).faults ++ undeclaredFaults declared τ.base place
      (before.map Prod.fst ++ name :: after.map Prod.fst),
    (InputSpec.checkEach others ds).result, (InputSpec.checkEach others es).result, fun v => ?_⟩
  have hfront : InputSpec.checkEach
      (checkReceived S (before ++ (name, v) :: after) place) ds = InputSpec.checkEach others ds :=
    InputSpec.checkEach_congr fun e he => checkReceived_of_ne (hds e he) v place e.2
  have hback : InputSpec.checkEach
      (checkReceived S (before ++ (name, v) :: after) place) es = InputSpec.checkEach others es :=
    InputSpec.checkEach_congr fun e he => checkReceived_of_ne (hes e he) v place e.2
  rw [checkAt_object S _ hf, hsplit, InputSpec.checkEach_append, InputSpec.checkEach, hfront, hback,
    checkReceived_self hbefore]
  simp [Checked.both, Checked.map, Checked.framed]

/-- The check of a filled context holds that of what fills it, and besides depends on the context
only. -/
theorem exists_framed_fill {c : Context} {τ σ : TypeRef} {path : Path} (h : c.Leads S τ path σ) :
    ∀ place, ∃ front back, ∃ k : Context, ∀ v : Value,
      (c.fill v).checkAt S τ place = (v.checkAt S σ (place ++ path)).framed front back k.fill := by
  induction h with
  | hole =>
      intro place
      refine ⟨[], [], .hole, fun v => ?_⟩
      rw [List.append_nil]
      exact (Checked.framed_nil _).symm
  | @item before after inner τ σ a path _ ih =>
      intro place
      obtain ⟨front, back, k, hk⟩ := ih (place ++ [.index before.length])
      obtain ⟨front', back', vs, ws, hitem⟩ := exists_framed_item S τ a before after place
      refine ⟨front' ++ front, back ++ back', .item vs k ws, fun v => ?_⟩
      rw [Context.fill, hitem, hk, Checked.framed_framed, List.append_assoc]
      rfl
  | @entry before after name inner τ σ declared spec path hf hn hbefore _ ih =>
      intro place
      obtain ⟨front, back, k, hk⟩ := ih (place ++ [.field name])
      obtain ⟨front', back', fields, rest, hentry⟩ :=
        exists_framed_entry hf hn hbefore after place
      refine ⟨front' ++ front, back ++ back', .wrap τ (.entry fields name k rest), fun v => ?_⟩
      have hfill : (Context.wrap τ (.entry fields name k rest)).fill =
          (fun w => τ.wrap (object (fields ++ (name, w) :: rest))) ∘ k.fill :=
        funext fun w => Context.fill_wrap _ τ w
      rw [Context.fill, hentry, hk, Checked.framed_framed, hfill, List.append_assoc]
      rfl

end Value

/-- The fault of a given value, as it is for data that holds the value at a place. -/
def Fault.below (place : Path) (f : Fault) : Fault :=
  match f.cause with
  | .mismatch p why => { f with cause := .mismatch (place ++ p) why }
  | _ => f

namespace Value

/-- The faults that a value is refused for, none where it is accepted. -/
def refusals (S : Schema) (τ : TypeRef) (location : Option Location) (v : Value) : List Fault :=
  match v.check S τ location with
  | .ok _ => []
  | .error fs => fs

variable {S : Schema}

theorem refusals_eq (τ : TypeRef) (location : Option Location) (v : Value) :
    v.refusals S τ location =
      (v.checkAt S τ []).faults.map fun f => ⟨.mismatch f.1 f.2, location⟩ := by
  rw [refusals, check]
  cases (v.checkAt S τ []).faults <;> rfl

private theorem map_below_refusals (τ : TypeRef) (location : Option Location) (v : Value)
    (place : Path) :
    (v.refusals S τ location).map (Fault.below place) =
      (v.checkAt S τ place).faults.map fun f => ⟨.mismatch f.1 f.2, location⟩ := by
  have hplace := checkAt_under S place v τ []
  rw [List.append_nil] at hplace
  rw [refusals_eq, hplace, Checked.under, List.map_map, List.map_map]
  rfl

end Value

namespace Sample

def places : TypeRef :=
  .list (.named "Place" true) true

/-- A place near one without an identifier, with a coordinate left open, and with a field too
many. -/
def around : Context :=
  .entry [("id", .string "A")] "near"
    (.entry [("id", .null)] "at" (.item [.int one] .hole [.null]) []) [("up", .null)]

private theorem leads_around : around.Leads schema places [.field "near", .field "at", .index 1]
    (.named "Float" true) :=
  .entry rfl rfl (by decide) (.entry rfl rfl (by decide) (.item .hole))

end Sample

namespace Value

variable {S : Schema}

/-- The faults of a value that stands in a context come between others that are those of the
context. The whole is accepted where the context adds no fault and the value is accepted, and then
as the value that it is accepted as, in a context of its own. -/
theorem check_fill {c : Context} {τ σ : TypeRef} {path : Path} (h : c.Leads S τ path σ)
    (location : Option Location) :
    ∃ front back, ∃ k : Context, ∀ v : Value,
      (c.fill v).refusals S τ location =
          front ++ (v.refusals S σ location).map (Fault.below path) ++ back ∧
        ∀ w, (c.fill v).check S τ location = .ok w ↔
          front = [] ∧ back = [] ∧ ∃ u, v.check S σ location = .ok u ∧ w = k.fill u := by
  obtain ⟨front, back, k, hk⟩ := exists_framed_fill h []
  refine ⟨front.map fun f => ⟨.mismatch f.1 f.2, location⟩,
    back.map fun f => ⟨.mismatch f.1 f.2, location⟩, k, fun v => ⟨?_, fun w => ?_⟩⟩
  · rw [refusals_eq, hk, map_below_refusals, Checked.framed, List.map_append, List.map_append]
    rfl
  · rw [check_eq_ok_iff, accept?, hk, Checked.value?_framed_eq_some_iff, value?_checkAt]
    simp only [check_eq_ok_iff, List.map_eq_nil_iff]

theorem check_fill_sample :
    Sample.around.Leads Sample.schema Sample.places [.field "near", .field "at", .index 1]
        (.named "Float" true) ∧
      ((Sample.around.fill (string "L")).refusals Sample.schema Sample.places (some 2)).map
          Fault.cause =
        [.mismatch [.field "near", .field "id"] (.null (.named "ID" true)),
         .mismatch [.field "near", .field "at", .index 1] (.notScalar .float (string "L")),
         .mismatch [.field "near", .field "at", .index 2] (.null (.named "Float" true)),
         .mismatch [] (.undeclaredField "up" "Place")] ∧
      ∃ front back, ∃ k : Context, ∀ v : Value,
        (Sample.around.fill v).refusals Sample.schema Sample.places (some 2) =
            front ++ (v.refusals Sample.schema (.named "Float" true) (some 2)).map
              (Fault.below [.field "near", .field "at", .index 1]) ++ back ∧
          ∀ w, (Sample.around.fill v).check Sample.schema Sample.places (some 2) = .ok w ↔
            front = [] ∧ back = [] ∧
              ∃ u, v.check Sample.schema (.named "Float" true) (some 2) = .ok u ∧ w = k.fill u :=
  ⟨Sample.leads_around, rfl, check_fill Sample.leads_around (some 2)⟩

end Value

end GraphQLInput
