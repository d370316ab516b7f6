import GraphQLInput.Proofs.Conformance.Request
import GraphQLInput.Proofs.Transcription.Basic
/-!
# The order of given data

Objects are read by the names of their entries, so that the order in which a request gives them
does not matter, and neither does what it gives for names that are not declared. Only the data of a
custom scalar is taken over as a whole. The texts of faults quote what was given; where the faults
are and of which kind they are does not depend on the order.
-/
namespace GraphQLInput

/-- Whether the name is that of a scalar without rules, which takes data over as it is. -/
def Schema.isCustom (S : Schema) (name : String) : Bool :=
  match S.types.get? name with
  | some .scalar => (Scalar.ofName? name).isNone
  | _ => false

/-- Whether a value stands for a custom scalar at a site. -/
def Site.takesWhole (S : Schema) (v : Value) : Site → Bool
  | some τ => v.checksByName S τ && S.isCustom τ.base
  | none => false

/-- The values that are the same at a site up to the order of the entries of objects. -/
inductive Reorders (S : Schema) : Site → Value → Value → Prop
  | same {p : Site} {v : Value} : Reorders S p v v
  | list {p : Site} {items items' : List Value} :
      p.takesWhole S (.list items) = false → items.length = items'.length →
      (∀ v w, (v, w) ∈ items.zip items' → Reorders S p.item v w) →
      Reorders S p (.list items) (.list items')
  | object {p : Site} {entries entries' : List (String × Value)} :
      p.takesWhole S (.object entries) = false →
      (entries.map Prod.fst).Perm (entries'.map Prod.fst) →
      (∀ n v w, (n, v) ∈ entries → (n, w) ∈ entries' → Reorders S (p.field S n) v w) →
      Reorders S p (.object entries) (.object entries')

/-- Two checks with the same result and equally many faults. -/
structure Checked.Alike {α : Type} (a b : Checked α) : Prop where
  result : a.result = b.result
  count : a.faults.length = b.faults.length

namespace Checked.Alike

variable {α β γ : Type} {a a' : Checked α} {b b' : Checked β}

private theorem refl (a : Checked α) : a.Alike a :=
  ⟨rfl, rfl⟩

private theorem map (h : a.Alike a') (f : α → β) : (a.map f).Alike (a'.map f) :=
  ⟨congrArg f h.result, h.count⟩

private theorem both (ha : a.Alike a') (hb : b.Alike b') (f : α → β → γ) :
    (Checked.both f a b).Alike (Checked.both f a' b') where
  result := congrArg₂ f ha.result hb.result
  count := by
    rw [faults_both, faults_both, List.length_append, List.length_append, ha.count, hb.count]

private theorem checkEach {f g : String → InputSpec → Checked (Option Value)}
    {es : List (String × InputSpec)} (h : ∀ e ∈ es, (f e.1 e.2).Alike (g e.1 e.2)) :
    (InputSpec.checkEach f es).Alike (InputSpec.checkEach g es) := by
  induction es with
  | nil => exact refl _
  | cons e es ih =>
      rw [List.forall_mem_cons] at h
      exact h.1.both (ih h.2) _

end Checked.Alike

private theorem length_undeclaredFaults_of_perm {declared : Table InputSpec} {type : String}
    {place : Path} {names names' : List String} (h : names.Perm names') :
    (undeclaredFaults declared type place names).length =
      (undeclaredFaults declared type place names').length := by
  rw [undeclaredFaults, undeclaredFaults, List.length_map, List.length_map]
  exact (h.filter _).length_eq

namespace Value

variable {S : Schema}

/-- Whether further values stand inside a value. -/
def isCompound : Value → Bool
  | list _ => true
  | object _ => true
  | _ => false

private theorem check_of_isCompound {v : Value} (hv : v.isCompound = true) (s : Scalar) :
    s.check v = .error (.notScalar s v) := by
  cases v with
  | list items => cases s <;> rfl
  | object entries => cases s <;> rfl
  | _ => cases hv

/-- Of all named types none but a custom scalar takes a list or an object that it declares no
fields for. -/
private theorem checkNamed_of_isCompound {v : Value} (hv : v.isCompound = true) {name : String}
    (hc : S.isCustom name = false) (place : Path) :
    ∃ why, v.checkNamed S name place = .fault .null place why := by
  rw [Schema.isCustom] at hc
  rw [checkNamed]
  cases ht : S.types.get? name with
  | none => exact ⟨_, rfl⟩
  | some d =>
      cases d with
      | scalar =>
          cases hs : Scalar.ofName? name with
          | none => simp [ht, hs] at hc
          | some s => exact ⟨.notScalar s v, by simp only [check_of_isCompound hv]⟩
      | enum values =>
          cases v with
          | list items => exact ⟨_, rfl⟩
          | object entries => exact ⟨_, rfl⟩
          | _ => cases hv
      | _ => exact ⟨_, rfl⟩

/-- What holds others and is no custom scalar comes to the same wherever its name decides. -/
private theorem checkAt_alike_of_isCompound {v w : Value} {τ : TypeRef} (hv : v.isCompound = true)
    (hw : w.isCompound = true) (hvname : v.checksByName S τ = true)
    (hwname : w.checksByName S τ = true) (hc : S.isCustom τ.base = false) (place : Path) :
    (v.checkAt S τ place).Alike (w.checkAt S τ place) := by
  obtain ⟨whyv, hcv⟩ := checkNamed_of_isCompound hv hc place
  obtain ⟨whyw, hcw⟩ := checkNamed_of_isCompound hw hc place
  rw [checkAt_of_checksByName S hvname, checkAt_of_checksByName S hwname, hcv, hcw]
  exact ⟨rfl, rfl⟩

private theorem checkItems_alike {item : TypeRef} {place : Path} {items items' : List Value}
    (h : List.Forall₂
      (fun v w => ∀ place, (v.checkAt S item place).Alike (w.checkAt S item place)) items items')
    (i : Nat) : (checkItems S item place i items).Alike (checkItems S item place i items') := by
  induction h generalizing i with
  | nil => exact .refl _
  | cons hvw _ ih => exact (hvw _).both (ih (i + 1)) _

/-- The check of what a field receives depends on the entry of its name only. -/
private theorem checkReceived_alike {entries entries' : List (String × Value)} {name : String}
    {spec : InputSpec} (hkeys : (entries.map Prod.fst).Perm (entries'.map Prod.fst))
    (h : ∀ v w, (name, v) ∈ entries → (name, w) ∈ entries' → ∀ place,
      (v.checkAt S spec.type place).Alike (w.checkAt S spec.type place)) (place : Path) :
    (checkReceived S entries place name spec).Alike
      (checkReceived S entries' place name spec) := by
  have hnone : entries.lookup name = none ↔ entries'.lookup name = none := by
    rw [Entries.lookup_eq_none_iff, Entries.lookup_eq_none_iff, hkeys.mem_iff]
  rw [checkReceived, checkReceived]
  cases hv : entries.lookup name with
  | none =>
      rw [hnone.1 hv]
      exact .refl _
  | some v =>
      cases hw : entries'.lookup name with
      | none => cases hv.symm.trans (hnone.2 hw)
      | some w => exact (h v w (Entries.mem_of_lookup hv) (Entries.mem_of_lookup hw) _).map some

end Value

namespace Reorders

variable {S : Schema}

/-- Entries that are reordered each on its own may change places as well. -/
theorem of_perm {p : Site} {entries aligned entries' : List (String × Value)}
    (hwhole : p.takesWhole S (.object entries) = false) (hd : (entries.map Prod.fst).Nodup)
    (h : List.Forall₂ (fun e f => e.1 = f.1 ∧ Reorders S (p.field S e.1) e.2 f.2) entries aligned)
    (hp : aligned.Perm entries') : Reorders S p (.object entries) (.object entries') := by
  have hkeys : entries.map Prod.fst = aligned.map Prod.fst :=
    map_eq_map_iff_forall₂.2 (h.imp fun _ _ hef => hef.1)
  refine .object hwhole (hkeys ▸ hp.map Prod.fst) fun n v w hv hw => ?_
  obtain ⟨⟨m, u⟩, hu, rfl, huw⟩ := exists_of_forall₂_right h (hp.mem_iff.2 hw)
  have huv : some u = some v :=
    (Entries.lookup_of_mem hd hu).symm.trans (Entries.lookup_of_mem hd hv)
  cases huv
  exact huw

private theorem isNull_eq {p : Site} {v w : Value} (h : Reorders S p v w) :
    v.isNull = w.isNull := by
  cases h <;> rfl

/-- Data is checked alike in any order of its entries. -/
theorem checkAt_alike {p : Site} {v w : Value} (h : Reorders S p v w) :
    ∀ τ, p = some τ → ∀ place, (v.checkAt S τ place).Alike (w.checkAt S τ place) := by
  induction h with
  | same => exact fun _ _ _ => .refl _
  | @list p items items' hwhole hlength _ ih =>
      rintro τ rfl place
      cases τ with
      | named name a =>
          -- a named type takes no list but for a custom scalar, where nothing may be reordered
          exact Value.checkAt_alike_of_isCompound rfl rfl rfl rfl hwhole place
      | list item a =>
          rw [Value.checkAt, Value.checkAt]
          have hitems : List.Forall₂ (fun v w => ∀ place,
              (v.checkAt S item place).Alike (w.checkAt S item place)) items items' :=
            List.forall₂_iff_zip.2 ⟨hlength, fun hm => ih _ _ hm item rfl⟩
          exact (Value.checkItems_alike hitems 0).map _
  | @object p entries entries' hwhole hkeys _ ih =>
      rintro τ rfl place
      cases hf : S.inputFields? τ.base with
      | none =>
          have hname : ∀ es, (Value.object es).checksByName S τ = true := by
            intro es
            rw [Value.checksByName, hf, Option.isNone_none]
          rw [Site.takesWhole, hname, Bool.true_and] at hwhole
          exact Value.checkAt_alike_of_isCompound rfl rfl (hname _) (hname _) hwhole place
      | some declared =>
          rw [Value.checkAt_object S entries hf, Value.checkAt_object S entries' hf]
          refine (Checked.Alike.both (.checkEach fun e he => ?_) ?_ _).map _
          · have hsite : Site.field S (some τ) e.1 = some e.2.type := by
              simp [Site.field, hf, Table.get?_eq_some_iff.2 he]
            exact Value.checkReceived_alike hkeys
              (fun v w hv hw => ih e.1 v w hv hw e.2.type hsite) place
          · exact ⟨rfl, length_undeclaredFaults_of_perm hkeys⟩

end Reorders

namespace Fault

/-- What a fault says besides its text. -/
def mark (f : Fault) : Kind × Option Location :=
  (f.kind, f.location)

private theorem map_mark_upTo {fs fs' : List Fault} (h : fs.map mark = fs'.map mark)
    (limit : Option Nat) :
    (upTo limit fs).map mark = (upTo limit fs').map mark := by
  have hlength : fs.length = fs'.length := by simpa using congrArg List.length h
  cases limit with
  | none => exact h
  | some n =>
      rw [upTo, upTo, hlength]
      split
      · exact h
      · rw [List.map_append, List.map_append, List.map_take, List.map_take, h]

end Fault

/-- The outcome of a check says nothing of its faults but how many there are, texts apart. -/
private theorem Value.mapError_mark_check (S : Schema) (τ : TypeRef) (location : Option Location)
    (v : Value) :
    (v.check S τ location).mapError (List.map Fault.mark) =
      if (v.checkAt S τ []).faults.length = 0 then .ok (v.checkAt S τ []).result
      else .error (List.replicate (v.checkAt S τ []).faults.length (.invalid, location)) := by
  have hmarks : ((v.checkAt S τ []).faults.map fun f : Path × Mismatch =>
      (⟨.mismatch f.1 f.2, location⟩ : Fault)).map Fault.mark =
        List.replicate (v.checkAt S τ []).faults.length (.invalid, location) := by
    rw [List.map_map]
    change (v.checkAt S τ []).faults.map (fun _ => (Kind.invalid, location)) = _
    exact List.map_const'
  rw [check, ← hmarks]
  cases (v.checkAt S τ []).faults <;> rfl

/-- Two contributions of the same entry whose faults differ in their texts only. -/
structure Contribution.Alike (a b : Contribution) : Prop where
  entry : a.entry = b.entry
  marks : a.faults.map Fault.mark = b.faults.map Fault.mark

private theorem Fault.map_mark_inVariable (x : String) (given : Value) (fs : List Fault) :
    (fs.map (·.inVariable x given)).map mark = fs.map mark := by
  rw [List.map_map]
  rfl

/-- What the outcome of checking a given value comes to. -/
def Contribution.ofOutcome (x : String) (given : Value) : Except (List Fault) Value → Contribution
  | .ok w => .bound w
  | .error fs => ⟨none, fs.map (·.inVariable x given)⟩

private theorem Contribution.ofOutcome_alike {a b : Except (List Fault) Value}
    (h : a.mapError (List.map Fault.mark) = b.mapError (List.map Fault.mark)) (x : String)
    (v w : Value) : (ofOutcome x v a).Alike (ofOutcome x w b) := by
  cases a with
  | ok u =>
      cases b with
      | ok u' =>
          cases h
          exact ⟨rfl, rfl⟩
      | error fs => cases h
  | error fs =>
      cases b with
      | ok u => cases h
      | error fs' =>
          refine ⟨rfl, ?_⟩
          rw [ofOutcome, ofOutcome, Fault.map_mark_inVariable, Fault.map_mark_inVariable]
          exact Except.error.inj h

namespace VariableDecl

variable {S : Schema} {given given' : Bindings} {d : VariableDecl}

private theorem bind_congr (h : given.get? d.name = given'.get? d.name) :
    d.bind S .standard given = d.bind S .standard given' := by
  rw [bind, bind, h]

private theorem bind_eq_ofOutcome {v : Value} (hi : (S.inputTypeOf? d.type.item).isNone = false)
    (hg : given.get? d.name = some v) (hv : v ≠ .null) :
    d.bind S .standard given = .ofOutcome d.name v (v.check S d.type.item d.location) := by
  rw [bind_of_value hi hg hv]
  simp only [Primitives.standard]
  cases v.check S d.type.item d.location <;> rfl

private theorem bind_alike_of_value {v w : Value} (hi : (S.inputTypeOf? d.type.item).isNone = false)
    (hg : given.get? d.name = some v) (hg' : given'.get? d.name = some w) (hv : v ≠ .null)
    (h : Reorders S (some d.type.item) v w) :
    (d.bind S .standard given).Alike (d.bind S .standard given') := by
  have hw : w ≠ .null := by
    rwa [Ne, ← Value.isNull_iff, ← h.isNull_eq, Value.isNull_iff]
  have halike := h.checkAt_alike d.type.item rfl []
  have hcheck : (v.check S d.type.item d.location).mapError (List.map Fault.mark) =
      (w.check S d.type.item d.location).mapError (List.map Fault.mark) := by
    rw [Value.mapError_mark_check, Value.mapError_mark_check, halike.count, halike.result]
  rw [bind_eq_ofOutcome hi hg hv, bind_eq_ofOutcome hi hg' hw]
  exact Contribution.ofOutcome_alike hcheck d.name v w

/-- A declaration comes to the same for data in any order, texts apart. -/
private theorem bind_alike
    (h : Option.Rel (Reorders S (some d.type.item)) (given.get? d.name) (given'.get? d.name)) :
    (d.bind S .standard given).Alike (d.bind S .standard given') := by
  cases hi : (S.inputTypeOf? d.type.item).isNone with
  | true =>
      rw [bind_of_notInput hi, bind_of_notInput hi]
      exact ⟨rfl, rfl⟩
  | false =>
      generalize hg : given.get? d.name = gives, hg' : given'.get? d.name = gives' at h
      cases h with
      | none =>
          rw [bind_congr (hg.trans hg'.symm)]
          exact ⟨rfl, rfl⟩
      | @some v w hvw =>
          by_cases hv : v = .null
          · have hw : w = .null := by
              rwa [← Value.isNull_iff, ← hvw.isNull_eq, Value.isNull_iff]
            subst hv hw
            rw [bind_congr (hg.trans hg'.symm)]
            exact ⟨rfl, rfl⟩
          · exact bind_alike_of_value hi hg hg' hv hvw

end VariableDecl

namespace Sample

def trip : List VariableDecl :=
  [⟨"p", ⟨.list (.named "Place" true) true, none⟩, none, some 1⟩,
   ⟨"u", ⟨.named "Unit" false, none⟩, some ⟨.enum "KM", none⟩, some 2⟩]

def remark : Value :=
  .object [("y", .null), ("x", .null)]

/-- A place without an identifier and with a field too many. -/
def side : Value :=
  .object [("id", .null), ("up", .null), ("note", remark)]

def sideReordered : Value :=
  .object [("note", remark), ("up", .null), ("id", .null)]

def stops : Bindings :=
  ⟨[("p", .object [("id", .int seven), ("size", .string "L"), ("near", side)]), ("v", .int one)],
    by decide⟩

def stopsReordered : Bindings :=
  ⟨[("w", .null),
    ("p", .object [("near", sideReordered), ("size", .string "L"), ("id", .int seven)])], by decide⟩

private theorem reorders_side :
    Reorders schema (some (.list (.named "Place" true) false)) side sideReordered :=
  .of_perm rfl (by simp) (.cons ⟨rfl, .same⟩ (.cons ⟨rfl, .same⟩ (.cons ⟨rfl, .same⟩ .nil)))
    (List.reverse_perm _).symm

private theorem reorders_stops : ∀ d ∈ trip, Option.Rel (Reorders schema (some d.type.item))
    (stops.get? d.name) (stopsReordered.get? d.name) := by
  have haligned : List.Forall₂
      (fun e f : String × Value => e.1 = f.1 ∧ Reorders schema
        (Site.field schema (some (.list (.named "Place" true) true)) e.1) e.2 f.2)
      [("id", .int seven), ("size", .string "L"), ("near", side)]
      [("id", .int seven), ("size", .string "L"), ("near", sideReordered)] :=
    .cons ⟨rfl, .same⟩ (.cons ⟨rfl, .same⟩ (.cons ⟨rfl, reorders_side⟩ .nil))
  have hplace := Reorders.of_perm rfl (by simp) haligned (List.reverse_perm _).symm
  simp only [trip, List.forall_mem_cons]
  exact ⟨.some hplace, .none, fun _ hd => absurd hd List.not_mem_nil⟩

end Sample

namespace Request

variable {S : Schema} {settings : Settings} {given given' : Bindings} {ds : List VariableDecl}

private theorem map_mark_faults
    (h : ∀ d ∈ ds, (d.bind S .standard given).Alike (d.bind S .standard given')) :
    (faults S .standard given ds).map Fault.mark =
      (faults S .standard given' ds).map Fault.mark := by
  rw [faults, faults, List.map_flatMap, List.map_flatMap]
  exact List.flatMap_congr fun d hd => (h d hd).marks

private theorem entries_congr
    (h : ∀ d ∈ ds, (d.bind S .standard given).Alike (d.bind S .standard given')) :
    entries S .standard given ds = entries S .standard given' ds :=
  List.foldl_ext _ _ _ fun t d hd => congrArg (t.extend d.name) (h d hd).entry

/-- Names that are not declared and the order of entries have no part in what is bound, nor in how
many faults are reported, of which kind and where. -/
theorem bind_reordered
    (h : ∀ d ∈ ds, Option.Rel (Reorders S (some d.type.item))
      (given.get? d.name) (given'.get? d.name)) :
    (bind S .standard settings ds given).mapError (List.map Fault.mark) =
      (bind S .standard settings ds given').mapError (List.map Fault.mark) := by
  have halike := fun d hd => VariableDecl.bind_alike (h d hd)
  have hmarks := map_mark_faults halike
  by_cases hf : faults S .standard given ds = []
  · have hf' : faults S .standard given' ds = [] := by
      rwa [hf, List.map_nil, eq_comm, List.map_eq_nil_iff] at hmarks
    rw [bind_of_faults_nil hf, bind_of_faults_nil hf', entries_congr halike]
  · have hf' : faults S .standard given' ds ≠ [] := by
      intro hnil
      rw [hnil, List.map_nil, List.map_eq_nil_iff] at hmarks
      exact hf hmarks
    rw [bind_of_faults_ne_nil hf, bind_of_faults_ne_nil hf']
    exact congrArg Except.error (Fault.map_mark_upTo hmarks settings.limit)

theorem bind_reordered_sample :
    (∀ d ∈ Sample.trip, Option.Rel (Reorders Sample.schema (some d.type.item))
      (Sample.stops.get? d.name) (Sample.stopsReordered.get? d.name)) ∧
      (bind Sample.schema .standard ⟨some 2⟩ Sample.trip Sample.stops).mapError
          (List.map Fault.mark) =
        .error [(.invalid, some 1), (.invalid, some 1), (.tooMany, none)] ∧
      (bind Sample.schema .standard ⟨some 2⟩ Sample.trip Sample.stops).mapError
          (List.map Fault.mark) =
        (bind Sample.schema .standard ⟨some 2⟩ Sample.trip Sample.stopsReordered).mapError
          (List.map Fault.mark) :=
  ⟨Sample.reorders_stops, rfl, bind_reordered Sample.reorders_stops⟩

end Request

end GraphQLInput
