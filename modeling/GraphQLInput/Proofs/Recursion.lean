import GraphQLInput.Proofs.Checking
import GraphQLInput.Proofs.Defaults
/-!
# One call at a time

Reading a literal and checking given data are one recursion over calls: from a value to its parts,
from a type of lists to the type of an item, and from an object to the default of a field that is
left out. Here is one step of it, with the results of further calls taken from elsewhere. A step
looks at the calls that it makes and at no others, and where no default asks for itself the results
of reading and checking are what one step makes of them.
-/
namespace GraphQLInput

/-- A call of the recursion, with everything that it is given. -/
inductive Task where
  | untyped (vars : Option Bindings) (l : Literal)
  | read (vars : Option Bindings) (l : Literal) (τ : TypeRef)
  | check (place : Path) (v : Value) (τ : TypeRef)

namespace Checked

variable {α β : Type}

/-- The checks of the items of a list, with the position of each. -/
def each (f : Nat → α → Checked β) : Nat → List α → Checked (List β)
  | _, [] => .ok []
  | i, a :: as => .both (· :: ·) (f i a) (each f (i + 1) as)

private theorem each_congr {f g : Nat → α → Checked β} {i : Nat} {as : List α}
    (h : ∀ e ∈ as.zipIdx i, f e.2 e.1 = g e.2 e.1) : each f i as = each g i as := by
  induction as generalizing i with
  | nil => rfl
  | cons a as ih =>
      rw [List.zipIdx_cons, List.forall_mem_cons] at h
      rw [each, each, h.1, ih h.2]

end Checked

namespace Task

/-- What a call returns. -/
abbrev Result : Task → Type
  | untyped _ _ => Option Value
  | read _ _ _ => Option Value
  | check _ _ _ => Checked Value

/-- What reading or checking returns for a call. -/
def result (S : Schema) : (t : Task) → t.Result
  | untyped vars l => l.untyped (S.scope vars).value?
  | read vars l τ => l.read S vars τ
  | check place v τ => v.checkAt S τ place

/-- One step of reading without a type, with further calls left to `call`. -/
def stepUntyped (S : Schema) (call : (t : Task) → t.Result) (vars : Option Bindings) :
    Literal → Option Value
  | .list items =>
    (items.mapM fun l : Literal =>
      if l.isUnbound (S.scope vars).value? then some Value.null
      else call (.untyped vars l)).map .list
  | .object fields =>
    ((fields.filter fun f => !f.2.isUnbound (S.scope vars).value?).mapM fun f =>
      (call (.untyped vars f.2)).map (f.1, ·)).map .ofEntries
  | l => l.untyped (S.scope vars).value?

/-- One step of what a declared field receives from a literal. -/
def stepField (S : Schema) (call : (t : Task) → t.Result) (vars : Option Bindings)
    (fields : List (String × Literal)) (n : String) (spec : InputSpec) : Option (Option Value) :=
  match Literal.given? (S.scope vars).value? fields n with
  | some l => (call (.read vars l spec.type)).map some
  | none =>
    match spec.default? with
    | some l => (call (.read none l spec.type)).map some
    | none => if spec.type.isNonNull then none else some none

/-- One step of reading a literal by the name of its type. Only a custom scalar calls further. -/
def stepNamed (S : Schema) (call : (t : Task) → t.Result) (vars : Option Bindings) (name : String)
    (l : Literal) : Option Value :=
  match S.types.get? name, Scalar.ofName? name with
  | some .scalar, none => call (.untyped vars l)
  | _, _ => l.readNamed (S.scope vars) name

/-- One step of reading a literal at a type. -/
def stepRead (S : Schema) (call : (t : Task) → t.Result) (vars : Option Bindings) :
    Literal → TypeRef → Option Value
  | .null, τ => if τ.isNonNull then none else some .null
  | .reference x, τ => ((S.scope vars).value? x).filter fun v => !(v.isNull && τ.isNonNull)
  | .list items, .list item _ =>
    (items.mapM fun l : Literal =>
      if l.isUnbound (S.scope vars).value? then (if item.isNonNull then none else some Value.null)
      else call (.read vars l item)).map .list
  | l, .list item _ => (call (.read vars l item)).map fun v => .list [v]
  | .object fields, .named name _ =>
    match S.inputFields? name with
    | some declared =>
      (InputSpec.collect (stepField S call vars fields) declared.entries).map .object
    | none => stepNamed S call vars name (.object fields)
  | l, .named name _ => stepNamed S call vars name l

/-- One step of the check of what a declared field receives. -/
def stepEntry (call : (t : Task) → t.Result) (place : Path)
    (entries : List (String × Value)) (n : String) (spec : InputSpec) : Checked (Option Value) :=
  match entries.lookup n with
  | some v => (call (.check (place ++ [.field n]) v spec.type)).map some
  | none =>
    match spec.default? with
    | some l =>
      match call (.read none l spec.type) with
      | some v => .ok (some v)
      | none => .fault none (place ++ [.field n]) (.invalidDefault l)
    | none =>
      if spec.type.isNonNull then .fault none (place ++ [.field n]) (.missingField spec.type)
      else .ok none

/-- One step of checking data at a type. -/
def stepCheck (S : Schema) (call : (t : Task) → t.Result) (place : Path) :
    Value → TypeRef → Checked Value
  | .null, τ => if τ.isNonNull then .fault .null place (.null τ) else .ok .null
  | .list items, .list item _ =>
    (Checked.each (fun i v => call (.check (place ++ [.index i]) v item)) 0 items).map .list
  | v, .list item _ => (call (.check place v item)).map fun w => .list [w]
  | .object entries, .named name _ =>
    match S.inputFields? name with
    | some declared =>
      Checked.both (fun fields (_ : Unit) => Value.object fields)
        (InputSpec.checkEach (stepEntry call place entries) declared.entries)
        ⟨(), undeclaredFaults declared name place (entries.map Prod.fst)⟩
    | none => (Value.object entries).checkNamed S name place
  | v, .named name _ => v.checkNamed S name place

/-- One step of a call, with further calls left to `call`. -/
def step (S : Schema) (call : (t : Task) → t.Result) : (t : Task) → t.Result
  | untyped vars l => stepUntyped S call vars l
  | read vars l τ => stepRead S call vars l τ
  | check place v τ => stepCheck S call place v τ

/-- The calls that reading without a type makes. -/
def untypedCalls (S : Schema) (vars : Option Bindings) : Literal → List Task
  | .list items =>
    (items.filter fun l => !l.isUnbound (S.scope vars).value?).map (.untyped vars)
  | .object fields =>
    (fields.filter fun f => !f.2.isUnbound (S.scope vars).value?).map fun f => .untyped vars f.2
  | _ => []

/-- The call that a declared field makes, if it makes one. -/
def fieldCall? (S : Schema) (vars : Option Bindings) (fields : List (String × Literal))
    (n : String) (spec : InputSpec) : Option Task :=
  match Literal.given? (S.scope vars).value? fields n with
  | some l => some (.read vars l spec.type)
  | none => spec.default?.map fun l => .read none l spec.type

/-- The call that reading by the name of a type makes at a custom scalar. -/
def namedCalls (S : Schema) (vars : Option Bindings) (name : String) (l : Literal) : List Task :=
  match S.types.get? name, Scalar.ofName? name with
  | some .scalar, none => [.untyped vars l]
  | _, _ => []

/-- The calls that reading at a type makes. -/
def readCalls (S : Schema) (vars : Option Bindings) : Literal → TypeRef → List Task
  | .null, _ => []
  | .reference _, _ => []
  | .list items, .list item _ =>
    (items.filter fun l => !l.isUnbound (S.scope vars).value?).map fun l => .read vars l item
  | l, .list item _ => [.read vars l item]
  | .object fields, .named name _ =>
    match S.inputFields? name with
    | some declared => declared.entries.filterMap fun e => fieldCall? S vars fields e.1 e.2
    | none => namedCalls S vars name (.object fields)
  | l, .named name _ => namedCalls S vars name l

/-- The call that the check of a declared field makes, if it makes one. -/
def entryCall? (place : Path) (entries : List (String × Value)) (n : String) (spec : InputSpec) :
    Option Task :=
  match entries.lookup n with
  | some v => some (.check (place ++ [.field n]) v spec.type)
  | none => spec.default?.map fun l => .read none l spec.type

/-- The calls that checking at a type makes. -/
def checkCalls (S : Schema) (place : Path) : Value → TypeRef → List Task
  | .null, _ => []
  | .list items, .list item _ =>
    items.zipIdx.map fun e => .check (place ++ [.index e.2]) e.1 item
  | v, .list item _ => [.check place v item]
  | .object entries, .named name _ =>
    match S.inputFields? name with
    | some declared => declared.entries.filterMap fun e => entryCall? place entries e.1 e.2
    | none => []
  | _, .named _ _ => []

/-- The calls that a call makes, unless one of them is refused before. -/
def calls (S : Schema) : Task → List Task
  | untyped vars l => untypedCalls S vars l
  | read vars l τ => readCalls S vars l τ
  | check place v τ => checkCalls S place v τ

section Calls

variable {S : Schema} {vars : Option Bindings}

theorem readCalls_single {l : Literal} (hnull : l ≠ .null) (href : l.referent? = none)
    (hlist : ∀ items, l ≠ .list items) (item : TypeRef) (a : Bool) :
    readCalls S vars l (.list item a) = [.read vars l item] := by
  cases l with
  | null => exact absurd rfl hnull
  | reference x => cases href
  | list items => exact absurd rfl (hlist items)
  | _ => rfl

theorem readCalls_named {l : Literal} {name : String} {a : Bool}
    (h : l.readsByName S (.named name a) = true) :
    readCalls S vars l (.named name a) = namedCalls S vars name l := by
  cases l with
  | null => cases h
  | reference x => cases h
  | object fields =>
      rw [Literal.readsByName, TypeRef.base, Option.isNone_iff_eq_none] at h
      rw [readCalls, h]
  | _ => rfl

theorem mem_readCalls_object {fields : List (String × Literal)} {name n : String} {a : Bool}
    {declared : Table InputSpec} {spec : InputSpec} {t : Task}
    (hf : S.inputFields? name = some declared) (hn : declared.get? n = some spec)
    (h : fieldCall? S vars fields n spec = some t) :
    t ∈ readCalls S vars (.object fields) (.named name a) := by
  rw [readCalls, hf]
  exact List.mem_filterMap.2 ⟨(n, spec), Table.get?_eq_some_iff.1 hn, h⟩

theorem checkCalls_single {v : Value} (hv : v ≠ .null) (hlist : ∀ items, v ≠ .list items)
    (place : Path) (item : TypeRef) (a : Bool) :
    checkCalls S place v (.list item a) = [.check place v item] := by
  cases v with
  | null => exact absurd rfl hv
  | list items => exact absurd rfl (hlist items)
  | _ => rfl

theorem checkCalls_named {v : Value} {name : String} {a : Bool}
    (h : v.checksByName S (.named name a) = true) (place : Path) :
    checkCalls S place v (.named name a) = [] := by
  cases v with
  | object entries =>
      rw [Value.checksByName, TypeRef.base, Option.isNone_iff_eq_none] at h
      rw [checkCalls, h]
  | _ => rfl

end Calls

section Congruence

variable {S : Schema} {call call' : (t : Task) → t.Result} {vars : Option Bindings}

private theorem stepUntyped_congr {l : Literal}
    (h : ∀ t ∈ untypedCalls S vars l, call t = call' t) :
    stepUntyped S call vars l = stepUntyped S call' vars l := by
  cases l with
  | list items =>
      rw [stepUntyped, stepUntyped]
      congr 1
      apply mapM_congr
      intro l hl
      split
      · rfl
      · rename_i hbound
        have hmem : Task.untyped vars l ∈ untypedCalls S vars (.list items) :=
          List.mem_map_of_mem (List.mem_filter.2 ⟨hl, by simpa using hbound⟩)
        exact h _ hmem
  | object fields =>
      rw [stepUntyped, stepUntyped]
      congr 1
      apply mapM_congr
      intro f hf
      have hmem : Task.untyped vars f.2 ∈ untypedCalls S vars (.object fields) :=
        List.mem_map.2 ⟨f, hf, rfl⟩
      exact congrArg (Option.map (f.1, ·)) (h _ hmem)
  | _ => rfl

private theorem stepField_congr {fields : List (String × Literal)} {n : String} {spec : InputSpec}
    (h : ∀ t, fieldCall? S vars fields n spec = some t → call t = call' t) :
    stepField S call vars fields n spec = stepField S call' vars fields n spec := by
  rw [stepField, stepField]
  cases hg : Literal.given? (S.scope vars).value? fields n with
  | some l =>
      have hcall : fieldCall? S vars fields n spec = some (.read vars l spec.type) := by
        rw [fieldCall?, hg]
      exact congrArg (Option.map some) (h _ hcall)
  | none =>
      cases hd : spec.default? with
      | none => rfl
      | some l =>
          have hcall : fieldCall? S vars fields n spec = some (.read none l spec.type) := by
            rw [fieldCall?, hg, hd]
            rfl
          exact congrArg (Option.map some) (h _ hcall)

private theorem stepNamed_congr {name : String} {l : Literal}
    (h : ∀ t ∈ namedCalls S vars name l, call t = call' t) :
    stepNamed S call vars name l = stepNamed S call' vars name l := by
  rw [stepNamed, stepNamed]
  split
  · rename_i ht hs
    have hmem : Task.untyped vars l ∈ namedCalls S vars name l := by
      rw [namedCalls, ht, hs]
      exact List.mem_singleton_self _
    exact h _ hmem
  · rfl

private theorem stepRead_congr {l : Literal} {τ : TypeRef}
    (h : ∀ t ∈ readCalls S vars l τ, call t = call' t) :
    stepRead S call vars l τ = stepRead S call' vars l τ := by
  cases τ with
  | list item a =>
      cases l with
      | null => rfl
      | reference x => rfl
      | list items =>
          rw [stepRead, stepRead]
          congr 1
          apply mapM_congr
          intro l hl
          split
          · rfl
          · rename_i hbound
            have hmem : Task.read vars l item ∈ readCalls S vars (.list items) (.list item a) :=
              List.mem_map.2 ⟨l, List.mem_filter.2 ⟨hl, by simpa using hbound⟩, rfl⟩
            exact h _ hmem
      | _ => exact congrArg (Option.map _) (h _ (List.mem_singleton_self _))
  | named name a =>
      cases l with
      | null => rfl
      | reference x => rfl
      | object fields =>
          rw [readCalls] at h
          rw [stepRead, stepRead]
          cases hf : S.inputFields? name with
          | none =>
              rw [hf] at h
              exact stepNamed_congr h
          | some declared =>
              rw [hf] at h
              apply congrArg (Option.map Value.object)
              apply InputSpec.collect_congr
              intro n spec hmem
              apply stepField_congr
              exact fun t ht => h t (List.mem_filterMap.2 ⟨(n, spec), hmem, ht⟩)
      | _ => exact stepNamed_congr h

private theorem stepEntry_congr {place : Path} {entries : List (String × Value)} {n : String}
    {spec : InputSpec} (h : ∀ t, entryCall? place entries n spec = some t → call t = call' t) :
    stepEntry call place entries n spec = stepEntry call' place entries n spec := by
  rw [stepEntry, stepEntry]
  cases hl : entries.lookup n with
  | some v =>
      have hcall : entryCall? place entries n spec =
          some (.check (place ++ [.field n]) v spec.type) := by
        rw [entryCall?, hl]
      exact congrArg (Checked.map some) (h _ hcall)
  | none =>
      cases hd : spec.default? with
      | none => rfl
      | some l =>
          have hcall : entryCall? place entries n spec = some (.read none l spec.type) := by
            rw [entryCall?, hl, hd]
            rfl
          have hread : call (.read none l spec.type) = call' (.read none l spec.type) := h _ hcall
          simp only [hread]

private theorem stepCheck_congr {place : Path} {v : Value} {τ : TypeRef}
    (h : ∀ t ∈ checkCalls S place v τ, call t = call' t) :
    stepCheck S call place v τ = stepCheck S call' place v τ := by
  cases τ with
  | list item a =>
      cases v with
      | null => rfl
      | list items =>
          rw [stepCheck, stepCheck]
          apply congrArg (Checked.map Value.list)
          apply Checked.each_congr
          intro e he
          exact h _ (List.mem_map.2 ⟨e, he, rfl⟩)
      | _ =>
          exact congrArg (Checked.map fun w => Value.list [w]) (h _ (List.mem_singleton_self _))
  | named name a =>
      cases v with
      | object entries =>
          rw [checkCalls] at h
          rw [stepCheck, stepCheck]
          cases hf : S.inputFields? name with
          | none => rfl
          | some declared =>
              rw [hf] at h
              have heach : InputSpec.checkEach (stepEntry call place entries) declared.entries =
                  InputSpec.checkEach (stepEntry call' place entries) declared.entries := by
                apply InputSpec.checkEach_congr
                intro e he
                apply stepEntry_congr
                exact fun t ht => h t (List.mem_filterMap.2 ⟨e, he, ht⟩)
              simp only [heach]
      | _ => rfl

/-- A step depends on the calls that it makes and on nothing else of the recursion. -/
theorem step_congr {t : Task} (h : ∀ inner ∈ t.calls S, call inner = call' inner) :
    step S call t = step S call' t := by
  cases t with
  | untyped vars l => exact stepUntyped_congr h
  | read vars l τ => exact stepRead_congr h
  | check place v τ => exact stepCheck_congr h

end Congruence

section Results

variable {S : Schema} {vars : Option Bindings}

private theorem untyped_eq_step (l : Literal) :
    l.untyped (S.scope vars).value? = stepUntyped S (result S) vars l := by
  cases l with
  | list items =>
      rw [Literal.untyped_list]
      rfl
  | object fields =>
      rw [Literal.untyped_object]
      rfl
  | _ => rfl

private theorem readNamed_eq_step (name : String) (l : Literal) :
    l.readNamed (S.scope vars) name = stepNamed S (result S) vars name l := by
  rw [stepNamed]
  split
  · rename_i ht hs
    exact Literal.readNamed_custom ht hs l
  · rfl

private theorem received_eq_step (hS : S.DefaultsAcyclic) {name n : String}
    {declared : Table InputSpec} {spec : InputSpec} (hf : S.inputFields? name = some declared)
    (hn : declared.get? n = some spec) (fields : List (String × Literal)) :
    Literal.received (S.scope vars) fields n spec = stepField S (result S) vars fields n spec := by
  have hdefault : (S.scope vars).default? spec = _ := hS.default?_eq hf hn
  rw [Literal.received, stepField]
  cases Literal.given? (S.scope vars).value? fields n with
  | some l => rfl
  | none =>
      rw [Option.map_none, Scope.receive, Scope.absent?, hdefault]
      cases spec.default? <;> rfl

private theorem read_eq_step (hS : S.DefaultsAcyclic) (l : Literal) (τ : TypeRef) :
    l.read S vars τ = stepRead S (result S) vars l τ := by
  cases τ with
  | list item a =>
      cases l with
      | null => rfl
      | reference x => rfl
      | list items =>
          rw [Literal.read, Literal.readIn_list]
          rfl
      | _ =>
          exact Literal.readIn_single _ Literal.noConfusion rfl (fun _ => Literal.noConfusion)
            item a
  | named name a =>
      cases l with
      | null => rfl
      | reference x => rfl
      | object fields =>
          rw [Literal.read, stepRead]
          cases hf : S.inputFields? name with
          | none =>
              rw [Literal.readIn_named _ Literal.noConfusion rfl hf]
              exact readNamed_eq_step name _
          | some declared =>
              have hbase : (S.scope vars).schema.inputFields? (TypeRef.named name a).base =
                  some declared := hf
              rw [Literal.readIn_object _ fields hbase]
              apply congrArg (Option.map Value.object)
              apply InputSpec.collect_congr
              intro n spec hmem
              exact received_eq_step hS hf (Table.get?_eq_some_iff.2 hmem) fields
      | _ =>
          rw [Literal.read, Literal.readIn_of_readsByName _ rfl]
          exact Option.map_id_apply.trans (readNamed_eq_step name _)

private theorem checkItems_eq_each (item : TypeRef) (place : Path) (i : Nat) (items : List Value) :
    Value.checkItems S item place i items =
      Checked.each (fun i v => v.checkAt S item (place ++ [.index i])) i items := by
  induction items generalizing i with
  | nil => rfl
  | cons v vs ih => rw [Value.checkItems, Checked.each, ih]

private theorem checkReceived_eq_step (hS : S.DefaultsAcyclic) {name n : String}
    {declared : Table InputSpec} {spec : InputSpec} (hf : S.inputFields? name = some declared)
    (hn : declared.get? n = some spec) (place : Path) (entries : List (String × Value)) :
    Value.checkReceived S entries place n spec = stepEntry (result S) place entries n spec := by
  rw [Value.checkReceived, stepEntry]
  cases entries.lookup n with
  | some v => rfl
  | none =>
      simp only [InputSpec.checkAbsent, hS.default?_eq hf hn]
      cases spec.default? with
      | none => rfl
      | some l =>
          have hread : result S (.read none l spec.type) = l.read S none spec.type := rfl
          simp only [Option.bind_some, hread]
          cases l.read S none spec.type <;> rfl

private theorem check_eq_step (hS : S.DefaultsAcyclic) (place : Path) (v : Value) (τ : TypeRef) :
    v.checkAt S τ place = stepCheck S (result S) place v τ := by
  cases τ with
  | list item a =>
      cases v with
      | null => rfl
      | list items =>
          rw [Value.checkAt, checkItems_eq_each]
          rfl
      | _ =>
          exact Value.checkAt_single S Value.noConfusion (fun _ => Value.noConfusion) item a place
  | named name a =>
      cases v with
      | null => rfl
      | object entries =>
          rw [stepCheck]
          cases hf : S.inputFields? name with
          | none => exact Value.checkAt_named S Value.noConfusion hf place
          | some declared =>
              have hbase : S.inputFields? (TypeRef.named name a).base = some declared := hf
              have heach : InputSpec.checkEach (Value.checkReceived S entries place)
                  declared.entries =
                  InputSpec.checkEach (stepEntry (result S) place entries) declared.entries := by
                apply InputSpec.checkEach_congr
                intro e he
                exact checkReceived_eq_step hS hf (Table.get?_eq_some_iff.2 he) place entries
              rw [Value.checkAt_object S entries hbase, heach]
              rfl
      | _ =>
          rw [Value.checkAt_of_checksByName S rfl]
          rfl

/-- What a call returns is one step over what the further calls return. -/
theorem result_eq_step (hS : S.DefaultsAcyclic) (t : Task) : t.result S = step S (result S) t := by
  cases t with
  | untyped vars l => exact untyped_eq_step l
  | read vars l τ => exact read_eq_step hS l τ
  | check place v τ => exact check_eq_step hS place v τ

end Results

end Task

end GraphQLInput
