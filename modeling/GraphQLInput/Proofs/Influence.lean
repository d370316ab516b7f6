import GraphQLInput.Proofs.Acceptance
import GraphQLInput.Proofs.Defaults
import GraphQLInput.Proofs.References
import GraphQLInput.Signature
/-!
# What variables can influence

A literal is read alike with any variables that agree on those that stand in it, and a call is
bound, or refused, alike with any that agree on those of the values that count. The default of a
field is read without variables, so that none has a part in it, not even one of the same name.
-/
namespace GraphQLInput

/-- The variables are looked up alike under the names. No variables at all are as good as none that
has a value. -/
def AgreeOn (names : List String) (vars vars' : Option Bindings) : Prop :=
  ∀ x ∈ names, vars.bind (·.get? x) = vars'.bind (·.get? x)

namespace Literal

section Reading

variable {S : Schema} {value? value?' : String → Option Value}
  {default? : InputSpec → Option Value}

private theorem given?_congr {fields : List (String × Literal)}
    (h : ∀ x ∈ (object fields).references, value? x = value?' x) (name : String) :
    given? value? fields name = given? value?' fields name := by
  rw [given?, given?]
  cases hl : fields.lookup name with
  | none => rfl
  | some l =>
      have hunbound : l.isUnbound value? = l.isUnbound value?' :=
        isUnbound_congr fun x hx => h x (mem_references_of_field (Entries.mem_of_lookup hl) hx)
      rw [Option.filter_some, Option.filter_some, hunbound]

private theorem readNamed_congr {l : Literal} (h : ∀ x ∈ l.references, value? x = value?' x)
    (name : String) :
    l.readNamed ⟨S, value?, default?⟩ name = l.readNamed ⟨S, value?', default?⟩ name := by
  have huntyped : l.untyped value? = l.untyped value?' := untyped_congr h
  simp only [readNamed, huntyped]

/-- A literal is read alike with values that agree on the variables in it. -/
theorem readIn_congr (l : Literal) (τ : TypeRef) :
    (∀ x ∈ l.references, value? x = value?' x) →
      l.readIn ⟨S, value?, default?⟩ τ = l.readIn ⟨S, value?', default?⟩ τ := by
  induction l, τ using indAt S with
  | null τ => exact fun _ => rfl
  | reference x τ =>
      intro h
      have hx : value? x = value?' x := h x (List.mem_singleton_self x)
      simp only [readIn, hx]
  | list items item a ih =>
      intro h
      rw [readIn_list, readIn_list]
      congr 1
      apply mapM_congr
      intro l hl
      have hitem : ∀ x ∈ l.references, value? x = value?' x :=
        fun x hx => h x (mem_references_of_item hl hx)
      rw [readItem, readItem, isUnbound_congr hitem, ih l hl hitem]
  | object fields τ declared hf ih =>
      intro h
      rw [readIn_object _ _ hf, readIn_object _ _ hf]
      congr 1
      apply InputSpec.collect_congr
      intro n spec _
      rw [received, received, given?_congr h]
      cases hg : given? value?' fields n with
      | none => rfl
      | some l =>
          have hl : (n, l) ∈ fields := mem_of_given? hg
          have hread := ih n l spec.type hl fun x hx => h x (mem_references_of_field hl hx)
          exact congrArg (Option.map some) hread
  | named l τ hname =>
      intro h
      rw [readIn_of_readsByName _ hname, readIn_of_readsByName _ hname, readNamed_congr h]

end Reading

variable {S : Schema} {vars vars' : Option Bindings}

private theorem read_congr {l : Literal} (h : AgreeOn l.references vars vars') (τ : TypeRef) :
    l.read S vars τ = l.read S vars' τ :=
  readIn_congr l τ h

/-- A literal without variables is read as without any in scope. -/
theorem read_of_closed {l : Literal} (h : l.references = []) (vars : Option Bindings)
    (τ : TypeRef) : l.read S vars τ = l.read S none τ := by
  apply read_congr
  intro x hx
  rw [h] at hx
  cases hx

/-- What a field that is left out receives is its default as read without variables. -/
theorem received_default (hS : S.DefaultsAcyclic) {name n : String} {declared : Table InputSpec}
    {spec : InputSpec} {d : Literal} {fields : List (String × Literal)}
    (hf : S.inputFields? name = some declared) (hn : declared.get? n = some spec)
    (hd : spec.default? = some d) (hg : given? (S.scope vars).value? fields n = none) :
    received (S.scope vars) fields n spec = (d.read S none spec.type).map some := by
  have hdefault : (S.scope vars).default? spec = d.read S none spec.type := by
    rw [← Option.bind_some d fun d => d.read S none spec.type, ← hd]
    exact hS.default?_eq hf hn
  rw [received, hg, Option.map_none, Scope.receive, Scope.absent?, hd, hdefault]

/-- An object is refused where the default of a field that it leaves out is, and has the value of
that default otherwise. -/
private theorem read_object_of_absent (hS : S.DefaultsAcyclic) {n : String}
    {declared : Table InputSpec} {spec : InputSpec} {d : Literal} {fields : List (String × Literal)}
    {τ : TypeRef} (hf : S.inputFields? τ.base = some declared) (hn : declared.get? n = some spec)
    (hd : spec.default? = some d) (hg : given? (S.scope vars).value? fields n = none) {v : Value}
    (hv : (object fields).read S vars τ = some v) :
    ∃ w entries, d.read S none spec.type = some w ∧ v = τ.wrap (.object entries) ∧
      entries.lookup n = some w := by
  have hmem : (n, spec) ∈ declared.entries := Table.get?_eq_some_iff.1 hn
  rw [read, readIn_object (S.scope vars) fields hf, Option.map_eq_some_iff] at hv
  obtain ⟨entries, hentries, rfl⟩ := hv
  obtain ⟨hall, rfl⟩ := InputSpec.collect_eq_some_iff.1 hentries
  have hreceived := received_default hS hf hn hd hg
  cases hw : d.read S none spec.type with
  | none =>
      rw [hw] at hreceived
      exact absurd hreceived (hall _ hmem)
  | some w =>
      refine ⟨w, _, rfl, rfl, ?_⟩
      rw [Entries.lookup_gather declared.distinct hmem, hreceived, hw]
      rfl

end Literal

namespace Parameter

variable {S : Schema} {vars vars' : Option Bindings} {call : Call}

/-- A parameter receives the same, or is refused for the same fault, with variables that agree on
those of the value that is supplied for it. -/
private theorem bind_congr (p : Parameter)
    (h : ∀ l, call.value? p.name = some l → AgreeOn l.item.references vars vars') :
    p.bind S .standard vars call = p.bind S .standard vars' call := by
  rw [bind, bind]
  cases hl : call.value? p.name with
  | none => rfl
  | some given =>
      obtain ⟨l, location⟩ := given
      have hagree : AgreeOn l.references vars vars' := h _ hl
      have hread : Primitives.standard.literal S vars p.type l =
          Primitives.standard.literal S vars' p.type l := Literal.read_congr hagree p.type
      -- a variable is looked up and not read, and null is not read either
      cases l with
      | reference x =>
          have hx := hagree x (List.mem_singleton_self x)
          simp only [hx]
      | null => rfl
      | _ => simp only [hread]

end Parameter

namespace Signature

variable {S : Schema} {primitives : Primitives} {vars vars' : Option Bindings} {call call' : Call}

/-- What parameters are bound to, or refused for, depends on each of them alone. -/
theorem bindAfter_congr {ps : List Parameter}
    (h : ∀ p ∈ ps, p.bind S primitives vars call = p.bind S primitives vars' call')
    (bound : Bindings) :
    bindAfter S primitives vars call ps bound = bindAfter S primitives vars' call' ps bound := by
  induction ps generalizing bound with
  | nil => rfl
  | cons p ps ih =>
      rw [List.forall_mem_cons] at h
      rw [bindAfter, bindAfter, h.1]
      cases p.bind S primitives vars' call' with
      | error f => rfl
      | ok entry => cases entry <;> exact ih h.2 _

/-- The variables agree on those in the values that count: of each name that the signature declares
the first one. -/
def Agree (s : Signature) (call : Call) (vars vars' : Option Bindings) : Prop :=
  ∀ p ∈ s.parameters, ∀ l, call.value? p.name = some l → AgreeOn l.item.references vars vars'

private theorem bind_congr {s : Signature} (h : s.Agree call vars vars') :
    s.bind S .standard call vars = s.bind S .standard call vars' :=
  bindAfter_congr (fun p hp => p.bind_congr (h p hp)) .empty

private theorem bindApplied_congr {s : Signature} {applications : List Application}
    (h : ∀ call, s.applied? applications = some call → s.Agree call vars vars') :
    s.bindApplied S .standard applications vars = s.bindApplied S .standard applications vars' := by
  rw [bindApplied, bindApplied]
  cases hcall : s.applied? applications with
  | none => rfl
  | some call => exact congrArg (Except.map some) (bind_congr (h call hcall))

end Signature

namespace Sample

def draftFields : List (String × Literal) :=
  [("start", .reference "p"), ("legs", .list [.object [("legs", .reference "q")]])]

/-- A trip whose start and the legs of whose one leg are variables. -/
def draft : Literal :=
  .object draftFields

def drafted : Value :=
  .object [("start", harbour), ("legs", .list [.object [("start", harbour), ("legs", .list [])]])]

def early : Bindings :=
  ⟨[("q", .list []), ("r", .int one)], by decide⟩

def late : Bindings :=
  ⟨[("r", .object []), ("A", .null), ("q", .list [])], by decide⟩

private theorem agreeOn_draft : AgreeOn draft.references (some early) (some late) := by
  simp only [draft, draftFields, Literal.references, Literal.fieldReferences,
    Literal.itemReferences, List.append_nil, List.cons_append, List.nil_append, AgreeOn, List.forall_mem_cons]
  exact ⟨rfl, rfl, fun _ hx => absurd hx List.not_mem_nil⟩

def planner : Signature :=
  ⟨"plan", [⟨"trip", .named "Trip" true, none⟩]⟩

/-- A directive given a trip twice, of which the second does not count, and another directive. -/
def plans : List Application :=
  [⟨"plot", ⟨[⟨"trip", ⟨.reference "r", none⟩⟩], none⟩⟩,
   ⟨"plan", ⟨[⟨"trip", ⟨draft, some 1⟩⟩, ⟨"trip", ⟨.reference "r", none⟩⟩], some 2⟩⟩]

private theorem agree_plans : ∀ call, planner.applied? plans = some call →
    planner.Agree call (some early) (some late) := by
  intro call hcall p hp l hl
  cases hcall
  cases List.mem_singleton.1 hp
  cases hl
  exact agreeOn_draft

end Sample

namespace Schema

variable {S : Schema}

/-- Only the variables in a literal have a part in what it is read as, and none at all in the
defaults of the fields that it leaves out. Only those in the values that count have a part in how a
call is bound, or refused. -/
theorem outcomes_eq_of_agreeOn (hS : S.DefaultsAcyclic) :
    (∀ (l : Literal) (τ : TypeRef) (vars vars' : Option Bindings),
      AgreeOn l.references vars vars' → l.read S vars τ = l.read S vars' τ) ∧
    (∀ (l : Literal) (τ : TypeRef) (vars : Option Bindings),
      l.references = [] → l.read S vars τ = l.read S none τ) ∧
    (∀ (fields : List (String × Literal)) (τ : TypeRef) (vars : Option Bindings)
      (declared : Table InputSpec) (n : String) (spec : InputSpec) (d : Literal) (v : Value),
      S.inputFields? τ.base = some declared → declared.get? n = some spec →
      spec.default? = some d → Literal.given? (S.scope vars).value? fields n = none →
      (Literal.object fields).read S vars τ = some v →
      ∃ w entries, d.read S none spec.type = some w ∧ v = τ.wrap (.object entries) ∧
        entries.lookup n = some w) ∧
    (∀ (s : Signature) (call : Call) (vars vars' : Option Bindings), s.Agree call vars vars' →
      s.bind S .standard call vars = s.bind S .standard call vars') ∧
    ∀ (s : Signature) (applications : List Application) (vars vars' : Option Bindings),
      (∀ call, s.applied? applications = some call → s.Agree call vars vars') →
      s.bindApplied S .standard applications vars =
        s.bindApplied S .standard applications vars' := by
  refine ⟨?_, ?_, ?_, ?_, ?_⟩
  · exact fun l τ vars vars' h => Literal.read_congr h τ
  · exact fun l τ vars h => Literal.read_of_closed h vars τ
  · exact fun fields τ vars declared n spec d v hf hn hd hg hv =>
      Literal.read_object_of_absent hS hf hn hd hg hv
  · exact fun s call vars vars' h => Signature.bind_congr h
  · exact fun s applications vars vars' h => Signature.bindApplied_congr h

theorem outcomes_eq_of_agreeOn_sample :
    Sample.voyages.DefaultsAcyclic ∧
      AgreeOn Sample.draft.references (some Sample.early) (some Sample.late) ∧
      Sample.draft.read Sample.voyages (some Sample.early) (.named "Trip" true) =
        some Sample.drafted ∧
      Sample.draft.read Sample.voyages (some Sample.early) (.named "Trip" true) =
        Sample.draft.read Sample.voyages (some Sample.late) (.named "Trip" true) ∧
      (∃ w entries,
        (Literal.object [("id", .string "A")]).read Sample.voyages none (.named "Place" true) =
          some w ∧
        Sample.drafted = .object entries ∧ entries.lookup "start" = some w) ∧
      Sample.planner.bindApplied Sample.voyages .standard Sample.plans (some Sample.early) =
        Sample.planner.bindApplied Sample.voyages .standard Sample.plans (some Sample.late) :=
  have hS := Sample.defaultsAcyclic_voyages
  have heq := outcomes_eq_of_agreeOn hS
  ⟨hS, Sample.agreeOn_draft, rfl, heq.1 _ _ _ _ Sample.agreeOn_draft,
    heq.2.2.1 Sample.draftFields (.named "Trip" true) (some Sample.early) _ "start" _ _ _
      rfl rfl rfl rfl rfl,
    heq.2.2.2.2 _ _ _ _ Sample.agree_plans⟩

end Schema

end GraphQLInput
