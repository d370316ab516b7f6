import GraphQLInput.Proofs.Calls
import GraphQLInput.Proofs.Conformance.Signature
import GraphQLInput.Proofs.Inlining.Read
import GraphQLInput.Proofs.Relaxation
/-!
# Variables and the literals that they stand for

A variable whose value comes from its default can be replaced by that default, wherever a type is
declared that its own suits. The value of the variable is taken as it is and the literal is read at
the place, so that the two agree because reading where less is asked for gives the same value.
-/
namespace GraphQLInput

namespace Call

/-- The call with literals in the place of some variables. -/
def inline (f : String → Option Literal) (call : Call) : Call :=
  { call with arguments := call.arguments.map fun a =>
      { a with value := { a.value with item := a.value.item.inline f } } }

private theorem value?_inline (f : String → Option Literal) (call : Call) (name : String) :
    (call.inline f).value? name =
      (call.value? name).map fun l => { l with item := l.item.inline f } := by
  rw [value?, value?, inline, List.find?_map, Option.map_map, Option.map_map]
  rfl

private theorem given?_inline {vars : Option Bindings} {f : String → Option Literal}
    (h : Inlines vars f) (S : Schema) (call : Call) (name : String) :
    (call.inline f).given? none name = (call.given? vars name).map (Literal.inline f) := by
  rw [given?, given?, value?_inline]
  cases call.value? name with
  | none => rfl
  | some l =>
      have hunbound : (l.item.inline f).isUnbound (fun x => (none : Option Bindings).bind (·.get? x)) =
          l.item.isUnbound fun x => vars.bind (·.get? x) := Literal.isUnbound_inline (S := S) h l.item
      rw [Option.map_some, Option.map_some, Option.map_some, Option.filter_some, Option.filter_some,
        hunbound]
      split <;> rfl

end Call

namespace Request

/-- The default literals of declared variables. -/
def defaults (ds : List VariableDecl) (x : String) : Option Literal :=
  (ds.find? (·.name = x)).bind fun d => d.default?.map Located.item

variable {S : Schema} {settings : Settings} {ds : List VariableDecl} {vars : Bindings}

private theorem defaults_of_mem (hd : (ds.map VariableDecl.name).Nodup) {d : VariableDecl}
    (hm : d ∈ ds) :
    defaults ds d.name = d.default?.map Located.item := by
  have hfind : ds.find? (·.name = d.name) = some d := by
    cases h : ds.find? (·.name = d.name) with
    | none => simpa using List.find?_eq_none.1 h d hm
    | some e =>
        have hname : e.name = d.name := by simpa using List.find?_some h
        rw [List.inj_on_of_nodup_map hd (List.mem_of_find?_eq_some h) hm hname]
  rw [defaults, hfind, Option.bind_some]

private theorem defaults_eq_none {x : String} (h : x ∉ ds.map VariableDecl.name) :
    defaults ds x = none := by
  have hfind : ds.find? (·.name = x) = none := by
    rw [List.find?_eq_none]
    intro d hm hname
    exact h (List.mem_map.2 ⟨d, hm, by simpa using hname⟩)
  rw [defaults, hfind, Option.bind_none]

private theorem get?_eq_none_of_bind {given : Bindings} (hd : (ds.map VariableDecl.name).Nodup)
    (h : bind S .standard settings ds given = .ok vars) {x : String}
    (hx : x ∉ ds.map VariableDecl.name) : vars.get? x = none := by
  rw [Table.get?_eq_none_iff, Table.keys, ((bind_eq_ok_iff hd).1 h).2]
  exact fun hm => hx ((Entries.keys_gather_sublist ds).subset hm)

/-- Where nothing is given, a variable has the value of its default. -/
private theorem get?_of_bind_empty (hd : (ds.map VariableDecl.name).Nodup)
    (h : bind S .standard settings ds .empty = .ok vars) {d : VariableDecl} (hm : d ∈ ds)
    {l : Located Literal} (hl : d.default? = some l) :
    ∃ w, vars.get? d.name = some w ∧ l.item.read S none d.type.item = some w := by
  rw [get?_of_bind hd h hm]
  have hbinds := (VariableDecl.binds_of_faultless (((bind_eq_ok_iff hd).1 h).1 d hm)).2
  generalize (d.bind S .standard .empty).entry = entry at hbinds
  cases hbinds with
  | @default l' w _ hl' hw =>
      cases hl.symm.trans hl'
      exact ⟨w, rfl, hw⟩
  | unset _ hl' _ => cases hl.symm.trans hl'
  | null hg _ => cases hg
  | value hg _ _ => cases hg

private theorem inlines_of_bind (hd : (ds.map VariableDecl.name).Nodup)
    (hclosed : ∀ d ∈ ds, ∃ l, d.default? = some l ∧ l.item.references = [])
    (h : bind S .standard settings ds .empty = .ok vars) : Inlines (some vars) (defaults ds) where
  closed x l hx := by
    by_cases hname : x ∈ ds.map VariableDecl.name
    · obtain ⟨d, hm, rfl⟩ := List.mem_map.1 hname
      obtain ⟨l', hl, hreferences⟩ := hclosed d hm
      rw [defaults_of_mem hd hm, hl] at hx
      cases hx
      cases hl' : l'.item with
      | reference x => simp [hl', Literal.references] at hreferences
      | _ => rfl
    · rw [defaults_eq_none hname] at hx
      cases hx
  bound x := by
    by_cases hname : x ∈ ds.map VariableDecl.name
    · obtain ⟨d, hm, rfl⟩ := List.mem_map.1 hname
      obtain ⟨l, hl, -⟩ := hclosed d hm
      obtain ⟨w, hw, -⟩ := get?_of_bind_empty hd h hm hl
      rw [defaults_of_mem hd hm, hl, Option.bind_some, hw]
      rfl
    · rw [defaults_eq_none hname, Option.bind_some, get?_eq_none_of_bind hd h hname]
      rfl

/-- A variable has the value that its default has at every place that its type suits. -/
private theorem read_default (hd : (ds.map VariableDecl.name).Nodup)
    (h : bind S .standard settings ds .empty = .ok vars) {d : VariableDecl} (hm : d ∈ ds)
    {l : Located Literal} (hl : d.default? = some l) {place : TypeRef}
    (hs : d.type.item.suits place = true) :
    l.item.read S none place = (Literal.reference d.name).read S (some vars) place := by
  obtain ⟨w, hw, hread⟩ := get?_of_bind_empty hd h hm hl
  -- the value may be null only where the declared type allows it, and then the place does too
  have hnull : (w.isNull && place.isNonNull) = false := by
    cases hn : place.isNonNull with
    | false => exact Bool.and_false _
    | true =>
        have hne : w ≠ .null := ((Literal.conforms_read_none hread).of_suits hs).ne_null hn
        rw [Bool.and_true, Bool.eq_false_iff]
        exact mt Value.isNull_iff.1 hne
  have hvalue : (S.scope (some vars)).value? d.name = some w := hw
  rw [Literal.read, Literal.readIn_of_suits _ _ place w hs hread, Literal.read, Literal.readIn,
    hvalue, Option.filter_some, hnull]
  rfl

private theorem read_inline_reference (hd : (ds.map VariableDecl.name).Nodup)
    (hclosed : ∀ d ∈ ds, ∃ l, d.default? = some l ∧ l.item.references = [])
    (h : bind S .standard settings ds .empty = .ok vars) {l : Literal} {τ : TypeRef}
    (hsuits : ∀ d ∈ ds, ∀ place, l.UsesAt S τ d.name place → d.type.item.suits place = true)
    (x : String) (place : TypeRef) (hx : l.UsesAt S τ x place) :
    ((Literal.reference x).inline (defaults ds)).read S none place =
      (Literal.reference x).read S (some vars) place := by
  by_cases hname : x ∈ ds.map VariableDecl.name
  · obtain ⟨d, hm, rfl⟩ := List.mem_map.1 hname
    obtain ⟨l', hl', -⟩ := hclosed d hm
    have hinline : (Literal.reference d.name).inline (defaults ds) = l'.item := by
      rw [Literal.inline, defaults_of_mem hd hm, hl']
      rfl
    rw [hinline, read_default hd h hm hl' (hsuits d hm place hx)]
  · have hvalue : (S.scope (some vars)).value? x = none := get?_eq_none_of_bind hd h hname
    rw [Literal.inline, defaults_eq_none hname, Option.getD_none, Literal.read, Literal.read,
      Literal.readIn, Literal.readIn, hvalue]
    rfl

private theorem defaults_eq_none_of_unburied {l : Literal} {τ : TypeRef}
    (hburied : ∀ d ∈ ds, ¬ l.Buries S τ d.name) (x : String) (hx : l.Buries S τ x) :
    defaults ds x = none := by
  apply defaults_eq_none
  intro hname
  obtain ⟨d, hm, rfl⟩ := List.mem_map.1 hname
  exact hburied d hm hx

end Request

namespace Signature

variable {S : Schema} {settings : Settings} {ds : List VariableDecl} {vars : Bindings}
  {s : Signature} {call : Call}

/-- A call binds the same arguments when the variables in it are replaced by the literals that
their values come from, provided that every variable stands where a type is declared that its own
suits. Variables that are not declared have no value either way. -/
theorem bind_inline (hd : (ds.map VariableDecl.name).Nodup)
    (hclosed : ∀ d ∈ ds, ∃ l, d.default? = some l ∧ l.item.references = [])
    (hvars : Request.bind S .standard settings ds .empty = .ok vars)
    (hsuits : ∀ p ∈ s.parameters, ∀ l, call.value? p.name = some l → ∀ d ∈ ds, ∀ place,
      l.item.UsesAt S p.type d.name place → d.type.item.suits place = true)
    (hburied : ∀ p ∈ s.parameters, ∀ l, call.value? p.name = some l → ∀ d ∈ ds,
      ¬ l.item.Buries S p.type d.name)
    (bound : Bindings) :
    s.bind S .standard call (some vars) = .ok bound ↔
      s.bind S .standard (call.inline (Request.defaults ds)) none = .ok bound := by
  have hinlines := Request.inlines_of_bind hd hclosed hvars
  have hparameter : ∀ p ∈ s.parameters, (p.bind S .standard (some vars) call).toOption =
      (p.bind S .standard none (call.inline (Request.defaults ds))).toOption := by
    intro p hp
    rw [p.toOption_bind, p.toOption_bind, Call.given?_inline hinlines S]
    cases hg : call.given? (some vars) p.name with
    | none => rfl
    | some l =>
        obtain ⟨location, hl⟩ := Call.value?_of_given? hg
        refine congrArg (Option.map some) (Literal.read_inline hinlines l p.type ?_ ?_).symm
        · exact Request.read_inline_reference hd hclosed hvars (hsuits p hp _ hl)
        · exact Request.defaults_eq_none_of_unburied (hburied p hp _ hl)
  rw [← toOption_eq_some_iff, ← toOption_eq_some_iff, bind, bind,
    toOption_bindAfter_congr hparameter]

end Signature

namespace Sample

def preset : List VariableDecl :=
  [⟨"p", ⟨.list (.named "Place" true) true, none⟩, some ⟨.object [("id", .int "7")], none⟩, none⟩,
   ⟨"u", ⟨.named "Unit" false, none⟩, some ⟨.null, none⟩, none⟩,
   ⟨"n", ⟨.named "Any" true, none⟩, some ⟨.list [.int "7", .string "KM"], none⟩, none⟩]

def near : Value :=
  .list [.object [("id", .string "7"), ("size", .int one), ("unit", .string "KM")]]

def presetBound : Bindings :=
  ⟨[("p", near), ("u", .null), ("n", .list [.int seven, .string "KM"])], by decide⟩

def find : Signature :=
  Signature.ofSpecs schema .standard "find" specs

def tour : Call :=
  ⟨[⟨"place", ⟨.object [("near", .reference "p"), ("unit", .reference "u"), ("id", .int "5")],
      none⟩⟩,
    ⟨"note", ⟨.reference "n", none⟩⟩], none⟩

def toured : Bindings :=
  ⟨[("place", .object [("id", .string "5"), ("size", .int one), ("unit", .null), ("near", near)]),
    ("unit", .string "KM"), ("note", .list [.int seven, .string "KM"])], by decide⟩

def tourUses : List (String × TypeRef) :=
  [("p", .list (.named "Place" true) false), ("u", .named "Unit" false), ("n", .named "Any" false)]

private theorem mem_tourUses {p : Parameter} (hp : p ∈ find.parameters) {l : Located Literal}
    (hl : tour.value? p.name = some l) {x : String} {place : TypeRef}
    (hx : l.item.UsesAt schema p.type x place) : (x, place) ∈ tourUses := by
  simp only [find, Signature.ofSpecs, specs, List.map_cons, List.map_nil, List.mem_cons,
    List.not_mem_nil, or_false] at hp
  rcases hp with rfl | rfl | rfl
  · cases hl
    cases hx with
    | field hf hm hn hx =>
        cases hf
        simp only [List.mem_cons, List.not_mem_nil, or_false, Prod.mk.injEq] at hm
        rcases hm with ⟨rfl, rfl⟩ | ⟨rfl, rfl⟩ | ⟨rfl, rfl⟩ <;> cases hn <;> cases hx <;> decide
  · cases hl
  · cases hl
    cases hx
    decide

private theorem not_buries_tour {p : Parameter} (hp : p ∈ find.parameters) {l : Located Literal}
    (hl : tour.value? p.name = some l) (x : String) : ¬ l.item.Buries schema p.type x := by
  intro hx
  simp only [find, Signature.ofSpecs, specs, List.map_cons, List.map_nil, List.mem_cons,
    List.not_mem_nil, or_false] at hp
  rcases hp with rfl | rfl | rfl
  · cases hl
    cases hx with
    | here _ ht => cases ht
    | field hf hm hn hx =>
        cases hf
        simp only [List.mem_cons, List.not_mem_nil, or_false, Prod.mk.injEq] at hm
        rcases hm with ⟨rfl, rfl⟩ | ⟨rfl, rfl⟩ | ⟨rfl, rfl⟩ <;> cases hn
        · cases hx with
          | here hname => cases hname
        · cases hx with
          | here hname => cases hname
        · cases hx with
          | here _ _ _ hx => cases hx
  · cases hl
  · cases hl
    cases hx with
    | here hname => cases hname

end Sample

theorem Signature.bind_inline_sample :
    Request.bind Sample.schema .standard .default Sample.preset .empty = .ok Sample.presetBound ∧
      Sample.find.bind Sample.schema .standard Sample.tour (some Sample.presetBound) =
        .ok Sample.toured ∧
      Sample.find.bind Sample.schema .standard
        (Sample.tour.inline (Request.defaults Sample.preset)) none = .ok Sample.toured := by
  have hclosed : ∀ d ∈ Sample.preset, ∃ l, d.default? = some l ∧ l.item.references = [] := by
    intro d hm
    simp only [Sample.preset, List.mem_cons, List.not_mem_nil, or_false] at hm
    rcases hm with rfl | rfl | rfl <;> exact ⟨_, rfl, rfl⟩
  have hsuits : ∀ d ∈ Sample.preset, ∀ e ∈ Sample.tourUses, d.name = e.1 →
      d.type.item.suits e.2 = true := by decide
  have hvars : Request.bind Sample.schema .standard .default Sample.preset .empty =
      .ok Sample.presetBound := rfl
  have h : Sample.find.bind Sample.schema .standard Sample.tour (some Sample.presetBound) =
      .ok Sample.toured := rfl
  refine ⟨hvars, h, (Signature.bind_inline (by decide) hclosed hvars ?_ ?_ _).1 h⟩
  · intro p hp l hl d hm place hx
    exact hsuits d hm (d.name, place) (Sample.mem_tourUses hp hl hx) rfl
  · intro p hp l hl d _
    exact Sample.not_buries_tour hp hl d.name

end GraphQLInput
