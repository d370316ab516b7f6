import GraphQLInput.Table
import Mathlib.Data.List.Nodup
/-!
# Entries gathered in order

Declarations receive their values one after the other, and some receive none. What results keeps
the order of the declarations, and looking a name up in it is asking its declaration.
-/
namespace GraphQLInput

variable {α β : Type}

namespace Entries

theorem mem_of_lookup {name : String} {b : β} {es : List (String × β)}
    (h : es.lookup name = some b) : (name, b) ∈ es := by
  obtain ⟨front, back, rfl, _⟩ := List.lookup_eq_some_iff.1 h
  simp

theorem lookup_eq_none_iff {name : String} {es : List (String × β)} :
    es.lookup name = none ↔ name ∉ es.map Prod.fst := by
  rw [List.lookup_eq_none_iff]
  constructor
  · intro h hm
    obtain ⟨e, he, rfl⟩ := List.mem_map.1 hm
    simpa using h e he
  · intro h e he
    have hne : name ≠ e.1 := fun heq => h (heq ▸ List.mem_map_of_mem he)
    simpa using hne

theorem lookup_map (g : α → β) (es : List (String × α)) (name : String) :
    (es.map fun e => (e.1, g e.2)).lookup name = (es.lookup name).map g := by
  induction es with
  | nil => rfl
  | cons e es ih =>
      obtain ⟨n, a⟩ := e
      rw [List.map_cons, lookup_cons, lookup_cons, ih]
      split <;> rfl

theorem lookup_of_mem {name : String} {b : β} {es : List (String × β)}
    (hd : (es.map Prod.fst).Nodup) (h : (name, b) ∈ es) : es.lookup name = some b := by
  induction es with
  | nil => cases h
  | cons e es ih =>
      obtain ⟨n, c⟩ := e
      rw [List.map_cons, List.nodup_cons] at hd
      rw [lookup_cons]
      rcases List.mem_cons.1 h with h | h
      · cases h
        rw [if_pos rfl]
      · have hne : name ≠ n := fun heq => hd.1 (List.mem_map.2 ⟨(name, b), h, heq⟩)
        rw [if_neg hne]
        exact ih hd.2 h

/-- An entry does not show under another name. -/
theorem lookup_append_cons_of_ne {n name : String} (h : name ≠ n) (b : β)
    (before after : List (String × β)) :
    (before ++ (n, b) :: after).lookup name = (before ++ after).lookup name := by
  rw [List.lookup_append, List.lookup_append, lookup_cons, if_neg h]

theorem lookup_append_cons_self {name : String} {before : List (String × β)}
    (h : name ∉ before.map Prod.fst) (b : β) (after : List (String × β)) :
    (before ++ (name, b) :: after).lookup name = some b := by
  rw [List.lookup_append, lookup_eq_none_iff.2 h, lookup_cons, if_pos rfl, Option.none_or]

theorem lookup_filter (p : String × β → Bool) {es : List (String × β)}
    (hd : (es.map Prod.fst).Nodup) (name : String) :
    (es.filter p).lookup name = (es.lookup name).filter fun b => p (name, b) := by
  induction es with
  | nil => rfl
  | cons e es ih =>
      obtain ⟨n, c⟩ := e
      rw [List.map_cons, List.nodup_cons] at hd
      rw [List.filter_cons, lookup_cons]
      by_cases hn : name = n
      · subst hn
        have habsent : es.lookup name = none := lookup_eq_none_iff.2 hd.1
        rw [if_pos rfl, Option.filter_some]
        split
        · rw [lookup_cons, if_pos rfl]
        · rw [ih hd.2, habsent, Option.filter_none]
      · rw [if_neg hn]
        split
        · rw [lookup_cons, if_neg hn, ih hd.2]
        · exact ih hd.2

/-- A name that is kept is looked up alike among the names that are kept. -/
theorem lookup_filter_name {keep : String → Bool} {name : String} (h : keep name = true)
    (es : List (String × β)) : (es.filter fun e => keep e.1).lookup name = es.lookup name := by
  induction es with
  | nil => rfl
  | cons e es ih =>
      obtain ⟨n, b⟩ := e
      rw [List.filter_cons, lookup_cons]
      by_cases hn : name = n
      · subst hn
        rw [if_pos h, lookup_cons, if_pos rfl, if_pos rfl]
      · rw [if_neg hn]
        split
        · rw [lookup_cons, if_neg hn, ih]
        · exact ih

/-- Entries of distinct names are looked up alike in any order. -/
theorem lookup_eq_of_perm {es fs : List (String × β)} (h : es.Perm fs)
    (hd : (es.map Prod.fst).Nodup) (name : String) : es.lookup name = fs.lookup name := by
  have hd' : (fs.map Prod.fst).Nodup := (h.map Prod.fst).nodup_iff.1 hd
  cases hl : es.lookup name with
  | none =>
      rw [lookup_eq_none_iff, (h.map Prod.fst).mem_iff] at hl
      exact (lookup_eq_none_iff.2 hl).symm
  | some b => exact (lookup_of_mem hd' (h.mem_iff.1 (mem_of_lookup hl))).symm

/-- The first entry of each name. -/
def firsts : List (String × β) → List (String × β)
  | [] => []
  | (n, b) :: es => (n, b) :: (firsts es).filter fun e => e.1 ≠ n

theorem nodup_firsts (es : List (String × β)) : ((firsts es).map Prod.fst).Nodup := by
  induction es with
  | nil => exact List.nodup_nil
  | cons e es ih =>
      obtain ⟨n, b⟩ := e
      rw [firsts, List.map_cons, List.nodup_cons]
      refine ⟨?_, ih.sublist (List.filter_sublist.map Prod.fst)⟩
      intro hm
      obtain ⟨f, hf, hn⟩ := List.mem_map.1 hm
      exact absurd hn (by simpa using (List.mem_filter.1 hf).2)

theorem lookup_firsts (es : List (String × β)) (name : String) :
    (firsts es).lookup name = es.lookup name := by
  induction es with
  | nil => rfl
  | cons e es ih =>
      obtain ⟨n, b⟩ := e
      rw [firsts, lookup_cons, lookup_cons]
      by_cases hn : name = n
      · rw [if_pos hn, if_pos hn]
      · rw [if_neg hn, if_neg hn, lookup_filter _ (nodup_firsts es), ih]
        cases es.lookup name <;> simp [hn]

/-- A name that does not stand in front is given its value behind. -/
theorem insert_append_of_notMem {name : String} {b : β} {front es : List (String × β)}
    (h : name ∉ front.map Prod.fst) : insert name b (front ++ es) = front ++ insert name b es := by
  induction front with
  | nil => rfl
  | cons e front ih =>
      obtain ⟨n, c⟩ := e
      rw [List.map_cons, List.mem_cons, not_or] at h
      rw [List.cons_append, insert, if_neg (Ne.symm h.1), ih h.2, List.cons_append]

theorem insert_of_notMem {name : String} {b : β} {es : List (String × β)}
    (h : name ∉ es.map Prod.fst) : insert name b es = es ++ [(name, b)] := by
  rw [← List.append_nil es, insert_append_of_notMem h, insert, List.append_nil]

theorem merge_of_nodup {es : List (String × β)} (h : (es.map Prod.fst).Nodup) : merge es = es := by
  suffices hs : ∀ merged : List (String × β), ((merged ++ es).map Prod.fst).Nodup →
      es.foldl (fun merged e => insert e.1 e.2 merged) merged = merged ++ es from hs [] h
  clear h
  induction es with
  | nil => exact fun merged _ => (List.append_nil merged).symm
  | cons e es ih =>
      intro merged h
      have hnew : e.1 ∉ merged.map Prod.fst := by
        rw [List.map_append, List.nodup_append] at h
        exact fun hm => h.2.2 e.1 hm e.1 List.mem_cons_self rfl
      rw [List.foldl_cons, insert_of_notMem hnew, ih _ (by rwa [List.append_assoc]),
        List.append_assoc, List.singleton_append]

/-- The values that the members of a list come to, under their names. -/
def gather (name : α → String) (value? : α → Option β) (xs : List α) : List (String × β) :=
  xs.filterMap fun x => (value? x).map (name x, ·)

variable {name : α → String} {value? : α → Option β}

theorem gather_cons (x : α) (xs : List α) :
    gather name value? (x :: xs) =
      ((value? x).map (name x, ·)).toList ++ gather name value? xs := by
  simp only [gather, List.filterMap_cons]
  cases value? x <;> rfl

theorem keys_gather_sublist (xs : List α) :
    ((gather name value? xs).map Prod.fst).Sublist (xs.map name) := by
  induction xs with
  | nil => exact .slnil
  | cons x xs ih =>
      rw [gather_cons, List.map_cons]
      cases value? x with
      | none => exact ih.cons _
      | some b => exact ih.cons_cons _

theorem mem_gather {n : String} {b : β} {xs : List α} :
    (n, b) ∈ gather name value? xs ↔ ∃ x ∈ xs, name x = n ∧ value? x = some b := by
  simp only [gather, List.mem_filterMap, Option.map_eq_some_iff, Prod.mk.injEq]
  constructor
  · rintro ⟨x, hx, _, hv, hn, rfl⟩
    exact ⟨x, hx, hn, hv⟩
  · rintro ⟨x, hx, hn, hv⟩
    exact ⟨x, hx, b, hv, hn, rfl⟩

theorem lookup_gather {x : α} {xs : List α} (hd : (xs.map name).Nodup) (hx : x ∈ xs) :
    (gather name value? xs).lookup (name x) = value? x := by
  cases hv : value? x with
  | some b =>
      exact lookup_of_mem (hd.sublist (keys_gather_sublist xs)) (mem_gather.2 ⟨x, hx, rfl, hv⟩)
  | none =>
      rw [lookup_eq_none_iff]
      intro hm
      obtain ⟨⟨n, b⟩, he, hn⟩ := List.mem_map.1 hm
      obtain ⟨y, hy, hname, hb⟩ := mem_gather.1 he
      have hxy : y = x := List.inj_on_of_nodup_map hd hy hx (hname.trans hn)
      rw [hxy, hv] at hb
      cases hb

theorem gather_congr {value?' : α → Option β} {xs : List α}
    (h : ∀ x ∈ xs, value? x = value?' x) : gather name value? xs = gather name value?' xs :=
  List.filterMap_congr fun x hx => by rw [h x hx]

/-- Entries in the order of some declarations are gathered by looking the declared names up. -/
theorem gather_lookup {es : List (String × β)} {xs : List α} (hd : (xs.map name).Nodup)
    (hs : (es.map Prod.fst).Sublist (xs.map name)) :
    gather name (fun x => es.lookup (name x)) xs = es := by
  induction xs generalizing es with
  | nil =>
      rw [List.map_nil, List.sublist_nil, List.map_eq_nil_iff] at hs
      subst hs
      rfl
  | cons x xs ih =>
      rw [List.map_cons, List.nodup_cons] at hd
      rw [List.map_cons] at hs
      rw [gather_cons]
      rcases List.sublist_cons_iff.1 hs with hs | ⟨keys, hk, hs⟩
      · have hx : es.lookup (name x) = none :=
          lookup_eq_none_iff.2 fun hm => hd.1 (hs.subset hm)
        rw [hx, ih hd.2 hs]
        rfl
      · obtain ⟨⟨n, b⟩, rest, rfl, hn, rfl⟩ := List.map_eq_cons_iff.1 hk
        have hrest : gather name (fun y => ((n, b) :: rest).lookup (name y)) xs =
            gather name (fun y => rest.lookup (name y)) xs := by
          apply gather_congr
          intro y hy
          have hne : name y ≠ n := fun heq => hd.1 (hn ▸ heq ▸ List.mem_map_of_mem hy)
          rw [lookup_cons, if_neg hne]
        rw [hrest, ih hd.2 hs, lookup_cons, if_pos hn.symm, ← hn]
        rfl

end Entries

namespace Table

theorem ext {t u : Table α} (h : t.entries = u.entries) : t = u := by
  cases t
  cases u
  cases h
  rfl

theorem get?_eq_some_iff {t : Table α} {name : String} {a : α} :
    t.get? name = some a ↔ (name, a) ∈ t.entries :=
  ⟨Entries.mem_of_lookup, Entries.lookup_of_mem t.distinct⟩

theorem get?_eq_none_iff {t : Table α} {name : String} :
    t.get? name = none ↔ name ∉ t.keys :=
  Entries.lookup_eq_none_iff

theorem contains_iff {t : Table α} {name : String} : t.contains name = true ↔ name ∈ t.keys := by
  rw [contains, ← not_iff_not, Bool.not_eq_true, Option.isSome_eq_false_iff,
    Option.isNone_iff_eq_none, get?_eq_none_iff]

end Table

end GraphQLInput
