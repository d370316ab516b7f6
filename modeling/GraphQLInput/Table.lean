/-!
# Tables

Names with one value each, in the order in which the names first came. Giving a name a second
value keeps its place. The names of a table are distinct, so looking one up needs no rule for
repeats.
-/
namespace GraphQLInput

variable {α : Type}

namespace Entries

/-- Gives `name` its value: in its place when it is there, at the end otherwise. -/
def insert (name : String) (a : α) : List (String × α) → List (String × α)
  | [] => [(name, a)]
  | (n, b) :: rest => if n = name then (n, a) :: rest else (n, b) :: insert name a rest

theorem keys_insert (name : String) (a : α) (es : List (String × α)) :
    (insert name a es).map Prod.fst =
      if name ∈ es.map Prod.fst then es.map Prod.fst else es.map Prod.fst ++ [name] := by
  induction es with
  | nil => simp [insert]
  | cons e es ih =>
    obtain ⟨n, b⟩ := e
    by_cases h : n = name
    · simp [insert, h]
    · simp only [insert, h, if_false, List.map_cons, ih, List.mem_cons, Ne.symm h, false_or]
      split <;> simp

theorem lookup_cons (n name : String) (a : α) (es : List (String × α)) :
    List.lookup name ((n, a) :: es) = if name = n then some a else es.lookup name := by
  rw [List.lookup_cons]
  by_cases h : name = n
  · simp [h]
  · simp [h, beq_eq_false_iff_ne.2 h]

theorem lookup_insert (name other : String) (a : α) (es : List (String × α)) :
    (insert name a es).lookup other = if other = name then some a else es.lookup other := by
  induction es with
  | nil => rw [insert, lookup_cons]
  | cons e es ih =>
    obtain ⟨n, b⟩ := e
    by_cases h : n = name
    · subst h
      simp only [insert, if_true, lookup_cons]
      split <;> rfl
    · simp only [insert, if_neg h, lookup_cons, ih]
      by_cases ho : other = n
      · simp [ho, h]
      · simp [ho]

/-- Merges repeated names: the first place, the last value. -/
def merge (es : List (String × α)) : List (String × α) :=
  es.foldl (fun merged e => insert e.1 e.2 merged) []

end Entries

/-- Entries of distinct names. -/
structure Table (α : Type) where
  entries : List (String × α)
  distinct : (entries.map Prod.fst).Nodup

namespace Table

def empty : Table α :=
  ⟨[], List.nodup_nil⟩

def keys (t : Table α) : List String :=
  t.entries.map Prod.fst

def size (t : Table α) : Nat :=
  t.entries.length

def isEmpty (t : Table α) : Bool :=
  t.entries.isEmpty

def get? (t : Table α) (name : String) : Option α :=
  t.entries.lookup name

def contains (t : Table α) (name : String) : Bool :=
  (t.get? name).isSome

def insert (t : Table α) (name : String) (a : α) : Table α where
  entries := Entries.insert name a t.entries
  distinct := by
    rw [Entries.keys_insert]
    split
    · exact t.distinct
    · rename_i h
      exact List.nodup_append.2 ⟨t.distinct, by simp, fun x hx y hy hxy => by
        simp only [List.mem_singleton] at hy
        exact h (hy ▸ hxy ▸ hx)⟩

/-- The table that results from inserting the entries in order. -/
def ofList (es : List (String × α)) : Table α :=
  es.foldl (fun t e => t.insert e.1 e.2) empty

def erase (t : Table α) (name : String) : Table α where
  entries := t.entries.filter fun e => e.1 ≠ name
  distinct := t.distinct.sublist ((List.filter_sublist).map Prod.fst)

@[simp] theorem get?_empty (name : String) : (empty : Table α).get? name = none :=
  rfl

theorem get?_insert (t : Table α) (name other : String) (a : α) :
    (t.insert name a).get? other = if other = name then some a else t.get? other :=
  Entries.lookup_insert name other a t.entries

@[simp] theorem entries_insert (t : Table α) (name : String) (a : α) :
    (t.insert name a).entries = Entries.insert name a t.entries :=
  rfl

theorem entries_ofList (es : List (String × α)) : (ofList es).entries = Entries.merge es := by
  suffices h : ∀ t : Table α, (es.foldl (fun t e => t.insert e.1 e.2) t).entries =
      es.foldl (fun merged e => Entries.insert e.1 e.2 merged) t.entries from h empty
  induction es with
  | nil => exact fun _ => rfl
  | cons e es ih => exact fun t => ih (t.insert e.1 e.2)

end Table

end GraphQLInput
