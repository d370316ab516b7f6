import GraphQLInput.Binary64
import GraphQLInput.Table
/-!
# Runtime values

The values that a request carries and that an operation receives: JSON data in which whole numbers
and floating point numbers are told apart, and objects keep the order of their entries.
-/
namespace GraphQLInput

/-- The whole numbers of JSON data: 64 bits with a sign, or 64 bits without one. -/
structure WholeNumber where
  val : Int
  lower : -0x8000000000000000 ≤ val
  upper : val < 0x10000000000000000
  deriving DecidableEq

namespace WholeNumber

def ofInt? (n : Int) : Option WholeNumber :=
  if h : -0x8000000000000000 ≤ n ∧ n < 0x10000000000000000 then some ⟨n, h.1, h.2⟩ else none

theorem ofInt?_val (n : WholeNumber) : ofInt? n.val = some n :=
  dif_pos ⟨n.lower, n.upper⟩

theorem val_of_ofInt? {i : Int} {n : WholeNumber} (h : ofInt? i = some n) : n.val = i := by
  simp only [ofInt?] at h
  split at h
  · exact Option.some.inj h ▸ rfl
  · cases h

/-- Whether the number fits in 32 bits with a sign. -/
def fits32 (n : WholeNumber) : Bool :=
  -0x80000000 ≤ n.val && n.val < 0x80000000

def toBinary64 (n : WholeNumber) : Binary64 :=
  Binary64.ofInt n.val (by have := n.lower; have := n.upper; omega)

def text (n : WholeNumber) : String :=
  toString n.val

end WholeNumber

inductive Value where
  | null
  | bool (b : Bool)
  | int (n : WholeNumber)
  | float (x : Binary64)
  | string (s : String)
  | list (items : List Value)
  | object (entries : List (String × Value))

/-- Induction in which a list or an object has the hypothesis for each value that it holds. -/
@[induction_eliminator]
theorem Value.ind {motive : Value → Prop} (null : motive .null) (bool : ∀ b, motive (.bool b))
    (int : ∀ n, motive (.int n)) (float : ∀ x, motive (.float x))
    (string : ∀ s, motive (.string s))
    (list : ∀ items, (∀ v ∈ items, motive v) → motive (.list items))
    (object : ∀ entries, (∀ n v, (n, v) ∈ entries → motive v) → motive (.object entries))
    (v : Value) : motive v := by
  refine @Value.rec motive (fun items => ∀ v ∈ items, motive v)
    (fun entries => ∀ n v, (n, v) ∈ entries → motive v) (fun entry => motive entry.2)
    null bool int float string list object ?_ ?_ ?_ ?_ (fun _ _ hv => hv) v
  · exact fun _ h => absurd h List.not_mem_nil
  · exact fun _ _ hv hvs => List.forall_mem_cons.2 ⟨hv, hvs⟩
  · exact fun _ _ h => absurd h List.not_mem_nil
  · intro entry entries hentry hentries n v h
    rcases List.mem_cons.1 h with rfl | h
    · exact hentry
    · exact hentries n v h

namespace Value

def isNull : Value → Bool
  | null => true
  | _ => false

@[simp] theorem isNull_iff {v : Value} : v.isNull = true ↔ v = null := by
  cases v <;> simp [isNull]

/-- The object that results from giving its entries in order. -/
def ofEntries (entries : List (String × Value)) : Value :=
  object (Entries.merge entries)

end Value

/-!
## Bindings

The values that variables or arguments hold. A name that was not given has no entry, and that is
not the same as an entry that is null.
-/

/-- Values by the names of the variables or arguments that hold them. -/
abbrev Bindings :=
  Table Value

/-- What a name holds: nothing, an explicit null, or another value. -/
inductive Slot where
  | absent
  | null
  | value (v : Value)

namespace Slot

def isAbsent : Slot → Bool
  | absent => true
  | _ => false

def isNull : Slot → Bool
  | null => true
  | _ => false

end Slot

def Table.slot (b : Bindings) (name : String) : Slot :=
  match b.get? name with
  | none => .absent
  | some .null => .null
  | some v => .value v

end GraphQLInput
