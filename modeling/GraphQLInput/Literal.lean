import GraphQLInput.Text
/-!
# Literals

Values as a document writes them. Numbers keep their text, and an object may repeat a field.
-/
namespace GraphQLInput

inductive Literal where
  | null
  | reference (x : String)
  | enum (name : String)
  | string (s : String)
  | boolean (b : Bool)
  | int (text : String)
  | float (text : String)
  | list (items : List Literal)
  | object (fields : List (String × Literal))

/-- Induction in which a list or an object has the hypothesis for each literal that it holds. -/
@[induction_eliminator]
theorem Literal.ind {motive : Literal → Prop} (null : motive .null)
    (reference : ∀ x, motive (.reference x)) (enum : ∀ name, motive (.enum name))
    (string : ∀ s, motive (.string s)) (boolean : ∀ b, motive (.boolean b))
    (int : ∀ text, motive (.int text)) (float : ∀ text, motive (.float text))
    (list : ∀ items, (∀ l ∈ items, motive l) → motive (.list items))
    (object : ∀ fields, (∀ n l, (n, l) ∈ fields → motive l) → motive (.object fields))
    (l : Literal) : motive l := by
  refine @Literal.rec motive (fun items => ∀ l ∈ items, motive l)
    (fun fields => ∀ n l, (n, l) ∈ fields → motive l) (fun field => motive field.2)
    null reference enum string boolean int float list object ?_ ?_ ?_ ?_ (fun _ _ hl => hl) l
  · exact fun _ h => absurd h List.not_mem_nil
  · exact fun _ _ hl hls => List.forall_mem_cons.2 ⟨hl, hls⟩
  · exact fun _ _ h => absurd h List.not_mem_nil
  · intro field fields hfield hfields n l h
    rcases List.mem_cons.1 h with rfl | h
    · exact hfield
    · exact hfields n l h

namespace Literal

/-- The variable that the literal itself is, not one inside it. -/
def referent? : Literal → Option String
  | .reference x => some x
  | _ => none

/-!
## The text of literals

Lists and objects are written over several lines, one item on each, indented by two spaces per
level. A string of several lines is a block string where reading the block gives the string back.
-/

/-- The characters between line breaks, a last empty line included. -/
def lines : List Char → List (List Char)
  | [] => [[]]
  | '\n' :: cs => [] :: lines cs
  | c :: cs =>
    match lines cs with
    | [] => [[c]]
    | line :: rest => (c :: line) :: rest

def isBlank (line : List Char) : Bool :=
  line.all fun c => c = ' ' || c = '\t'

def indentation (line : List Char) : Nat :=
  (line.takeWhile fun c => c = ' ' || c = '\t').length

/-- Whether a block of these lines is read as they are: reading drops blank lines at both ends and
the indentation that the lines share. -/
def keptByBlock (ls : List (List Char)) : Bool :=
  !(ls.head?.any isBlank) && !(ls.getLast?.any isBlank) &&
    ls.any fun line => !isBlank line && indentation line == 0

def writesAsBlock (s : String) : Bool :=
  s.toList.contains '\n' && !s.toList.contains '\r' && keptByBlock (lines s.toList)

/-- Three quotes would end the block. -/
def blockLine : List Char → List Char
  | '"' :: '"' :: '"' :: cs => '\\' :: '"' :: '"' :: '"' :: blockLine cs
  | c :: cs => c :: blockLine cs
  | [] => []

/-- A new line at a level of nesting. -/
def newLine (level : Nat) : String :=
  "\n" ++ String.ofList (List.replicate (2 * level) ' ')

def blockString (level : Nat) (s : String) : String :=
  "\"\"\"" ++
    String.join ((lines s.toList).map fun line =>
      if line.isEmpty then "\n" else newLine level ++ String.ofList (blockLine line)) ++
    newLine level ++ "\"\"\""

/-- Quotes, backslashes and control characters other than the tab are escaped. -/
def escape (c : Char) : Option String :=
  match c with
  | '"' => some "\\\""
  | '\\' => some "\\\\"
  | '\n' => some "\\n"
  | '\r' => some "\\r"
  | '\x08' => some "\\b"
  | '\x0c' => some "\\f"
  | '\t' => none
  | _ => if c.toNat < 0x20 then some ("\\u" ++ (Text.hex 4 c.toNat).toUpper) else none

def stringText (level : Nat) (s : String) : String :=
  if writesAsBlock s then blockString level s else Text.quoted escape s

/-- Brackets around items that have a line each. -/
def bracketed (level : Nat) (opening closing : String) (items : List String) : String :=
  if items.isEmpty then opening ++ closing
  else opening ++ String.join (items.map fun item => newLine (level + 1) ++ item ++ ",") ++
    newLine level ++ closing

mutual

def textAt (level : Nat) : Literal → String
  | .null => "null"
  | .reference name => "$" ++ name
  | .enum name => name
  | .string s => stringText level s
  | .boolean b => if b then "true" else "false"
  | .int text => text
  | .float text => text
  | .list items => bracketed level "[" "]" (itemTexts (level + 1) items)
  | .object fields => bracketed level "\x7b" "\x7d" (fieldTexts (level + 1) fields)

def itemTexts (level : Nat) : List Literal → List String
  | [] => []
  | l :: ls => textAt level l :: itemTexts level ls

def fieldTexts (level : Nat) : List (String × Literal) → List String
  | [] => []
  | (name, l) :: fs => (name ++ ": " ++ textAt level l) :: fieldTexts level fs

end

def text (l : Literal) : String :=
  l.textAt 0

end Literal

end GraphQLInput
