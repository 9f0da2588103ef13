import EditPlan.Binary64.Basic
import EditPlan.Number.Basic
import EditPlan.Text.Basic

/-!
JSON documents. Whole numbers written without point and exponent keep their exact value; other numbers are doubles.
An object is the list of its members; `Object.put` keeps one member for each name.
-/

namespace EditPlan

inductive Json where
  | null
  | bool (b : Bool)
  | int (n : Int)
  | real (x : Binary64)
  | str (s : String)
  | arr (items : List Json)
  | obj (members : List (String × Json))
  deriving Inhabited

/-- members of a JSON object -/
abbrev Object := List (String × Json)

namespace Object

def get? (o : Object) (name : String) : Option Json := List.lookup name o

/-- object with the name set; a name that is present keeps its place -/
def put (o : Object) (name : String) (value : Json) : Object :=
  if o.any (·.1 == name) then o.map fun m => if m.1 == name then (name, value) else m
  else o ++ [(name, value)]

end Object

namespace Json

/-- whether a document is the null document -/
def isNull : Json → Bool
  | .null => true
  | _ => false

/-- whether a document says nothing: null, false, zero and what is empty -/
def isVoid : Json → Bool
  | .null => true
  | .bool b => !b
  | .int n => n == 0
  | .real x => x.isZero
  | .str s => s.isEmpty
  | .arr items => items.isEmpty
  | .obj members => members.isEmpty

/-- name of the sort of a document, for messages -/
def sortName : Json → String
  | .null => "NoneType"
  | .bool _ => "bool"
  | .int _ => "int"
  | .real _ => "float"
  | .str _ => "str"
  | .arr _ => "list"
  | .obj _ => "dict"

/-- value of a name in an object; other documents have none -/
def get? : Json → String → Option Json
  | .obj o, name => Object.get? o name
  | _, _ => none

mutual

/-- whether all values in a document that are neither list nor object pass a test, and all names another one -/
def all (part : Json → Bool) (name : String → Bool) : Json → Bool
  | .arr items => allItems part name items
  | .obj members => allMembers part name members
  | j => part j

/-- whether all values in the items pass, and all names -/
def allItems (part : Json → Bool) (name : String → Bool) : List Json → Bool
  | [] => true
  | j :: js => all part name j && allItems part name js

/-- whether all values in the members pass, and all names -/
def allMembers (part : Json → Bool) (name : String → Bool) : List (String × Json) → Bool
  | [] => true
  | (k, j) :: ms => name k && all part name j && allMembers part name ms

end

theorem allItems_iff {part : Json → Bool} {name : String → Bool} {items : List Json} :
    allItems part name items = true ↔ ∀ j ∈ items, all part name j = true := by
  induction items with
  | nil => simp [allItems]
  | cons j js ih => simp [allItems, ih]

theorem allMembers_iff {part : Json → Bool} {name : String → Bool} {members : List (String × Json)} :
    allMembers part name members = true ↔ ∀ m ∈ members, name m.1 = true ∧ all part name m.2 = true := by
  induction members with
  | nil => simp [allMembers]
  | cons m ms ih => simp [allMembers, ih]

mutual

/-- levels of a document: lists and objects inside each other, and `leaf` more for what is in the innermost one -/
def levels (leaf : Nat) : Json → Nat
  | .arr items => 1 + itemsLevels leaf items
  | .obj members => 1 + membersLevels leaf members
  | _ => leaf

/-- levels of the deepest item -/
def itemsLevels (leaf : Nat) : List Json → Nat
  | [] => 0
  | j :: js => max (levels leaf j) (itemsLevels leaf js)

/-- levels of the deepest member -/
def membersLevels (leaf : Nat) : List (String × Json) → Nat
  | [] => 0
  | (_, j) :: ms => max (levels leaf j) (membersLevels leaf ms)

end

/-- whether a value is not a number out of the finite ones -/
def isFinitePart : Json → Bool
  | .real x => x.isFinite
  | _ => true

/-- whether a value is not a text with half a character -/
def isWholePart : Json → Bool
  | .str s => Text.isWhole s
  | _ => true

/-- whether a value is not a whole number with too many digits -/
def isShortPart : Json → Bool
  | .int n => decide (Numeral.IsShort n)
  | _ => true

/-- whether all numbers of a document are finite -/
def isFinite : Json → Bool := all isFinitePart fun _ => true

/-- whether no text in a document holds half a character -/
def isWhole : Json → Bool := all isWholePart Text.isWhole

/-- whether no whole number of a document has too many digits -/
def isShort : Json → Bool := all isShortPart fun _ => true

/-- whether a document can be sent -/
def isWritable (j : Json) : Bool := j.isFinite && j.isWhole && j.isShort

end Json

end EditPlan
