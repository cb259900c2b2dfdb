/-
Values: what steps carry, what contexts hold and what requests and exports are made of. An object
is the list of its members in the order of their first appearance. A table is an object with names
that are not all texts; no JSON text writes one.
-/
import Workflows.Number.Binary64

namespace Workflows

/-- A value of data interchange. Integers are exact and apart from floating-point numbers. -/
inductive Value
  | null
  | bool (b : Bool)
  | int (n : Int)
  | float (x : Binary64)
  | text (s : String)
  | list (items : List Value)
  | object (members : List (String × Value))
  | table (entries : List (Value × Value))
deriving Inhabited, Repr

/-- The members of an object in order. -/
abbrev Object := List (String × Value)

/-! ## Equality of values -/

mutual

/-- Values are told apart by their structure. -/
def Value.decEq : (a b : Value) → Decidable (a = b)
  | .null, .null => isTrue rfl
  | .bool a, .bool b => decidable_of_iff (a = b) (by simp)
  | .int a, .int b => decidable_of_iff (a = b) (by simp)
  | .float a, .float b => decidable_of_iff (a = b) (by simp)
  | .text a, .text b => decidable_of_iff (a = b) (by simp)
  | .list a, .list b =>
    match Value.decEqItems a b with
    | isTrue h => isTrue (by rw [h])
    | isFalse h => isFalse (by simpa using h)
  | .object a, .object b =>
    match Value.decEqMembers a b with
    | isTrue h => isTrue (by rw [h])
    | isFalse h => isFalse (by simpa using h)
  | .table a, .table b =>
    match Value.decEqEntries a b with
    | isTrue h => isTrue (by rw [h])
    | isFalse h => isFalse (by simpa using h)
  | .null, .bool _ | .null, .int _ | .null, .float _ | .null, .text _ | .null, .list _
  | .null, .object _ | .null, .table _ => isFalse (by simp)
  | .bool _, .null | .bool _, .int _ | .bool _, .float _ | .bool _, .text _ | .bool _, .list _
  | .bool _, .object _ | .bool _, .table _ => isFalse (by simp)
  | .int _, .null | .int _, .bool _ | .int _, .float _ | .int _, .text _ | .int _, .list _
  | .int _, .object _ | .int _, .table _ => isFalse (by simp)
  | .float _, .null | .float _, .bool _ | .float _, .int _ | .float _, .text _
  | .float _, .list _ | .float _, .object _ | .float _, .table _ => isFalse (by simp)
  | .text _, .null | .text _, .bool _ | .text _, .int _ | .text _, .float _ | .text _, .list _
  | .text _, .object _ | .text _, .table _ => isFalse (by simp)
  | .list _, .null | .list _, .bool _ | .list _, .int _ | .list _, .float _ | .list _, .text _
  | .list _, .object _ | .list _, .table _ => isFalse (by simp)
  | .object _, .null | .object _, .bool _ | .object _, .int _ | .object _, .float _
  | .object _, .text _ | .object _, .list _ | .object _, .table _ => isFalse (by simp)
  | .table _, .null | .table _, .bool _ | .table _, .int _ | .table _, .float _
  | .table _, .text _ | .table _, .list _ | .table _, .object _ => isFalse (by simp)

/-- Lists of values, item by item. -/
def Value.decEqItems : (a b : List Value) → Decidable (a = b)
  | [], [] => isTrue rfl
  | [], _ :: _ => isFalse (by simp)
  | _ :: _, [] => isFalse (by simp)
  | a :: as, b :: bs =>
    match Value.decEq a b, Value.decEqItems as bs with
    | isTrue h, isTrue hs => isTrue (by rw [h, hs])
    | isFalse h, _ => isFalse (by simp [h])
    | _, isFalse hs => isFalse (by simp [hs])

/-- Lists of members, member by member. -/
def Value.decEqMembers : (a b : List (String × Value)) → Decidable (a = b)
  | [], [] => isTrue rfl
  | [], _ :: _ => isFalse (by simp)
  | _ :: _, [] => isFalse (by simp)
  | (k, a) :: as, (l, b) :: bs =>
    match (inferInstance : Decidable (k = l)), Value.decEq a b, Value.decEqMembers as bs with
    | isTrue hk, isTrue h, isTrue hs => isTrue (by rw [hk, h, hs])
    | isFalse hk, _, _ => isFalse (by simp [hk])
    | _, isFalse h, _ => isFalse (by simp [h])
    | _, _, isFalse hs => isFalse (by simp [hs])

/-- Lists of entries, entry by entry. -/
def Value.decEqEntries : (a b : List (Value × Value)) → Decidable (a = b)
  | [], [] => isTrue rfl
  | [], _ :: _ => isFalse (by simp)
  | _ :: _, [] => isFalse (by simp)
  | (k, a) :: as, (l, b) :: bs =>
    match Value.decEq k l, Value.decEq a b, Value.decEqEntries as bs with
    | isTrue hk, isTrue h, isTrue hs => isTrue (by rw [hk, h, hs])
    | isFalse hk, _, _ => isFalse (by simp [hk])
    | _, isFalse h, _ => isFalse (by simp [h])
    | _, _, isFalse hs => isFalse (by simp [hs])

end

instance : DecidableEq Value := Value.decEq

/-! ## Objects -/

namespace Object

/-- The value of a member. -/
def get? (members : Object) (key : String) : Option Value :=
  (members.find? (·.1 == key)).map (·.2)

/-- The value of a member, or null if there is none. -/
def getOrNull (members : Object) (key : String) : Value := (get? members key).getD .null

/-- There is a member of this name. -/
def has (members : Object) (key : String) : Bool := members.any (·.1 == key)

/-- Sets a member: in its place if there is one of this name, else at the end. -/
def put (members : Object) (key : String) (value : Value) : Object :=
  match members with
  | [] => [(key, value)]
  | (k, v) :: rest => if k = key then (k, value) :: rest else (k, v) :: put rest key value

/-- Members from pairs in which a name may repeat: it keeps its first place and its last value. -/
def ofPairs (pairs : List (String × Value)) : Object :=
  pairs.foldl (fun members (key, value) => put members key value) []

end Object

/-! ## Kinds -/

/-- The kinds of values. -/
inductive Kind
  | null | bool | int | float | text | list | object
deriving DecidableEq, Repr

/-- The word for a kind in messages. -/
def Kind.word : Kind → String
  | .null => "NoneType"
  | .bool => "bool"
  | .int => "int"
  | .float => "float"
  | .text => "str"
  | .list => "list"
  | .object => "dict"

namespace Value

def kind : Value → Kind
  | null => .null
  | bool _ => .bool
  | int _ => .int
  | float _ => .float
  | text _ => .text
  | list _ => .list
  | object _ | table _ => .object

/-- The values that count as true: all but null, false, the zeros and whatever is empty. -/
def isTrue : Value → Bool
  | null => false
  | bool b => b
  | int n => n != 0
  | float x => !x.isZero
  | text s => s != ""
  | list items => !items.isEmpty
  | object members => !members.isEmpty
  | table entries => !entries.isEmpty

/-- Null or the empty text: what a parameter is when nothing was filled in. -/
def isUnset : Value → Bool
  | null => true
  | text s => s == ""
  | _ => false

/-- The first of two values that counts as true, or the second. -/
def orElse (a b : Value) : Value := if a.isTrue then a else b

/-- The members of an object; none for other values. -/
def members? : Value → Option Object
  | object members => some members
  | _ => none

/-- The text of a text. -/
def text? : Value → Option String
  | text s => some s
  | _ => none

end Value

end Workflows
