/-
Reading a value as something else: as a number, as an integer, as a sequence of items, as an
object. Where that is impossible the fault says why.
-/
import Workflows.Fault

namespace Workflows.Value

/-- An integer as a floating-point number. -/
def floatOfInt (n : Int) : Except Fault Binary64 :=
  match Binary64.ofInt? n with
  | some x => .ok x
  | none => .error .integerTooLarge

/-- The integer part of a floating-point number. -/
def intOfFloat (x : Binary64) : Except Fault Int :=
  if x.isNaN then .error .nanInteger
  else if x.isInfinite then .error .infiniteInteger
  else .ok x.truncate

/-- A value as a floating-point number. -/
def toFloat : Value → Except Fault Binary64
  | float x => .ok x
  | int n => floatOfInt n
  | bool b => floatOfInt (if b then 1 else 0)
  | text s =>
    match Numeral.decimal? s with
    | some x => .ok x
    | none => .error (.malformedNumber s)
  | v => .error (.notANumber v.kind)

/-- A value as an integer. -/
def toInt : Value → Except Fault Int
  | int n => .ok n
  | bool b => .ok (if b then 1 else 0)
  | float x => intOfFloat x
  | text s =>
    match Numeral.integer? s with
    | .ok n => .ok n
    | .error .malformed => .error (.malformedInteger s)
    | .error (.tooLong digits) => .error (.longInteger digits)
  | v => .error (.notAnInteger v.kind)

/-- The items of a value: those of a list, the characters of a text, the names of an object. -/
def elements : Value → Except Fault (List Value)
  | list items => .ok items
  | text s => .ok (s.toList.map fun c => .text c.toString)
  | object members => .ok (members.map fun (key, _) => .text key)
  | table entries => .ok (entries.map (·.1))
  | v => .error (.notIterable v.kind)

/-- The members of an object; for other values the fault of an operation they lack. -/
def membersFor (operation : String) : Value → Except Fault Object
  | object members => .ok members
  | v => .error (.lacksOperation v.kind operation)

/-- The member of an object, null if it has none of this name. -/
def member (v : Value) (key : String) : Except Fault Value :=
  (membersFor "get" v).map fun members => Object.getOrNull members key

/-- A part of a value that must be there. Only an object has parts by name. -/
def part (v : Value) (key : String) : Except Fault Value :=
  match v with
  | object members =>
    match Object.get? members key with
    | some v => .ok v
    | none => .error (.missingKey (.text key))
  | list _ => .error .namedListPart
  | text _ => .error .namedTextPart
  | v => .error (.notSubscriptable v.kind)

/-! ## Equality of numbers and of what holds them -/

/-- A number as a floating-point number or an integer; a truth value is the integer 0 or 1. -/
inductive Numeric
  | int (n : Int)
  | float (x : Binary64)

def numeric? : Value → Option Numeric
  | bool b => some (.int (if b then 1 else 0))
  | int n => some (.int n)
  | float x => some (.float x)
  | _ => none

/-- Numbers are the same if they are equal as numbers, whatever their kinds. -/
def Numeric.same : Numeric → Numeric → Bool
  | .int m, .int n => m == n
  | .float x, .float y => x.same y
  | .float x, .int n | .int n, .float x => x.orderInt? n == some .eq

mutual

/-- Two values are the same: numbers by what they count, lists item by item, objects name by name
in any order. -/
def same : Value → Value → Bool
  | .null, b => b == .null
  | .text s, b => b == .text s
  | .list as, .list bs => sameItems as bs
  | .object as, .object bs => as.length == bs.length && sameMembers as bs
  | .list _, _ | .object _, _ | .table _, _ => false
  | a, b =>
    match numeric? a, numeric? b with
    | some m, some n => m.same n
    | _, _ => false

/-- Lists of the same items. -/
def sameItems : List Value → List Value → Bool
  | [], bs => bs.isEmpty
  | a :: as, b :: bs => same a b && sameItems as bs
  | _ :: _, [] => false

/-- Every member has a namesake with the same value. -/
def sameMembers : List (String × Value) → List (String × Value) → Bool
  | [], _ => true
  | (key, a) :: as, bs =>
    (match Object.get? bs key with
     | some b => same a b
     | none => false) && sameMembers as bs

end

end Workflows.Value
