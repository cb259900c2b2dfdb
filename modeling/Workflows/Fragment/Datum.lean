/-
The data that a fragment works on: values, tuples and ranges beside the lists, the built-in
functions, and the input with its accessors. A list has an identity, by which a list that is
extended is found under all of its names.
-/
import Workflows.Value.Coerce

namespace Workflows.Fragment

/-! ## Names of functions -/

/-- The kinds of failures that a fragment can raise by name. -/
inductive FailureKind
  | failure | wrongValue | wrongKind | key | place | operation
deriving DecidableEq, Repr

/-- The name of a kind of failure. -/
def FailureKind.word : FailureKind → String
  | .failure => "Exception"
  | .wrongValue => "ValueError"
  | .wrongKind => "TypeError"
  | .key => "KeyError"
  | .place => "IndexError"
  | .operation => "AttributeError"

/-- The functions that every fragment can call. -/
inductive Builtin
  | len | sum | sorted | max | min | str | int | float | bool | round | abs | list | range | print
  | failure (kind : FailureKind)
deriving DecidableEq, Repr

namespace Builtin

/-- All of them. -/
def all : List Builtin :=
  [.len, .sum, .sorted, .max, .min, .str, .int, .float, .bool, .round, .abs, .list, .range,
    .print, .failure .failure, .failure .wrongValue, .failure .wrongKind, .failure .key,
    .failure .place, .failure .operation]

/-- The name of a function. -/
def word : Builtin → String
  | len => "len"
  | sum => "sum"
  | sorted => "sorted"
  | max => "max"
  | min => "min"
  | str => "str"
  | int => "int"
  | float => "float"
  | bool => "bool"
  | round => "round"
  | abs => "abs"
  | list => "list"
  | range => "range"
  | print => "print"
  | failure kind => kind.word

/-- The function of a name. -/
def ofWord? (name : String) : Option Builtin := all.find? (·.word == name)

/-- A function that is also the name of a kind of data. -/
def isType : Builtin → Bool
  | str | int | float | bool | list | range | failure _ => true
  | _ => false

end Builtin

/-- The operations that are reached through a datum. -/
inductive Method
  | upper | get | first | all
deriving DecidableEq, Repr

/-! ## Data -/

/-- A datum. The entries of a dictionary stand in the order in which their keys first appeared. -/
inductive Datum
  | none
  | bool (b : Bool)
  | int (n : Int)
  | float (x : Binary64)
  | text (s : String)
  | list (identity : Nat) (items : List Datum)
  | tuple (items : List Datum)
  | dict (entries : List (Datum × Datum))
  | range (start stop step : Int)
  | builtin (function : Builtin)
  | method (owner : Datum) (operation : Method)
  | input (value : Datum)
  | failure (kind : FailureKind) (details : List Datum)
deriving Inhabited

namespace Datum

/-- The kinds of data. -/
inductive Kind
  | none | bool | int | float | text | list | tuple | dict | range | function | type | method
  | input | failure (kind : FailureKind)
deriving DecidableEq, Repr

/-- The word for a kind of data. -/
def Kind.word : Kind → String
  | .none => "NoneType"
  | .bool => "bool"
  | .int => "int"
  | .float => "float"
  | .text => "str"
  | .list => "list"
  | .tuple => "tuple"
  | .dict => "dict"
  | .range => "range"
  | .function => "builtin_function_or_method"
  | .type => "type"
  | .method => "method"
  | .input => "InputItems"
  | .failure kind => kind.word

/-- The kind of a datum. -/
def kind : Datum → Kind
  | .none => .none
  | .bool _ => .bool
  | .int _ => .int
  | .float _ => .float
  | .text _ => .text
  | .list _ _ => .list
  | .tuple _ => .tuple
  | .dict _ => .dict
  | .range _ _ _ => .range
  | .builtin function => if function.isType then .type else .function
  | .method _ .first | .method _ .all => .method
  | .method _ _ => .function
  | .input _ => .input
  | .failure kind _ => .failure kind

/-! ## Ranges -/

/-- The number of integers in a range; the step is not zero. -/
def rangeLength (start stop step : Int) : Nat :=
  if 0 < step then ((stop - start + step - 1) / step).toNat
  else ((start - stop - step - 1) / -step).toNat

/-- The integer at a place in a range. -/
def rangeItem (start step : Int) (place : Nat) : Datum := .int (start + place * step)

/-- The integers of a range. -/
def rangeItems (start stop step : Int) : List Datum :=
  (List.range (rangeLength start stop step)).map (rangeItem start step)

/-! ## Truth -/

/-- The data that count as true: all but none, false, the zeros and whatever is empty. -/
def isTrue : Datum → Bool
  | .none => false
  | .bool b => b
  | .int n => n != 0
  | .float x => !x.isZero
  | .text s => s != ""
  | .list _ items | .tuple items => !items.isEmpty
  | .dict entries => !entries.isEmpty
  | .range start stop step => rangeLength start stop step != 0
  | _ => true

/-! ## Equality -/

/-- A number; a truth value is the integer 0 or 1. -/
def numeric? : Datum → Option Value.Numeric
  | .bool b => some (.int (if b then 1 else 0))
  | .int n => some (.int n)
  | .float x => some (.float x)
  | _ => Option.none

mutual

/-- Two data are the same: numbers by what they count, lists and tuples item by item, dictionaries
entry by entry in any order. -/
def same : Datum → Datum → Bool
  | .none, .none => true
  | .text s, .text t => s == t
  | .list _ as, .list _ bs => sameItems as bs
  | .tuple as, .tuple bs => sameItems as bs
  | .dict as, .dict bs => as.length == bs.length && sameEntries as bs
  | .range a b c, .range d e f =>
    let size := rangeLength a b c
    size == rangeLength d e f && (size == 0 || (a == d && (size == 1 || c == f)))
  | .builtin f, .builtin g => f == g
  | .method a f, .method b g => f == g && same a b
  | a, b =>
    match numeric? a, numeric? b with
    | some m, some n => m.same n
    | _, _ => false

/-- Sequences of the same items. -/
def sameItems : List Datum → List Datum → Bool
  | [], bs => bs.isEmpty
  | a :: as, b :: bs => same a b && sameItems as bs
  | _ :: _, [] => false

/-- Every entry has one with the same key and the same value. -/
def sameEntries : List (Datum × Datum) → List (Datum × Datum) → Bool
  | [], _ => true
  | (key, a) :: as, bs =>
    bs.any (fun (other, b) => same key other && same a b) && sameEntries as bs

end

/-! ## Dictionaries -/

/-- The value of a key. -/
def find? (entries : List (Datum × Datum)) (key : Datum) : Option Datum :=
  (entries.find? fun (other, _) => other.same key).map (·.2)

/-- Sets the value of a key: in its place, with the key that is there, or else at the end. -/
def put (entries : List (Datum × Datum)) (key value : Datum) : List (Datum × Datum) :=
  match entries with
  | [] => [(key, value)]
  | (other, v) :: rest =>
    if other.same key then (other, value) :: rest else (other, v) :: put rest key value

mutual

/-- What keeps a datum from being a key: the kind of a list or dictionary, or of one inside. -/
def unhashable? : Datum → Option Kind
  | .list _ _ => some .list
  | .dict _ => some .dict
  | .tuple items => unhashableItem? items
  | _ => Option.none

/-- The first of the items that keeps a tuple from being a key. -/
def unhashableItem? : List Datum → Option Kind
  | [] => Option.none
  | d :: ds =>
    match unhashable? d with
    | some kind => some kind
    | Option.none => unhashableItem? ds

end

/-! ## Items -/

/-- The items of a datum: those of a sequence, the characters of a text, a dictionary's keys. -/
def items? : Datum → Option (List Datum)
  | .list _ items | .tuple items => some items
  | .text s => some (s.toList.map fun c => .text c.toString)
  | .dict entries => some (entries.map (·.1))
  | .range start stop step => some (rangeItems start stop step)
  | _ => Option.none

/-! ## Spelling -/

/-- A tuple's brackets; a single item is followed by a comma. -/
def spellTuple : List String → String
  | [one] => "(" ++ one ++ ",)"
  | texts => "(" ++ Text.joinWith ", " texts ++ ")"

mutual

/-- The spelling of a datum with texts quoted. -/
def spelling : Datum → String
  | .none => "None"
  | .bool true => "True"
  | .bool false => "False"
  | .int n => toString n
  | .float x => x.text
  | .text s => Text.quoted s
  | .list _ items => "[" ++ Text.joinWith ", " (spellItems items) ++ "]"
  | .tuple items => spellTuple (spellItems items)
  | .dict entries => "\x7b" ++ Text.joinWith ", " (spellEntries entries) ++ "\x7d"
  | .range start stop step =>
    "range(" ++ toString start ++ ", " ++ toString stop ++
      (if step = 1 then ")" else ", " ++ toString step ++ ")")
  | .builtin function =>
    if function.isType then "<class '" ++ function.word ++ "'>"
    else "<built-in function " ++ function.word ++ ">"
  | .method owner _ => "<method of " ++ spelling owner ++ ">"
  | .input value => "<input " ++ spelling value ++ ">"
  | .failure kind details => kind.word ++ "(" ++ Text.joinWith ", " (spellItems details) ++ ")"

/-- The spellings of items. -/
def spellItems : List Datum → List String
  | [] => []
  | d :: ds => spelling d :: spellItems ds

/-- The spellings of entries. -/
def spellEntries : List (Datum × Datum) → List String
  | [] => []
  | (key, d) :: rest => (spelling key ++ ": " ++ spelling d) :: spellEntries rest

end

/-- A text as itself, any other datum as its spelling. -/
def plain : Datum → String
  | .text s => s
  | d => spelling d

/-- The text of a failure: its one detail, quoted if it is a key that was not found; several details
are spelled as a tuple. -/
def failureText (kind : FailureKind) : List Datum → String
  | [] => ""
  | [one] => if kind = .key then spelling one else plain one
  | details => spelling (.tuple details)

/-- A datum as a text. -/
def display : Datum → String
  | .failure kind details => failureText kind details
  | d => plain d

/-! ## Lists by identity -/

mutual

/-- The datum after the list of an identity has been given other items. -/
def renew (identity : Nat) (fresh : List Datum) : Datum → Datum
  | .list other items =>
    if other = identity then .list other fresh else .list other (renewItems identity fresh items)
  | .tuple items => .tuple (renewItems identity fresh items)
  | .dict entries => .dict (renewEntries identity fresh entries)
  | .method owner operation => .method (renew identity fresh owner) operation
  | .input value => .input (renew identity fresh value)
  | .failure kind details => .failure kind (renewItems identity fresh details)
  | d => d

/-- The same for every item. -/
def renewItems (identity : Nat) (fresh : List Datum) : List Datum → List Datum
  | [] => []
  | d :: ds => renew identity fresh d :: renewItems identity fresh ds

/-- The same for every value of a dictionary; keys hold no lists. -/
def renewEntries (identity : Nat) (fresh : List Datum) : List (Datum × Datum) → List (Datum × Datum)
  | [] => []
  | (key, d) :: rest => (key, renew identity fresh d) :: renewEntries identity fresh rest

end

mutual

/-- The datum of a value; its lists take the identities from `next` on. The identity after the last
one taken comes with it. -/
def ofValue (next : Nat) : Value → Datum × Nat
  | .null => (.none, next)
  | .bool b => (.bool b, next)
  | .int n => (.int n, next)
  | .float x => (.float x, next)
  | .text s => (.text s, next)
  | .list values =>
    let (items, after) := ofValues (next + 1) values
    (.list next items, after)
  | .object members =>
    let (entries, after) := ofMembers next members
    (.dict entries, after)
  | .table pairs =>
    let (entries, after) := ofEntries next pairs
    (.dict entries, after)

/-- The data of values, one after another. -/
def ofValues (next : Nat) : List Value → List Datum × Nat
  | [] => ([], next)
  | v :: vs =>
    let (item, after) := ofValue next v
    let (items, after) := ofValues after vs
    (item :: items, after)

/-- The entries of members, one after another. -/
def ofMembers (next : Nat) : List (String × Value) → List (Datum × Datum) × Nat
  | [] => ([], next)
  | (key, v) :: rest =>
    let (item, after) := ofValue next v
    let (entries, after) := ofMembers after rest
    ((.text key, item) :: entries, after)

/-- The entries of a table, one after another. -/
def ofEntries (next : Nat) : List (Value × Value) → List (Datum × Datum) × Nat
  | [] => ([], next)
  | (name, v) :: rest =>
    let (key, next) := ofValue next name
    let (item, after) := ofValue next v
    let (entries, after) := ofEntries after rest
    ((key, item) :: entries, after)

end

end Datum

end Workflows.Fragment
