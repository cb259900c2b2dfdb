/-
Sorting of data. The order of the comparisons is fixed, because the first one that has no answer
stops the fragment: the run at the head of the sequence is taken as it is, or turned round if it
falls, and every further item is put in its place by halving.
-/
import Workflows.Fragment.Operator

namespace Workflows.Fragment.Sorting

/-- One datum comes before another. -/
def before (a b : Datum) : Except Trouble Bool := ordered .less a b

/-- The items that go on a run, and the rest. A rising run may stand still, a falling one must
not. -/
def runFrom (falls : Bool) (last : Datum) : List Datum → Except Trouble (List Datum × List Datum)
  | [] => .ok ([], [])
  | d :: ds => do
    if (← before d last) = falls then
      let (run, rest) ← runFrom falls d ds
      return (d :: run, rest)
    else return ([], d :: ds)

/-- The run at the head of a sequence in rising order, and the rest. -/
def headRun : List Datum → Except Trouble (List Datum × List Datum)
  | [] => .ok ([], [])
  | [d] => .ok ([d], [])
  | a :: b :: rest => do
    let falls ← before b a
    let (run, rest) ← runFrom falls a (b :: rest)
    return (if falls then (a :: run).reverse else a :: run, rest)

/-- The place of an item in a sorted sequence behind all that it does not come before, between two
bounds that are at most `steps` halvings apart. -/
def placeFor (item : Datum) (sorted : Array Datum) : Nat → Nat → Nat → Except Trouble Nat
  | 0, low, _ => .ok low
  | steps + 1, low, high =>
    if low < high then do
      let middle := low + (high - low) / 2
      if ← before item (sorted.getD middle .none) then placeFor item sorted steps low middle
      else placeFor item sorted steps (middle + 1) high
    else .ok low

/-- Puts every item into its place. -/
def insertAll (sorted : Array Datum) : List Datum → Except Trouble (Array Datum)
  | [] => .ok sorted
  | d :: ds => do
    let place ← placeFor d sorted (sorted.size + 1) 0 sorted.size
    insertAll (sorted.toList.insertIdx place d).toArray ds

/-- A sequence in rising order; items that are equal stay in their order. -/
def rising (items : List Datum) : Except Trouble (List Datum) := do
  let (run, rest) ← headRun items
  return (← insertAll run.toArray rest).toList

/-- A sequence in rising or falling order; in either, items that are equal stay in their order. -/
def sorted (items : List Datum) (falling : Bool) : Except Trouble (List Datum) :=
  if falling then (rising items.reverse).map List.reverse else rising items

end Workflows.Fragment.Sorting
