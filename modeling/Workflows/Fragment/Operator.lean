/-
What the operators of a fragment mean. Arithmetic on integers is exact, on other numbers it is
rounded, and sequences are joined and repeated; every list that an operator makes is a new one.
-/
import Workflows.Fragment.Trouble
import Workflows.Number.Power

namespace Workflows.Fragment

open Value (Numeric)

/-- A computation of a fragment: it may meet trouble, and it takes identities for new lists. -/
abbrev Work := StateT Nat (Except Trouble)

namespace Work

/-- Stops with trouble. -/
def fail {α : Type} (trouble : Trouble) : Work α := throw trouble

/-- A new list. -/
def newList (items : List Datum) : Work Datum := do
  let identity ← get
  set (identity + 1)
  return .list identity items

end Work

open Work

/-- An integer that fits a signed word of 64 bits. -/
def isWord64 (n : Int) : Bool := -0x8000000000000000 ≤ n && n < 0x8000000000000000

/-- No sequence that is held has more items. -/
def maxItems : Nat := 0x100000000

namespace Datum

/-- The items of a datum that has some, if there is room for them. -/
def items (d : Datum) : Except Trouble (List Datum) :=
  match d, d.items? with
  | .range start stop step, _ =>
    let size := rangeLength start stop step
    if !isWord64 size then .error .uncountable
    else if maxItems < size then .error .unholdable
    else .ok (rangeItems start stop step)
  | _, some items => .ok items
  | _, Option.none => .error (.notIterable d.kind)

/-- An integer, or a truth value as one. -/
def integer? : Datum → Option Int
  | .int n => some n
  | .bool b => some (if b then 1 else 0)
  | _ => Option.none

/-- An integer where nothing else will do. -/
def integer (d : Datum) : Except Trouble Int :=
  match d.integer? with
  | some n => .ok n
  | Option.none => .error (.notAnInteger d.kind)

/-- A key of a dictionary. -/
def key (d : Datum) : Except Trouble Datum :=
  match d.unhashable? with
  | some kind => .error (.unhashable kind)
  | Option.none => .ok d

end Datum

/-! ## Arithmetic -/

/-- A number as a floating-point number. -/
def Numeric.real : Numeric → Except Trouble Binary64
  | .float x => .ok x
  | .int n =>
    match Binary64.ofInt? n with
    | some x => .ok x
    | none => .error .integerTooLarge

/-- The quotient of integers, rounded once. -/
def quotient (m n : Int) : Except Trouble Binary64 :=
  if n = 0 then .error (.zeroDivisor .div true)
  else
    let negative := decide (m < 0) != decide (n < 0)
    let x := Binary64.ofRatio negative m.natAbs n.natAbs
    if x.isFinite then .ok x else .error .quotientTooLarge

/-- A power of floating-point numbers. -/
def realPower (x y : Binary64) : Except Trouble Binary64 :=
  if x.isZero && y.negative && !y.isZero && !y.isNaN then .error .zeroPower
  else
    let z := x.pow y
    if z.isInfinite && x.isFinite && y.isFinite then .error .powerTooLarge else .ok z

/-- Arithmetic on integers. A quotient is a floating-point number, and so is a power with a negative
exponent. -/
def integerArithmetic (op : Arithmetic) (m n : Int) : Except Trouble Datum :=
  match op with
  | .add => .ok (.int (m + n))
  | .sub => .ok (.int (m - n))
  | .mul => .ok (.int (m * n))
  | .div => (quotient m n).map .float
  | .floorDiv => if n = 0 then .error (.zeroDivisor op true) else .ok (.int (Int.fdiv m n))
  | .mod => if n = 0 then .error (.zeroDivisor op true) else .ok (.int (Int.fmod m n))
  | .pow =>
    if 0 ≤ n then
      if m.natAbs ≤ 1 then .ok (.int (if n = 0 then 1 else if Int.emod n 2 = 0 then m * m else m))
      else .ok (.int (Int.pow m n.toNat))
    else do
      let x ← Numeric.real (.int m)
      let y ← Numeric.real (.int n)
      return .float (← realPower x y)

/-- Arithmetic on floating-point numbers. -/
def realArithmetic (op : Arithmetic) (x y : Binary64) : Except Trouble Binary64 :=
  match op with
  | .add => .ok (x.add y)
  | .sub => .ok (x.sub y)
  | .mul => .ok (x.mul y)
  | .div => if y.isZero then .error (.zeroDivisor op false) else .ok (x.div y)
  | .floorDiv => if y.isZero then .error (.zeroDivisor op false) else .ok (x.floorDiv y)
  | .mod => if y.isZero then .error (.zeroDivisor op false) else .ok (x.floorMod y)
  | .pow => realPower x y

/-- Arithmetic on numbers: on integers if both are, else on floating-point numbers. -/
def arithmetic (op : Arithmetic) : Numeric → Numeric → Except Trouble Datum
  | .int m, .int n => integerArithmetic op m n
  | a, b => do
    let x ← Numeric.real a
    let y ← Numeric.real b
    return .float (← realArithmetic op x y)

/-! ## Sequences -/

/-- A sequence's items so many times one after another, if there is room for them; nothing is
repeated as nothing. -/
def repeatItems {α : Type} (tooLong : Trouble) (count : Nat) (items : List α) : Work (List α) :=
  let size := items.length * count
  if size = 0 then return []
  else if !isWord64 size then fail tooLong
  else if maxItems < size then fail .unholdable
  else return (List.replicate count items).flatten

/-- A sequence repeated so many times. -/
def repeated (count : Int) : Datum → Work Datum
  | .text s => do
    return .text (String.ofList (← repeatItems .longRepetition count.toNat s.toList))
  | .tuple items => do return .tuple (← repeatItems .unholdable count.toNat items)
  | .list _ items => do newList (← repeatItems .unholdable count.toNat items)
  | d => return d

/-- A sequence that can be repeated. -/
def isRepeatable : Datum → Bool
  | .text _ | .tuple _ | .list _ _ => true
  | _ => false

/-- A sequence repeated as often as a datum says. -/
def repeatBy (sequence count : Datum) : Work Datum :=
  match count.integer? with
  | some n => if isWord64 n then repeated n sequence else fail .hugeIndex
  | none => fail (.badCount count.kind)

/-- Data that leave nothing over when a text without places for values is filled with them. -/
def fillsNothing : Datum → Bool
  | .tuple items => items.isEmpty
  | .list _ _ | .dict _ | .range _ _ _ => true
  | _ => false

/-- The meaning of an operator on two data; `assigns` says that the result is assigned to the left
one's name, which only messages show. -/
def binary (op : Arithmetic) (assigns : Bool) (a b : Datum) : Work Datum :=
  match a.numeric?, b.numeric? with
  | some m, some n => monadLift (arithmetic op m n)
  | _, _ =>
    match op, a, b with
    | .add, .text s, .text t => return .text (s ++ t)
    | .add, .tuple as, .tuple bs => return .tuple (as ++ bs)
    | .add, .list _ as, .list _ bs => newList (as ++ bs)
    | .add, .text _, _ | .add, .tuple _, _ | .add, .list _ _, _ =>
      fail (.notJoined a.kind b.kind)
    | .mul, _, _ =>
      if isRepeatable a then repeatBy a b
      else if isRepeatable b then repeatBy b a
      else fail (.operands op assigns a.kind b.kind)
    | .mod, .text _, _ => if fillsNothing b then return a else fail .unformatted
    | _, _, _ => fail (.operands op assigns a.kind b.kind)

/-- The meaning of an operator on one datum. -/
def unary (op : Unary) (d : Datum) : Except Trouble Datum :=
  match op, d.numeric? with
  | .opposite, _ => .ok (.bool !d.isTrue)
  | .minus, some (.int n) => .ok (.int (-n))
  | .minus, some (.float x) => .ok (.float x.neg)
  | .plus, some (.int n) => .ok (.int n)
  | .plus, some (.float x) => .ok (.float x)
  | _, none => .error (.badOperand op d.kind)

/-! ## Comparison -/

/-- The order of two numbers; none if one is a NaN. -/
def Numeric.order? : Numeric → Numeric → Option Ordering
  | .int m, .int n => some (compare m n)
  | .float x, .float y => x.order? y
  | .float x, .int n => x.orderInt? n
  | .int m, .float y => (y.orderInt? m).map Ordering.swap

mutual

/-- A comparison by order: of numbers, of texts by their code points, and of sequences of one kind
by the first items that are not the same, or by their lengths if there are none. -/
def ordered (op : Comparison) : Datum → Datum → Except Trouble Bool
  | .text s, .text t => .ok (op.holds (compare s t))
  | .list _ as, .list _ bs | .tuple as, .tuple bs => orderedItems op as bs
  | a, b =>
    match a.numeric?, b.numeric? with
    | some m, some n => .ok ((Numeric.order? m n).any op.holds)
    | _, _ => .error (.unordered op a.kind b.kind)

/-- A comparison by order of two sequences' items. -/
def orderedItems (op : Comparison) : List Datum → List Datum → Except Trouble Bool
  | [], bs => .ok (op.holds (if bs.isEmpty then .eq else .lt))
  | _ :: _, [] => .ok (op.holds .gt)
  | a :: as, b :: bs => if a.same b then orderedItems op as bs else ordered op a b

end

/-- A comparison. -/
def compares (op : Comparison) (a b : Datum) : Except Trouble Bool :=
  match op with
  | .same => .ok (a.same b)
  | .differs => .ok (!a.same b)
  | _ => ordered op a b

/-! ## Parts -/

/-- The place of an index, which counts from the end if it is negative. -/
def place? (size : Nat) (n : Int) : Option Nat :=
  let n := if n < 0 then n + size else n
  if 0 ≤ n ∧ n < size then some n.toNat else none

/-- The part of a datum that an index names: an item of a sequence, a character of a text, the value
of a key. -/
def subscript (owner index : Datum) : Except Trouble Datum :=
  match owner with
  | .dict entries => do
    let key ← index.key
    match Datum.find? entries key with
    | some d => return d
    | none => .error (.missingKey key)
  | .builtin function =>
    if function.isType then .error (.typeNotSubscriptable function.word)
    else .error (.notSubscriptable owner.kind)
  | .range start stop step =>
    match index.integer? with
    | none => .error (.badIndex owner.kind index.kind)
    | some n =>
      match place? (Datum.rangeLength start stop step) n with
      | some place => .ok (Datum.rangeItem start step place)
      | none => .error (.outOfRange owner.kind)
  | .list _ _ | .tuple _ | .text _ => do
    let items ← owner.items
    match index.integer? with
    | none => .error (.badIndex owner.kind index.kind)
    | some n =>
      match (place? items.length n).bind (items[·]?) with
      | some d => return d
      | none => if isWord64 n then .error (.outOfRange owner.kind) else .error .hugeIndex
  | _ => .error (.notSubscriptable owner.kind)

/-- A bound of a part, if it is not none. -/
def bound? : Datum → Except Trouble (Option Int)
  | .none => .ok none
  | d =>
    match d.integer? with
    | some n => .ok (some n)
    | none => .error .badBound

/-- The bounds of a part of so many items in steps that are not zero. Bounds count from the end if
they are negative, and none of them lies beyond the ends. -/
def partBounds (size : Nat) (start stop : Option Int) (step : Int) : Int × Int :=
  let low : Int := if step < 0 then -1 else 0
  let high : Int := if step < 0 then size - 1 else size
  let clamp := fun (n : Int) => if n < 0 then max (n + size) low else min n high
  let first := if step < 0 then high else low
  let last := if step < 0 then low else high
  ((start.map clamp).getD first, (stop.map clamp).getD last)

/-- The places of the items of a part. -/
def partPlaces (size : Nat) (start stop : Option Int) (step : Int) : List Nat :=
  let (first, last) := partBounds size start stop step
  (List.range (Datum.rangeLength first last step)).map fun (i : Nat) => (first + i * step).toNat

/-- The part of a sequence between two bounds, in steps. -/
def part (owner start stop step : Datum) : Work Datum :=
  let select {α : Type} (items : List α) : Work (List α) := do
    let step := (← bound? step).getD 1
    if step = 0 then fail .zeroPartStep
    else
      let start ← bound? start
      let stop ← bound? stop
      let items := items.toArray
      return (partPlaces items.size start stop step).filterMap (items[·]?)
  match owner with
  | .list _ items => do newList (← select items)
  | .tuple items => do return .tuple (← select items)
  | .text s => do return .text (String.ofList (← select s.toList))
  | .range first last stride => do
    let step := (← bound? step).getD 1
    if step = 0 then fail .zeroPartStep
    else
      let start ← bound? start
      let stop ← bound? stop
      let (low, high) := partBounds (Datum.rangeLength first last stride) start stop step
      return .range (first + low * stride) (first + high * stride) (stride * step)
  | .dict _ => fail .unhashablePart
  | .builtin function =>
    if function.isType then fail (.typeNotSubscriptable function.word)
    else fail (.notSubscriptable owner.kind)
  | _ => fail (.notSubscriptable owner.kind)

/-- The one entry that an item of the input is: the input under the name `json`. -/
def inputItem (value : Datum) : Datum := .dict [(.text "json", value)]

/-- What a datum has under a name. -/
def member (owner : Datum) (name : String) : Except Trouble Datum :=
  match owner, name with
  | .text _, "upper" => .ok (.method owner .upper)
  | .dict _, "get" => .ok (.method owner .get)
  | .input _, "first" => .ok (.method owner .first)
  | .input _, "all" => .ok (.method owner .all)
  | .input value, "item" => .ok (inputItem value)
  | .builtin function, _ =>
    if function.isType then .error (.noTypeMember function.word name)
    else .error (.noMember owner.kind name)
  | _, _ => .error (.noMember owner.kind name)

end Workflows.Fragment
