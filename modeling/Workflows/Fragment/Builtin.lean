/-
What the functions that every fragment can call come to.
-/
import Workflows.Fragment.Sorting
import Workflows.Text.Case

namespace Workflows.Fragment

open Work

/-! ## Reductions -/

/-- The sum of items on top of a first one, which is no text. -/
def sumOf (first : Datum) (items : List Datum) : Work Datum :=
  match first with
  | .text _ => fail .sumOfTexts
  | _ => items.foldlM (binary .add false) first

/-- The first of the items of which no later one stands in the comparison to it. -/
def extreme (op : Comparison) (first : Datum) (items : List Datum) : Except Trouble Datum :=
  items.foldlM (fun best d => do return if ← compares op d best then d else best) first

/-- The greatest or the least of some arguments, or of the items of one. -/
def extremeOf (function : Builtin) (op : Comparison) (args : List Datum) : Except Trouble Datum :=
  match args with
  | [] => .error (.arity function.word .atLeastOne 0)
  | [d] => do
    match ← d.items with
    | [] => .error (.nothingIn function)
    | first :: rest => extreme op first rest
  | first :: rest => extreme op first rest

/-! ## Numbers -/

/-- The value that a number or a text is when it is read as a number. -/
def readable? : Datum → Option Value
  | .bool b => some (.bool b)
  | .int n => some (.int n)
  | .float x => some (.float x)
  | .text s => some (.text s)
  | _ => none

/-- A datum read as a number. -/
def readNumber {α : Type} (function : Builtin) (read : Value → Except Fault α) (d : Datum) :
    Except Trouble α :=
  match readable? d with
  | none => .error (.notReadable function d.kind)
  | some v => (read v).mapError .unreadable

/-- The integer that a text writes in a base. -/
def integerIn (d base : Datum) : Except Trouble Datum := do
  let base ← base.integer
  if (base ≠ 0 ∧ base < 2) ∨ 36 < base then .error .noSuchBase
  else
    match d with
    | .text s =>
      match Numeral.integerIn? base.toNat s with
      | .ok n => return .int n
      | .error .malformed => .error (.notInBase base.toNat s)
      | .error (.tooLong digits) => .error (.unreadable (.longInteger digits))
    | _ => .error .noText

/-- The magnitude of a number. -/
def magnitude (d : Datum) : Except Trouble Datum :=
  match d.numeric? with
  | some (.int n) => .ok (.int n.natAbs)
  | some (.float x) => .ok (.float x.abs)
  | none => .error (.noMagnitude d.kind)

/-- An integer rounded to a multiple of `10 ^ (-places)`; of two equally near ones the factor is
even. -/
def roundInteger (n places : Int) : Int :=
  if 0 ≤ places then n
  else
    let unit := Nat.pow 10 (-places).toNat
    let m : Int := Binary64.roundHalfEven n.natAbs unit * unit
    if n < 0 then -m else m

/-- A number rounded to an integer or to a number of decimal places. -/
def rounded (d : Datum) (places : Option Datum) : Except Trouble Datum :=
  match d.numeric?, places with
  | none, _ => .error (.noRounding d.kind)
  | some (.int n), none => .ok (.int n)
  | some (.int n), some places => do return .int (roundInteger n (← places.integer))
  | some (.float x), none =>
    if x.isFinite then .ok (.int x.roundToInt)
    else (Value.intOfFloat x).mapError .unreadable |>.map .int
  | some (.float x), some places => do
    let y := x.roundTo (← places.integer)
    if x.isFinite && y.isInfinite then .error .roundedTooLarge else return .float y

/-! ## Sequences -/

/-- The number of items. -/
def lengthOf (d : Datum) : Except Trouble Datum :=
  match d, d.items? with
  | .range start stop step, _ =>
    let size := Datum.rangeLength start stop step
    if isWord64 size then .ok (.int size) else .error .uncountable
  | _, some items => .ok (.int items.length)
  | _, none => .error (.noLength d.kind)

/-- The range from the first of some integers to the second, by steps of the third. -/
def rangeOf (args : List Datum) : Except Trouble Datum := do
  match args with
  | [stop] => return .range 0 (← stop.integer) 1
  | [start, stop] => return .range (← start.integer) (← stop.integer) 1
  | [start, stop, step] =>
    let start ← start.integer
    let stop ← stop.integer
    let step ← step.integer
    if step = 0 then .error .zeroStep else return .range start stop step
  | [] => .error (.arity Builtin.range.word .atLeastOne 0)
  | _ => .error (.arity Builtin.range.word (.atMost 3) args.length)

/-! ## Texts -/

/-- The text of a datum. An integer may have no more digits than a numeral that is read. -/
def textOf (d : Datum) : Except Trouble Datum :=
  match d with
  | .int n =>
    if (Nat.toDigits 10 n.natAbs).length ≤ Numeral.maxDigits then .ok (.text d.display)
    else .error .longInteger
  | _ => .ok (.text d.display)

/-! ## Calls -/

/-- The direction of a sort: rising unless an integer other than zero, which
is no longer than 32 bits, says otherwise. -/
def direction (named : List (String × Datum)) : Except Trouble Bool :=
  named.foldlM
    (fun falls (name, d) => do
      if name = "reverse" then
        let n ← d.integer
        if -0x80000000 ≤ n ∧ n < 0x80000000 then return n != 0 else .error .hugeFlag
      else if name = "key" && d.kind = .none then return falls
      else .error (.unknownNamed "sort" name))
    false

/-- The one argument of a function, or the given datum if it has none. -/
def oneOr (default : Datum) (function : Builtin) (rule : Arity) (args : List Datum)
    (result : Datum → Except Trouble Datum) : Except Trouble Datum :=
  match args with
  | [] => .ok default
  | [d] => result d
  | _ => .error (.arity function.word rule args.length)

/-- The one argument of a function that has to have it. -/
def exactlyOne (function : Builtin) (args : List Datum)
    (result : Datum → Except Trouble Datum) : Except Trouble Datum :=
  match args with
  | [d] => result d
  | _ => .error (.arity function.word .exactlyOne args.length)

/-- The result of a function for arguments by place. -/
def apply (function : Builtin) (args : List Datum) : Work Datum :=
  match function with
  | .len => monadLift (exactlyOne function args lengthOf)
  | .abs => monadLift (exactlyOne function args magnitude)
  | .max => monadLift (extremeOf function .more args)
  | .min => monadLift (extremeOf function .less args)
  | .range => monadLift (rangeOf args)
  | .print => return .none
  | .failure kind => return .failure kind args
  | .str => monadLift (oneOr (.text "") function (.upTo 3) args textOf)
  | .bool =>
    monadLift (oneOr (.bool false) function (.atMost 1) args fun d => .ok (.bool d.isTrue))
  | .int =>
    match args with
    | [d, base] => monadLift (integerIn d base)
    | _ =>
      monadLift (oneOr (.int 0) function (.upTo 2) args fun d =>
        (readNumber function Value.toInt d).map .int)
  | .float =>
    monadLift (oneOr (.float (.zero false)) function (.atMost 1) args fun d =>
      (readNumber function Value.toFloat d).map .float)
  | .list =>
    match args with
    | [] => newList []
    | [d] => do newList (← d.items)
    | _ => fail (.arity function.word (.atMost 1) args.length)
  | .sorted =>
    match args with
    | [d] => do newList (← Sorting.sorted (← d.items) false)
    | _ => fail (.arity function.word .one args.length)
  | .round =>
    match args with
    | [] => fail (.arity function.word (.missing "number") 0)
    | [d] | [d, .none] => monadLift (rounded d none)
    | [d, places] => monadLift (rounded d (some places))
    | _ => fail (.arity function.word (.upTo 2) args.length)
  | .sum =>
    match args with
    | [] => fail (.arity function.word .atLeastOneByPlace 0)
    | [d] => do sumOf (.int 0) (← d.items)
    | [d, first] => do sumOf first (← d.items)
    | _ => fail (.arity function.word (.upTo 2) args.length)

/-- The result of a function. Sorting takes its direction, a sum its first item, rounding its places
and an integer its base by name; printing shows nothing, whatever it is given. -/
def callBuiltin (function : Builtin) (args : List Datum) (named : List (String × Datum)) :
    Work Datum :=
  match function, args, named with
  | _, _, [] => apply function args
  | .print, _, _ => return .none
  | .sorted, [d], _ => do newList (← Sorting.sorted (← d.items) (← direction named))
  | .sum, [d], [("start", first)] => apply .sum [d, first]
  | .round, [d], [("ndigits", places)] => apply .round [d, places]
  | .int, [d], [("base", base)] => apply .int [d, base]
  | .sorted, _, _ => apply .sorted args
  | _, _, _ => fail (.noNamed function.word)

/-- Passes if an accessor of the input was given no arguments. -/
def accessorArguments (accessor : String) (args : List Datum) (named : List (String × Datum)) :
    Except Trouble Unit :=
  match named with
  | (name, _) :: _ => .error (.accessorNamed accessor name)
  | [] => if args.isEmpty then .ok () else .error (.arity accessor .ofAccessor args.length)

/-- The result of an operation that was reached through a datum. -/
def callMethod (owner : Datum) (operation : Method) (args : List Datum)
    (named : List (String × Datum)) : Work Datum :=
  match operation, owner with
  | .upper, .text s =>
    if !named.isEmpty then fail (.noNamed "str.upper")
    else if !args.isEmpty then fail (.arity "str.upper" .none args.length)
    else return .text (Text.upper s)
  | .get, .dict entries =>
    if !named.isEmpty then fail (.noNamed "dict.get")
    else
      match args with
      | [key] => return (Datum.find? entries (← key.key)).getD .none
      | [key, default] => return (Datum.find? entries (← key.key)).getD default
      | [] => fail (.arity "get" .atLeastOne 0)
      | _ => fail (.arity "get" (.atMost 2) args.length)
  | .first, .input value => do
    accessorArguments "first" args named
    return inputItem value
  | .all, .input value => do
    accessorArguments "all" args named
    newList [inputItem value]
  | _, _ => fail (.notCallable owner.kind)

/-- The result of a call. -/
def call (callee : Datum) (args : List Datum) (named : List (String × Datum)) : Work Datum :=
  match callee with
  | .builtin function => callBuiltin function args named
  | .method owner operation => callMethod owner operation args named
  | _ => fail (.notCallable callee.kind)

end Workflows.Fragment
