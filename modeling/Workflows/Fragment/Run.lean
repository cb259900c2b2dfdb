/-
Running a fragment. Its statements run one after another until one of them gives the result; the
input stands under `_json`, and under `_input` as the one item of a sequence.
-/
import Workflows.Fragment.Builtin
import Workflows.Fragment.Grammar

namespace Workflows.Fragment

open Work

/-! ## Scopes -/

/-- What a loop has still to pass: the items that come, after so many that it has passed, of the
list of an identity if they are a list's; or integers in equal steps, none of which is made before
its turn. -/
inductive Walk
  | items (identity : Option Nat) (passed : Nat) (rest : List Datum)
  | integers (next step : Int) (count : Nat)

namespace Walk

/-- The walk over a datum that has items. -/
def ofDatum (d : Datum) : Except Trouble Walk :=
  match d, d.items? with
  | .range start stop step, _ => .ok (.integers start step (Datum.rangeLength start stop step))
  | .list identity ds, _ => .ok (.items (some identity) 0 ds)
  | _, some ds => .ok (.items none 0 ds)
  | _, none => .error (.notIterable d.kind)

/-- The next item and what comes after it. -/
def next? : Walk → Option (Datum × Walk)
  | .items identity passed (d :: rest) => some (d, .items identity (passed + 1) rest)
  | .items _ _ [] => none
  | .integers next step (count + 1) => some (.int next, .integers (next + step) step count)
  | .integers _ _ 0 => none

/-- The walk after the list of an identity has been given other items: one over that list itself
goes on among the new ones. -/
def renew (identity : Nat) (fresh : List Datum) : Walk → Walk
  | .items own passed rest =>
    .items own passed
      (if own = some identity then fresh.drop passed else Datum.renewItems identity fresh rest)
  | walk => walk

end Walk

/-- What names stand for: the names that the fragment owns and the values of those that have one,
the values of shared names, the items of the comprehensions around an expression, and the walks of
the loops around a statement from the inside out. -/
structure Scope where
  owned : List String
  values : List (String × Datum)
  shared : List (String × Datum)
  items : List (String × Datum)
  walks : List Walk

namespace Scope

/-- The value of a name in a list of them. -/
def valueIn (values : List (String × Datum)) (name : String) : Option Datum :=
  (values.find? (·.1 == name)).map (·.2)

/-- What a name stands for: an item, a value of the fragment's own, a shared one, a function. -/
def lookup (scope : Scope) (name : String) : Except Trouble Datum :=
  match valueIn scope.items name with
  | some d => .ok d
  | none =>
    if scope.owned.contains name then
      match valueIn scope.values name with
      | some d => .ok d
      | none => .error (if scope.items.isEmpty then .unbound name else .unboundInside name)
    else
      match valueIn scope.shared name, Builtin.ofWord? name with
      | some d, _ => .ok d
      | none, some function => .ok (.builtin function)
      | none, none => .error (.undefined name)

/-- Binds a name. -/
def bind (scope : Scope) (name : String) (d : Datum) : Scope :=
  if scope.owned.contains name then { scope with values := (name, d) :: scope.values }
  else { scope with shared := (name, d) :: scope.shared }

/-- Inside a comprehension, with its item. -/
def inside (scope : Scope) (name : String) (d : Datum) : Scope :=
  { scope with items := (name, d) :: scope.items }

/-- Gives the list of an identity other items, under all of its names and in every loop. -/
def renew (scope : Scope) (identity : Nat) (items : List Datum) : Scope :=
  let through := fun (name, d) => (name, Datum.renew identity items d)
  { scope with
    values := scope.values.map through
    shared := scope.shared.map through
    walks := scope.walks.map (Walk.renew identity items) }

/-- The next item of the innermost loop, with the scope after it was taken. -/
def step? (scope : Scope) : Option (Datum × Scope) :=
  match scope.walks with
  | [] => none
  | walk :: outer => walk.next?.map fun (d, walk) => (d, { scope with walks := walk :: outer })

end Scope

/-! ## Expressions -/

/-- What the elements of a comprehension come to for the items that pass. -/
def collect (element : Datum → Work Datum) (passes : Datum → Work Bool) :
    List Datum → Work (List Datum)
  | [] => return []
  | d :: ds => do
    if ← passes d then
      let first ← element d
      return first :: (← collect element passes ds)
    else collect element passes ds

mutual

/-- What an expression comes to. -/
def eval : Expr → Scope → Work Datum
  | .literal d, _ => return d
  | .name word, scope => monadLift (scope.lookup word)
  | .list items, scope => do newList (← evalAll items scope)
  | .tuple items, scope => do return .tuple (← evalAll items scope)
  | .dict entries, scope => do
    let pairs ← evalEntries entries scope
    let entries ← pairs.foldlM
      (fun entries (key, d) => do return Datum.put entries (← key.key) d) []
    return .dict entries
  | .comprehension element name source tests, scope => do
    let items ← (← eval source scope).items
    newList (← collect (fun d => eval element (scope.inside name d))
      (fun d => evalTests tests (scope.inside name d)) items)
  | .member owner word, scope => do monadLift (member (← eval owner scope) word)
  | .subscript owner index, scope => do
    let owner ← eval owner scope
    monadLift (subscript owner (← eval index scope))
  | .part owner start stop step, scope => do
    let owner ← eval owner scope
    let start ← eval start scope
    let stop ← eval stop scope
    part owner start stop (← eval step scope)
  | .call callee args named, scope => do
    let callee ← eval callee scope
    let args ← evalAll args scope
    call callee args (← evalNamed named scope)
  | .unary op operand, scope => do monadLift (unary op (← eval operand scope))
  | .binary op left right, scope => do
    let left ← eval left scope
    binary op false left (← eval right scope)
  | .compare first rest, scope => do
    let first ← eval first scope
    evalComparisons first rest scope
  | .both left right, scope => do
    let left ← eval left scope
    if left.isTrue then eval right scope else return left
  | .either left right, scope => do
    let left ← eval left scope
    if left.isTrue then return left else eval right scope
  | .choice condition yes no, scope => do
    let condition ← eval condition scope
    if condition.isTrue then eval yes scope else eval no scope

/-- What expressions come to, from left to right. -/
def evalAll : List Expr → Scope → Work (List Datum)
  | [], _ => return []
  | e :: es, scope => do
    let d ← eval e scope
    return d :: (← evalAll es scope)

/-- What the keys and values of a dictionary come to. -/
def evalEntries : List (Expr × Expr) → Scope → Work (List (Datum × Datum))
  | [], _ => return []
  | (key, value) :: rest, scope => do
    let key ← eval key scope
    let value ← eval value scope
    return (key, value) :: (← evalEntries rest scope)

/-- What the arguments by name come to. -/
def evalNamed : List (String × Expr) → Scope → Work (List (String × Datum))
  | [], _ => return []
  | (name, value) :: rest, scope => do
    let value ← eval value scope
    return (name, value) :: (← evalNamed rest scope)

/-- All tests hold; none is made after the first that does not. -/
def evalTests : List Expr → Scope → Work Bool
  | [], _ => return true
  | test :: rest, scope => do
    let d ← eval test scope
    if d.isTrue then evalTests rest scope else return false

/-- Comparisons in a row all hold; none is made after the first that does not. -/
def evalComparisons (left : Datum) : List (Comparison × Expr) → Scope → Work Datum
  | [], _ => return .bool true
  | (op, e) :: rest, scope => do
    let right ← eval e scope
    if ← compares op left right then evalComparisons right rest scope else return .bool false

end

/-! ## Statements -/

/-- Where a fragment stands after a statement: it goes on, or it has its result. -/
inductive Progress
  | going (scope : Scope)
  | done (result : Datum)

/-- What a cause of failure raises: a failure, or a kind of failure without details. -/
def raised : Datum → Trouble
  | .failure kind details => .raised (Datum.failureText kind details)
  | .builtin (.failure _) => .raised ""
  | _ => .notRaisable

/-- The greatest number of turns of a loop, since one that extends the list it passes over need not
end. -/
def maxTurns : Nat := 0x4000000000000000

/-- Runs the body of the innermost loop for every item that its walk comes to. -/
def runFor (name : String) (body : Scope → Work Progress) : Nat → Scope → Work Progress
  | 0, scope => return .going scope
  | turns + 1, scope => do
    match scope.step? with
    | none => return .going { scope with walks := scope.walks.drop 1 }
    | some (d, scope) =>
      match ← body (scope.bind name d) with
      | .going scope => runFor name body turns scope
      | .done result => return .done result

/-- A name's value with another one added by an operator. A list is extended by the items of any
datum, under all of its names; all else is replaced. -/
def augment (scope : Scope) (name : String) (op : Arithmetic) (added : Datum) (old : Datum) :
    Work Scope :=
  match op, old with
  | .add, .list identity items => do
    let items := items ++ (← added.items)
    return (scope.renew identity items).bind name (.list identity items)
  | _, _ => do return scope.bind name (← binary op true old added)

mutual

/-- Runs a statement. -/
def exec : Statement → Scope → Work Progress
  | .result none, _ => return .done .none
  | .result (some value), scope => do return .done (← eval value scope)
  | .assign names value, scope => do
    let d ← eval value scope
    return .going (names.foldl (fun scope name => scope.bind name d) scope)
  | .augment name op value, scope => do
    let old ← scope.lookup name
    return .going (← augment scope name op (← eval value scope) old)
  | .idle, scope | .share _, scope => return .going scope
  | .raise none, _ => fail .nothingToRaise
  | .raise (some cause), scope => do fail (raised (← eval cause scope))
  | .fetch _, _ => fail .noModules
  | .branch condition yes no, scope => do
    let condition ← eval condition scope
    if condition.isTrue then execAll yes scope else execAll no scope
  | .loop name source body, scope => do
    let walk ← Walk.ofDatum (← eval source scope)
    runFor name (execAll body) maxTurns { scope with walks := walk :: scope.walks }
  | .evaluate value, scope => do
    let _ ← eval value scope
    return .going scope

/-- Runs statements one after another. -/
def execAll : List Statement → Scope → Work Progress
  | [], scope => return .going scope
  | s :: rest, scope => do
    match ← exec s scope with
    | .going scope => execAll rest scope
    | .done result => return .done result

end

/-! ## Fragments -/

/-- The result of statements for an input; none if no statement gives one. -/
def runBody (body : List Statement) (input : Value) : Except Trouble Datum := do
  let (d, next) := Datum.ofValue 0 input
  let scope : Scope :=
    ⟨["_input", "_json"] ++ ownedIn body, [("_input", .input d), ("_json", d)], [], [], []⟩
  match ← (execAll body scope).run next with
  | (.done result, _) => return result
  | (.going _, _) => return .none

/-- The result of a fragment for an input. -/
def run (source : String) (input : Value) : Except Fault Datum :=
  (do runBody (← statementsOf source) input : Except Trouble Datum).mapError fun trouble =>
    .codeFailed ("Code execution failed: " ++ trouble.message)

end Workflows.Fragment
