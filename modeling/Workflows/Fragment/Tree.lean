/-
The structure of a fragment: expressions, statements, and the names that a fragment owns.
-/
import Workflows.Fragment.Datum

namespace Workflows.Fragment

/-! ## Operators -/

/-- The operators of arithmetic. -/
inductive Arithmetic
  | add | sub | mul | div | floorDiv | mod | pow
deriving DecidableEq, Repr

/-- The sign of an operator. -/
def Arithmetic.word : Arithmetic → String
  | .add => "+"
  | .sub => "-"
  | .mul => "*"
  | .div => "/"
  | .floorDiv => "//"
  | .mod => "%"
  | .pow => "**"

/-- The comparisons. -/
inductive Comparison
  | same | differs | less | atMost | more | atLeast
deriving DecidableEq, Repr

/-- The sign of a comparison. -/
def Comparison.word : Comparison → String
  | .same => "=="
  | .differs => "!="
  | .less => "<"
  | .atMost => "<="
  | .more => ">"
  | .atLeast => ">="

/-- A comparison holds of two things that stand in an order. -/
def Comparison.holds : Comparison → Ordering → Bool
  | .same, order => order == .eq
  | .differs, order => order != .eq
  | .less, order => order == .lt
  | .atMost, order => order != .gt
  | .more, order => order == .gt
  | .atLeast, order => order != .lt

/-- The operators on one operand. -/
inductive Unary
  | minus | plus | opposite
deriving DecidableEq, Repr

/-- The sign of an operator on one operand. -/
def Unary.word : Unary → String
  | .minus => "-"
  | .plus => "+"
  | .opposite => "not"

/-! ## Expressions -/

/-- An expression. -/
inductive Expr
  | literal (d : Datum)
  | name (word : String)
  | list (items : List Expr)
  | tuple (items : List Expr)
  | dict (entries : List (Expr × Expr))
  /-- A list of what an element comes to for every item that passes the tests. -/
  | comprehension (element : Expr) (item : String) (source : Expr) (tests : List Expr)
  | member (owner : Expr) (word : String)
  | subscript (owner index : Expr)
  /-- The items from one place to before another, in steps; what is not written is none. -/
  | part (owner start stop step : Expr)
  | call (callee : Expr) (arguments : List Expr) (named : List (String × Expr))
  | unary (op : Unary) (operand : Expr)
  | binary (op : Arithmetic) (left right : Expr)
  /-- Comparisons in a row: each holds of its two neighbours. -/
  | compare (first : Expr) (rest : List (Comparison × Expr))
  | both (left right : Expr)
  | either (left right : Expr)
  | choice (condition yes no : Expr)
deriving Inhabited

/-! ## Statements -/

/-- A statement. -/
inductive Statement
  /-- The result of the fragment. -/
  | result (value : Option Expr)
  | assign (names : List String) (value : Expr)
  | augment (name : String) (op : Arithmetic) (value : Expr)
  | idle
  /-- A failure that the fragment raises itself. -/
  | raise (cause : Option Expr)
  /-- Names that are not the fragment's own. -/
  | share (names : List String)
  /-- Names that modules would be bound to. -/
  | fetch (names : List String)
  | branch (condition : Expr) (yes no : List Statement)
  | loop (name : String) (source : Expr) (body : List Statement)
  | evaluate (value : Expr)
deriving Inhabited

/-! ## Names -/

mutual

/-- The names that a statement binds. -/
def Statement.bound : Statement → List String
  | .assign names _ | .fetch names => names
  | .augment name _ _ => [name]
  | .branch _ yes no => boundIn yes ++ boundIn no
  | .loop name _ body => name :: boundIn body
  | _ => []

/-- The names that statements bind. -/
def boundIn : List Statement → List String
  | [] => []
  | s :: rest => s.bound ++ boundIn rest

end

mutual

/-- The names that a statement declares not to be the fragment's own. -/
def Statement.shared : Statement → List String
  | .share names => names
  | .branch _ yes no => sharedIn yes ++ sharedIn no
  | .loop _ _ body => sharedIn body
  | _ => []

/-- The names that statements declare so. -/
def sharedIn : List Statement → List String
  | [] => []
  | s :: rest => s.shared ++ sharedIn rest

end

/-- The names that a fragment owns: those it binds and does not share. -/
def ownedIn (body : List Statement) : List String :=
  (boundIn body).filter fun name => !(sharedIn body).contains name

end Workflows.Fragment
