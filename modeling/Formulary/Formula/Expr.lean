import Formulary.Value

/-!
# Expressions

The syntax trees of formulas. An expression has no effects: it reads variables, computes, and
calls builtin functions.

## Main definitions

* `UnaryOp`, `BinaryOp`, `Builtin` : the operators and the functions;
* `Expr` : an expression;
* `Expr.references` : the variables that an expression reads.
-/
namespace Formulary

inductive UnaryOp
  | negative | positive | not
deriving DecidableEq, Repr, Inhabited

inductive BinaryOp
  | add | sub | mul | div | mod | pow
  | less | lessEqual | greater | greaterEqual | equal | notEqual
  | and | or | nullish
deriving DecidableEq, Repr, Inhabited

def BinaryOp.symbol : BinaryOp → String
  | .add => "+"
  | .sub => "-"
  | .mul => "*"
  | .div => "/"
  | .mod => "%"
  | .pow => "**"
  | .less => "<"
  | .lessEqual => "<="
  | .greater => ">"
  | .greaterEqual => ">="
  | .equal => "=="
  | .notEqual => "!="
  | .and => "&&"
  | .or => "||"
  | .nullish => "??"

inductive Builtin
  | abs | addDays | avg | ceil | clamp | coalesce | concat | date | day | daysBetween | floor
  | len | lower | max | min | month | num | pow | round | sign | sqrt | str | sum | trim | trunc
  | upper | year
deriving DecidableEq, Repr, Inhabited

namespace Builtin

def name : Builtin → String
  | abs => "abs"
  | addDays => "add_days"
  | avg => "avg"
  | ceil => "ceil"
  | clamp => "clamp"
  | coalesce => "coalesce"
  | concat => "concat"
  | date => "date"
  | day => "day"
  | daysBetween => "days_between"
  | floor => "floor"
  | len => "len"
  | lower => "lower"
  | max => "max"
  | min => "min"
  | month => "month"
  | num => "num"
  | pow => "pow"
  | round => "round"
  | sign => "sign"
  | sqrt => "sqrt"
  | str => "str"
  | sum => "sum"
  | trim => "trim"
  | trunc => "trunc"
  | upper => "upper"
  | year => "year"

def all : List Builtin :=
  [abs, addDays, avg, ceil, clamp, coalesce, concat, date, day, daysBetween, floor, len, lower,
   max, min, month, num, pow, round, sign, sqrt, str, sum, trim, trunc, upper, year]

def ofName? (name : String) : Option Builtin := all.find? fun f => f.name == name

theorem mem_all (f : Builtin) : f ∈ all := by cases f <;> decide

end Builtin

/-- An expression. -/
inductive Expr
  | const (value : Value)
  | var (name : String)
  | member (base : Expr) (name : String)
  | index (base position : Expr)
  | unary (op : UnaryOp) (operand : Expr)
  | binary (op : BinaryOp) (left right : Expr)
  | conditional (condition yes no : Expr)
  | array (items : List Expr)
  | object (entries : List (String × Expr))
  | call (function : Builtin) (arguments : List Expr)
deriving Inhabited

def mathName : String := "Math"

namespace Expr

/-- Whether an expression is the name of the constants. -/
def isMath : Expr → Bool
  | .var name => name == mathName
  | _ => false

mutual

/-- The variables that an expression reads, from left to right. A member of `Math` is a
constant, and no variable is read for it. -/
def reads : Expr → List String
  | .const _ => []
  | .var name => [name]
  | .member base _ => if base.isMath then [] else base.reads
  | .index base position => base.reads ++ position.reads
  | .unary _ operand => operand.reads
  | .binary _ left right => left.reads ++ right.reads
  | .conditional condition yes no => condition.reads ++ yes.reads ++ no.reads
  | .array items => readsItems items
  | .object entries => readsEntries entries
  | .call _ arguments => readsItems arguments

def readsItems : List Expr → List String
  | [] => []
  | item :: rest => item.reads ++ readsItems rest

def readsEntries : List (String × Expr) → List String
  | [] => []
  | (_, item) :: rest => item.reads ++ readsEntries rest

end

/-- The variables that an expression reads, ascending, each once. -/
def references (e : Expr) : List String :=
  (NameMap.ofEntries (e.reads.map fun name => (name, ()))).names

theorem mem_references {e : Expr} {name : String} : name ∈ e.references ↔ name ∈ e.reads := by
  simp [references, NameMap.mem_names_ofEntries]

end Expr

end Formulary
