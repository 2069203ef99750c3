import Formulary.Formula.Parser
import Formulary.Parameter
import Formulary.Uuid

/-!
# Templates

A template is a reusable calculation: parameters and a primary formula.

The derived parameters of one role are evaluated as they are declared, or so that each comes
after those that its formula reads. Of the parameters that can come next, the one that is
declared first does. When none can, some of them read each other in a circle.

## Main definitions

* `EvaluationOrder` : which of the two orders;
* `Placed` : a parameter and its place in the template;
* `Cycle` : names that read each other in a circle;
* `sequence` : the parameters of a group in order;
* `Template` : the definition of a calculation;
* `Template.withRole` : its parameters of one role, with their places;
* `Engine` : how templates are evaluated.
-/
namespace Formulary

/-! ### The order of derived parameters -/

inductive EvaluationOrder
  /-- As they are declared. -/
  | declared
  /-- Each after those that its formula reads. -/
  | dependency
deriving DecidableEq, Repr, Inhabited

namespace EvaluationOrder

def name : EvaluationOrder → String
  | .declared => "declared"
  | .dependency => "dependency"

def all : List EvaluationOrder := [.declared, .dependency]

def ofName (text : String) : Except UnknownName EvaluationOrder :=
  chooseByName .evaluationOrder name all text

end EvaluationOrder

/-- The names that the formula of a parameter reads, ascending; none when it cannot be
parsed. -/
def Parameter.reads (limits : Limits) (p : Parameter) : List String :=
  match p.formulaSource? with
  | none => []
  | some source =>
    match Formula.parse limits source with
    | .ok e => e.references
    | .error _ => []

/-- A parameter and its place in the list of a template. -/
structure Placed where
  place : Nat
  parameter : Parameter
deriving Inhabited

namespace Placed

def name (m : Placed) : String := m.parameter.name

theorem map_name (members : List Placed) :
    (members.map parameter).map Parameter.name = members.map name := by
  rw [List.map_map]
  rfl

def ofList (parameters : List Parameter) : List Placed :=
  parameters.zipIdx.map fun (p, i) => ⟨i, p⟩

/-- The names that the formula of a placed parameter reads. -/
def reads (limits : Limits) (m : Placed) : List String := m.parameter.reads limits

end Placed

/-- Names that read each other in a circle; the first one comes again at the end. -/
structure Cycle where
  path : List String
deriving DecidableEq, Repr

namespace Cycle

/-- The name that a circle is reported for. -/
def head (c : Cycle) : String := c.path.headD ""

def message (c : Cycle) : String := "dependency cycle: " ++ String.intercalate " -> " c.path

end Cycle

namespace Schedule

/-- The first member that is ready, and the others as they were. -/
def takeReady? (ready : Placed → Bool) : List Placed → Option (Placed × List Placed)
  | [] => none
  | m :: rest =>
    if ready m then some (m, rest)
    else (takeReady? ready rest).map fun (chosen, others) => (chosen, m :: others)

/-- Go from member to member, at most `fuel` times, until one comes again: the members from
there on. The members so far are `path`. -/
def walk (next : Placed → Option Placed) : (fuel : Nat) → (path : List Placed) → Placed →
    List Placed
  | 0, path, _ => path
  | fuel + 1, path, m =>
    match path.dropWhile fun seen => seen.place != m.place with
    | [] =>
      match next m with
      | some n => walk next fuel (path ++ [m]) n
      | none => path ++ [m]
    | circle => circle ++ [m]

/-- A circle among members none of which is ready. Each leads to the first one that has the
first name it reads. -/
def findCycle (reads : Placed → List String) (pending : List Placed) : Cycle :=
  let next (m : Placed) : Option Placed :=
    (reads m).findSome? fun name => pending.find? fun n => n.name == name
  match pending with
  | [] => ⟨[]⟩
  | first :: _ => ⟨(walk next (pending.length + 1) [] first).map Placed.name⟩

/-- The members that are pending, each after those that it reads; the names in `done` were
evaluated before. In each of at most `count` rounds, one member comes next. -/
def resolve (reads : Placed → List String) : (count : Nat) → (done : List String) →
    (pending : List Placed) → Except Cycle (List Placed)
  | 0, _, _ => .ok []
  | count + 1, done, pending =>
    if pending.isEmpty then .ok []
    else
      match takeReady? (fun m => (reads m).all done.contains) pending with
      | none => .error (findCycle reads pending)
      | some (m, others) => do
        return m :: (← resolve reads count (m.name :: done) others)

end Schedule

/-- The members of a group in order. Only what they read of each other counts. -/
def sequence (limits : Limits) (order : EvaluationOrder) (group : List Placed) :
    Except Cycle (List Placed) :=
  match order with
  | .declared => .ok group
  | .dependency =>
    let names := group.map Placed.name
    let reads (m : Placed) := (m.reads limits).filter names.contains
    Schedule.resolve reads group.length [] group

/-! ### Templates -/

/-- The definition of a calculation. -/
structure Template where
  id : Uuid := .nil
  name : String
  description : Option String := none
  category : Option String := none
  version : Nat := 1
  isActive : Bool := true
  isVerified : Bool := false
  /-- How many results of it were kept. -/
  usageCount : Nat := 0
  /-- The primary formula. -/
  formula : String
  /-- The parameters, in the order of their declaration. -/
  parameters : List Parameter := []
deriving Inhabited

namespace Template

/-- The first parameter of a name. -/
def parameterNamed? (t : Template) (name : String) : Option Parameter :=
  t.parameters.find? fun p => p.name == name

def placed (t : Template) : List Placed := Placed.ofList t.parameters

def withRole (t : Template) (role : Role) : List Placed :=
  t.placed.filter fun m => m.parameter.role == role

def inputs (t : Template) : List Parameter := t.parameters.filter Parameter.isInput

def derivedBy (t : Template) (role : Role) : List Placed :=
  (t.withRole role).filter fun m => m.parameter.formulaSource?.isSome

end Template

/-- The name that a primary result has when it is no object. -/
def primaryName : String := "resultado"

/-- How templates are evaluated. -/
structure Engine where
  limits : Limits := {}
  order : EvaluationOrder := .declared
deriving Inhabited

end Formulary
