import Formulary.Template
import Formulary.Validation

/-!
# Checking templates

What an author can mend in a template, found without running it: definitions that contradict
themselves, formulas that cannot be parsed, and formulas that read names which are not bound when
they are evaluated.

## Main definitions

* `Issue` : a finding and what it concerns;
* `PrimaryKeys` : the names that the primary formula adds to the results;
* `Template.check` : the findings of a template.
-/
namespace Formulary

/-- What a finding concerns. -/
inductive Subject
  | template | primaryFormula
  | parameter (name : String)
deriving DecidableEq, Repr

inductive Finding
  | templateUnnamed | parameterUnnamed | duplicateName
  | inputWithFormula
  | derivedWithoutFormula (role : Role)
  | derivedRequired
  | boundsOn (type : DataType)
  | boundsInverted (low high : Float)
  | patternOn (type : DataType)
  | patternInvalid (pattern : String) (refusal : Pattern.Refusal)
  | nothingAllowed
  | allowedOn (type : DataType)
  | formula (error : FormulaError)
  | readsUnknown (name : String)
  | readsOutput (name : String)
  | readsTooEarly (name : String)
  | cycle (c : Cycle)

def Finding.message : Finding → String
  | .templateUnnamed => "template name is empty"
  | .parameterUnnamed => "a parameter has an empty name"
  | .duplicateName => "duplicate parameter name"
  | .inputWithFormula => "input parameters cannot have a formula"
  | .derivedWithoutFormula role => s!"{role.name} parameters need a formula"
  | .derivedRequired => "only input parameters can be required"
  | .boundsOn type => s!"min/max bounds on a {type.name} parameter"
  | .boundsInverted low high =>
    s!"min value {Number.plain.write low} is greater than max value {Number.plain.write high}"
  | .patternOn type => s!"regex pattern on a {type.name} parameter"
  | .patternInvalid pattern refusal => s!"invalid regex pattern: {patternMessage pattern refusal}"
  | .nothingAllowed => "enum parameter without allowed values"
  | .allowedOn type => s!"allowed values on a {type.name} parameter"
  | .formula error => error.message
  | .readsUnknown name => s!"references unknown name '{name}'"
  | .readsOutput name => s!"references output '{name}', which is not available yet"
  | .readsTooEarly name => s!"references '{name}' before it is declared"
  | .cycle c => c.message

/-- A finding, and what it concerns. -/
structure Issue where
  subject : Subject
  finding : Finding

namespace Issue

def parameter? (i : Issue) : Option String :=
  match i.subject with
  | .parameter name => some name
  | .template | .primaryFormula => none

def message (i : Issue) : String :=
  match i.subject, i.finding with
  | .primaryFormula, .formula error => s!"primary formula: {error.message}"
  | .primaryFormula, finding => s!"primary formula {finding.message}"
  | _, finding => finding.message

def text (i : Issue) : String :=
  match i.parameter? with
  | some name => name ++ ": " ++ i.message
  | none => i.message

end Issue

namespace Parameter

def constraintFindings (p : Parameter) : List Finding :=
  let type := p.dataType
  (if p.hasFormulaIfDerived then []
    else if p.isInput then [.inputWithFormula] else [.derivedWithoutFormula p.role])
  ++ (if p.isRequired && !p.isInput then [.derivedRequired] else [])
  ++ (if (p.minValue.isSome || p.maxValue.isSome) && type != .number then [.boundsOn type] else [])
  ++ (match p.minValue, p.maxValue with
    | some low, some high => if high < low then [.boundsInverted low high] else []
    | _, _ => [])
  ++ (match p.pattern with
    | some pattern =>
      (if type != .string then [.patternOn type] else [])
      ++ (match Pattern.compileAnchored pattern with
        | .ok _ => []
        | .error refusal => [.patternInvalid pattern refusal])
    | none => [])
  ++ (if type == .enum then if p.allowedValues.isEmpty then [.nothingAllowed] else []
    else if p.allowedValues.isEmpty then [] else [.allowedOn type])

end Parameter

/-- The names that the primary formula adds to the results. -/
inductive PrimaryKeys
  | known (names : List String)
  /-- The names are known when the formula has been evaluated. -/
  | computed

namespace PrimaryKeys

def admits (name : String) : PrimaryKeys → Bool
  | .known names => names.contains name
  | .computed => true

/-- The names that a primary formula adds, as far as its outermost form tells. -/
def ofExpr : Expr → PrimaryKeys
  | .object entries => .known (entries.map (·.1))
  | .const _ | .array _ | .unary .. | .binary .. | .call .. => .known [primaryName]
  | .var _ | .member .. | .index .. | .conditional .. => .computed

end PrimaryKeys

namespace Template

def declared? (t : Template) (name : String) : Option Placed :=
  t.placed.find? fun m => m.name == name

/-- Whether the primary formula may read a name. -/
def visibleToPrimary (t : Template) (name : String) : Bool :=
  match t.declared? name with
  | some m => m.parameter.role != .output
  | none => false

/-- Whether the formula of the parameter at `place` may read a name. Inputs are visible always;
internals and outputs are visible to those that come after them, and internals to all outputs. -/
def visibleTo (t : Template) (order : EvaluationOrder) (reader : Role) (place : Nat)
    (name : String) : Bool :=
  match t.declared? name with
  | none => false
  | some m =>
    let sequenced := order == .dependency || m.place < place
    match m.parameter.role with
    | .input => true
    | .internal => reader == .output || sequenced
    | .output => reader == .output && sequenced

/-- Why a formula must not read a name. -/
def describeHidden (t : Template) (name : String) : Finding :=
  match t.declared? name with
  | none => .readsUnknown name
  | some m => if m.parameter.role == .output then .readsOutput name else .readsTooEarly name

/-- The issues of names and definitions, parameter by parameter. The names that came before are
in `seen`. -/
def definitionIssues : (seen : List String) → List Parameter → List Issue
  | _, [] => []
  | seen, p :: rest =>
    let unnamed := Text.allBlank p.name
    (if unnamed then [⟨.template, .parameterUnnamed⟩]
      else if seen.contains p.name then [⟨.parameter p.name, .duplicateName⟩]
      else [])
    ++ p.constraintFindings.map (⟨.parameter p.name, ·⟩)
    ++ definitionIssues (if unnamed then seen else p.name :: seen) rest

def primaryIssues (t : Template) : Except FormulaError Expr → List Issue
  | .error e => [⟨.primaryFormula, .formula e⟩]
  | .ok e =>
    (e.references.filter fun name => !t.visibleToPrimary name).map fun name =>
      ⟨.primaryFormula, t.describeHidden name⟩

/-- Whether a derived parameter may read a name; outputs may also read the names of the primary
result, which are `keys` if the primary formula can be parsed. -/
def mayRead (t : Template) (order : EvaluationOrder) (keys : Option PrimaryKeys) (m : Placed)
    (name : String) : Bool :=
  t.visibleTo order m.parameter.role m.place name ||
    (m.parameter.role != .internal && keys.all (PrimaryKeys.admits name))

def formulaIssues (t : Template) (engine : Engine) (keys : Option PrimaryKeys) (m : Placed) :
    List Issue :=
  if m.parameter.isInput then []
  else
    match m.parameter.formulaSource? with
    | none => []
    | some source =>
      match Formula.parse engine.limits source with
      | .error e => [⟨.parameter m.name, .formula e⟩]
      | .ok e =>
        (e.references.filter fun name => !t.mayRead engine.order keys m name).map fun name =>
          ⟨.parameter m.name, t.describeHidden name⟩

def cycleIssues (t : Template) (engine : Engine) (role : Role) : List Issue :=
  match sequence engine.limits engine.order (t.withRole role) with
  | .ok _ => []
  | .error c => [⟨.parameter c.head, .cycle c⟩]

/-- All issues of a template: names and definitions first, then formulas, then circles. -/
def check (t : Template) (engine : Engine) : List Issue :=
  let primary := Formula.parse engine.limits t.formula
  let keys := primary.toOption.map PrimaryKeys.ofExpr
  (if Text.allBlank t.name then [⟨.template, .templateUnnamed⟩] else [])
  ++ definitionIssues [] t.parameters
  ++ t.primaryIssues primary
  ++ t.placed.flatMap (t.formulaIssues engine keys)
  ++ t.cycleIssues engine .internal ++ t.cycleIssues engine .output

end Template

end Formulary
