import RecordWatch.Distinct
import RecordWatch.Json.Printer
import RecordWatch.Operator
import RecordWatch.Property.Kind
import RecordWatch.Text.Quoted

/-! Triggers: trees of conditions on the change of one record. A node that makes no sense keeps its
place in the tree together with what is wrong with it. -/

namespace RecordWatch

/-- A comparator and the operand it is applied to. -/
structure Comparison where
  operator : Operator
  operand : Json
deriving Inhabited

/-- How the verdicts on the elements of a rollup are combined. -/
inductive Quantifier where
  | any
  | every
  | no
deriving DecidableEq, Inhabited

namespace Quantifier

/-- The name of a quantifier in a condition. -/
def name : Quantifier → String
  | .any => "any"
  | .every => "every"
  | .no => "none"

/-- The quantifier of a name. -/
def ofName? (name : String) : Option Quantifier :=
  [any, every, no].find? fun quantifier => quantifier.name == name

end Quantifier

/-- A condition on the value of one property, by the kind of the property. -/
inductive Condition where
  | simple (kind : Kind) (comparison : Comparison)
  | formula (result : FormulaType) (comparison : Comparison)
  | rollupNumber (comparison : Comparison)
  | rollupDate (comparison : Comparison)
  | quantified (quantifier : Quantifier) (inner : Condition)
deriving Inhabited

/-- What is wrong with a condition. -/
inductive ConditionProblem where
  | missing
  | ambiguous (keys : List String)
  | unsupportedKind (name : String)
  | notAnObject (what : String) (raw : Json)
  | unknownResult (key : String)
  | unknownRollup (key : String)
  | unknownOperator (name : String)

namespace ConditionProblem

/-- The text of the problem. -/
def message : ConditionProblem → String
  | .missing => "missing condition"
  | .ambiguous keys => "ambiguous condition with keys " ++ Quoted.list keys
  | .unsupportedKind name => "unsupported property kind: " ++ name
  | .notAnObject what raw => what ++ " must be an object, got " ++ raw.compact
  | .unknownResult key => "unknown formula result type `" ++ key ++ "`"
  | .unknownRollup key =>
    "rollup condition `" ++ key ++ "` needs one of number, date, any, every, none"
  | .unknownOperator name => "unknown comparator `" ++ name ++ "`"

end ConditionProblem

/-- What is wrong with a trigger node. -/
inductive TriggerProblem where
  | notAnObject (raw : Json)
  | childrenNotArray (key : String)
  | noChildren (key : String)
  | unrecognized (keys : List String)
  | propertyNotString (raw : Json)
  | condition (property : String) (problem : ConditionProblem)

namespace TriggerProblem

/-- The text of the problem. -/
def message : TriggerProblem → String
  | .notAnObject raw => "trigger node must be an object, got " ++ raw.compact
  | .childrenNotArray key => "`" ++ key ++ "` must hold an array of trigger nodes"
  | .noChildren key => "`" ++ key ++ "` needs at least one trigger node"
  | .unrecognized keys => "unrecognized trigger node with keys " ++ Quoted.list keys
  | .propertyNotString raw => "`property` must be a string, got " ++ raw.compact
  | .condition property problem => "property `" ++ property ++ "`: " ++ problem.message

end TriggerProblem

/-- A trigger. -/
inductive Trigger where
  | and (children : List Trigger)
  | or (children : List Trigger)
  | created
  | property (name : String) (condition : Condition)
  | invalid (problem : TriggerProblem)

instance : Inhabited Trigger := ⟨.created⟩

namespace Trigger

mutual

/-- The names of the properties in a tree, from left to right. -/
def mentions : Trigger → List String
  | .and children => mentionsOf children
  | .or children => mentionsOf children
  | .property name _ => [name]
  | .created => []
  | .invalid _ => []

/-- The names of the properties in a list of trees. -/
def mentionsOf : List Trigger → List String
  | [] => []
  | child :: rest => mentions child ++ mentionsOf rest

end

/-- The properties a trigger reads. -/
def properties (trigger : Trigger) : List String := distinct trigger.mentions

mutual

/-- What is wrong with the nodes of a tree, from left to right. -/
def problems : Trigger → List TriggerProblem
  | .and children => problemsOf children
  | .or children => problemsOf children
  | .invalid problem => [problem]
  | .created => []
  | .property _ _ => []

/-- What is wrong with the nodes of a list of trees. -/
def problemsOf : List Trigger → List TriggerProblem
  | [] => []
  | child :: rest => problems child ++ problemsOf rest

end

end Trigger

end RecordWatch
