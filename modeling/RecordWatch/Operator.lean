/-! The comparators that a condition can name. -/

namespace RecordWatch

/-- A comparator. -/
inductive Operator where
  | equals
  | doesNotEqual
  | contains
  | doesNotContain
  | startsWith
  | endsWith
  | isEmpty
  | isNotEmpty
  | lessThan
  | greaterThan
  | lessThanOrEqualTo
  | greaterThanOrEqualTo
  | before
  | after
  | onOrBefore
  | onOrAfter
  | pastWeek
  | pastMonth
  | pastYear
  | nextWeek
  | nextMonth
  | nextYear
  | thisWeek
deriving DecidableEq, Inhabited

namespace Operator

/-- Every comparator. -/
def all : List Operator :=
  [.equals, .doesNotEqual, .contains, .doesNotContain, .startsWith, .endsWith, .isEmpty,
    .isNotEmpty, .lessThan, .greaterThan, .lessThanOrEqualTo, .greaterThanOrEqualTo, .before,
    .after, .onOrBefore, .onOrAfter, .pastWeek, .pastMonth, .pastYear, .nextWeek, .nextMonth,
    .nextYear, .thisWeek]

/-- The name of a comparator in a condition. -/
def name : Operator → String
  | .equals => "equals"
  | .doesNotEqual => "does_not_equal"
  | .contains => "contains"
  | .doesNotContain => "does_not_contain"
  | .startsWith => "starts_with"
  | .endsWith => "ends_with"
  | .isEmpty => "is_empty"
  | .isNotEmpty => "is_not_empty"
  | .lessThan => "less_than"
  | .greaterThan => "greater_than"
  | .lessThanOrEqualTo => "less_than_or_equal_to"
  | .greaterThanOrEqualTo => "greater_than_or_equal_to"
  | .before => "before"
  | .after => "after"
  | .onOrBefore => "on_or_before"
  | .onOrAfter => "on_or_after"
  | .pastWeek => "past_week"
  | .pastMonth => "past_month"
  | .pastYear => "past_year"
  | .nextWeek => "next_week"
  | .nextMonth => "next_month"
  | .nextYear => "next_year"
  | .thisWeek => "this_week"

/-- The comparator of a name. -/
def ofName? (name : String) : Option Operator := all.find? fun operator => operator.name == name

end Operator

end RecordWatch
