import PagedSparql.Rdf.Variable

/-!
# Evaluation errors

Why an expression has no value for a row. An error never stops a query: a filter drops the row, a
projected column stays unbound. `EvalError.message` is the only place that words them.
-/

namespace PagedSparql

/-- A value of the wrong type. -/
inductive TypeFault where
  /-- The term has no effective boolean value. -/
  | noBoolean (t : Term)
  /-- A boolean with another value than the four known ones. -/
  | invalidBoolean (value : String)
  /-- The term is not a number. -/
  | notNumeric (t : Term)
  /-- A blank node has no string. -/
  | stringOfBlank
  /-- The term does not name an IRI. -/
  | noIri (t : Term)
  /-- The terms have no common order. -/
  | incomparable (left right : Term)
  /-- A dateTime with and one without a timezone. -/
  | indeterminate
  /-- The term is not a string. -/
  | notString (t : Term)
  /-- Two strings with different language tags. -/
  | incompatibleStrings
  /-- Flags that are not a string without language tag. -/
  | flagsNotPlain
  /-- The term has no digest. -/
  | notHashable (t : Term)
  /-- The term is not a dateTime. -/
  | notDateTime (t : Term)
  /-- A timezone that is not a literal. -/
  | timezoneNotLiteral
  deriving DecidableEq

/-- An argument of the right type that the function does not take. -/
inductive ArgumentFault where
  /-- The result does not fit in 64 bits. -/
  | integerOverflow
  /-- A pattern that is not a regular expression. -/
  | invalidPattern (pattern : String)
  /-- A flag that no regular expression knows. -/
  | unknownFlag (flag : Char)
  /-- A pattern that matches the empty text cannot be replaced. -/
  | matchesEmpty
  /-- The dateTime has no timezone. -/
  | noTimezone
  /-- The text is not the duration of a timezone. -/
  | invalidTimezone (text : String)
  /-- The term has no value of the datatype. -/
  | cannotCast (t : Term) (datatype : String)
  /-- An aggregate where no group is. -/
  | aggregateOutsideGroup (name : String)
  /-- No alternative has a value. -/
  | noAlternative
  /-- An aggregate that has no value for a group without values. -/
  | emptyGroup (name : String)
  deriving DecidableEq

/-- Why an expression has no value. -/
inductive EvalError where
  /-- The variable has no value in the row. -/
  | unbound (v : Variable)
  /-- A value of the wrong type. -/
  | type (fault : TypeFault)
  /-- A division by zero. -/
  | divisionByZero
  /-- A function that does not exist. -/
  | unknownFunction (name : String)
  /-- A function with the wrong number or form of arguments. -/
  | arity (name : String)
  /-- An argument that the function does not take. -/
  | argument (fault : ArgumentFault)
  deriving DecidableEq

/-- The wording of a type fault. -/
def TypeFault.message : TypeFault → String
  | .noBoolean t => "no boolean value for " ++ t.toQuery
  | .invalidBoolean value => "invalid boolean " ++ value
  | .notNumeric t => t.toQuery ++ " is not numeric"
  | .stringOfBlank => "STR of a blank node"
  | .noIri t => "IRI of " ++ t.toQuery
  | .incomparable left right => "cannot compare " ++ left.toQuery ++ " with " ++ right.toQuery
  | .indeterminate => "indeterminate dateTime comparison"
  | .notString t => t.toQuery ++ " is not a string literal"
  | .incompatibleStrings => "incompatible string arguments"
  | .flagsNotPlain => "regex flags must be a simple literal"
  | .notHashable t => "cannot hash " ++ t.toQuery
  | .notDateTime t => t.toQuery ++ " is not an xsd:dateTime"
  | .timezoneNotLiteral => "timezone must be a literal"

/-- The wording of an argument fault. -/
def ArgumentFault.message : ArgumentFault → String
  | .integerOverflow => "integer overflow"
  | .invalidPattern pattern => "invalid regular expression " ++ pattern
  | .unknownFlag flag => "unknown regex flag " ++ String.singleton flag
  | .matchesEmpty => "pattern matches the empty string"
  | .noTimezone => "dateTime without timezone"
  | .invalidTimezone text => "invalid timezone " ++ text
  | .cannotCast t datatype => "cannot cast " ++ t.toQuery ++ " to " ++ datatype
  | .aggregateOutsideGroup name => "aggregate " ++ name ++ " outside of a group"
  | .noAlternative => "no argument has a value"
  | .emptyGroup name => name ++ " of an empty group"

/-- The text of an evaluation error. -/
def EvalError.message : EvalError → String
  | .unbound v => "Unbound variable: " ++ v.toText
  | .type fault => "Type error: " ++ fault.message
  | .divisionByZero => "Division by zero"
  | .unknownFunction name => "Unknown function: " ++ name
  | .arity name => "Wrong number of arguments for " ++ name
  | .argument fault => "Invalid argument: " ++ fault.message

end PagedSparql
