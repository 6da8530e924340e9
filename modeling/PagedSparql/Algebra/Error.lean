/-!
# Errors of queries

Why a query cannot be planned.
-/

namespace PagedSparql

/-- What is wrong with the form of a query. -/
inductive AlgebraFault where
  /-- The text is not JSON, or the value has not the form of a query. -/
  | malformed
  /-- An inverse path over more or less than one path. -/
  | inverseArity (items : Nat)
  deriving DecidableEq

/-- Why a query cannot be planned. -/
inductive BuildError where
  /-- A node that plans do not know. -/
  | unsupportedNode (kind : String)
  /-- A service whose name is not the address of an endpoint. -/
  | invalidService (name : String)
  /-- A query that has not the form of one. -/
  | invalidAlgebra (fault : AlgebraFault)
  /-- A query form inside a graph pattern. -/
  | unsupportedForm (kind : String)
  deriving DecidableEq

/-- The wording of a fault. -/
def AlgebraFault.message : AlgebraFault → String
  | .malformed => "malformed query"
  | .inverseArity items => "inverse path with " ++ toString items ++ " items"

/-- The text of a build error. -/
def BuildError.message : BuildError → String
  | .unsupportedNode kind => "Unsupported algebra node: " ++ kind
  | .invalidService name => "Invalid SERVICE IRI (expected an http or https IRI): " ++ name
  | .invalidAlgebra fault => "Invalid algebra: " ++ fault.message
  | .unsupportedForm kind => "Query form not allowed inside a graph pattern: " ++ kind

end PagedSparql
