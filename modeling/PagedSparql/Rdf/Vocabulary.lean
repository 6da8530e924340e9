/-!
# Well-known IRIs

The names of the XML Schema datatypes and of the RDF terms that the engine treats specially.
-/

namespace PagedSparql.Vocabulary

/-- The namespace of the XML Schema datatypes. -/
def xsd : String := "http://www.w3.org/2001/XMLSchema#"

/-- The datatype of strings, which literals carry implicitly. -/
def xsdString : String := "http://www.w3.org/2001/XMLSchema#string"

/-- The datatype of booleans. -/
def xsdBoolean : String := "http://www.w3.org/2001/XMLSchema#boolean"

/-- The datatype of integers. -/
def xsdInteger : String := "http://www.w3.org/2001/XMLSchema#integer"

/-- The datatype of decimals. -/
def xsdDecimal : String := "http://www.w3.org/2001/XMLSchema#decimal"

/-- The datatype of single precision numbers. -/
def xsdFloat : String := "http://www.w3.org/2001/XMLSchema#float"

/-- The datatype of double precision numbers. -/
def xsdDouble : String := "http://www.w3.org/2001/XMLSchema#double"

/-- The datatype of dates with a time of day. -/
def xsdDateTime : String := "http://www.w3.org/2001/XMLSchema#dateTime"

/-- The datatype of durations without years and months. -/
def xsdDayTimeDuration : String := "http://www.w3.org/2001/XMLSchema#dayTimeDuration"

/-- The datatype of strings with a language tag. -/
def rdfLangString : String := "http://www.w3.org/1999/02/22-rdf-syntax-ns#langString"

end PagedSparql.Vocabulary
