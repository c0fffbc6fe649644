import CallSieve.Group
import CallSieve.Matcher.Clause

namespace CallSieve

/-- A ready-made group for a family of well-known APIs. Entries are in the order of their codes. -/
inductive Entry where
  | sqlInjection
  | stringPrimitiveConstructor
  | randomFloatToInt
  | sessionAttribute
  | inappropriateRegexp
  | streamPeek
  | envVariables
  deriving DecidableEq, Repr

inductive PresetError where
  | matcher (code : String) (e : BuildError)
  | id (code : String) (e : IdError)
  deriving DecidableEq, Repr

def PresetError.message : PresetError → String
  | matcher code e => "preset " ++ code ++ ": " ++ e.message
  | id code e => "preset " ++ code ++ ": " ++ e.message

namespace Entry

def all : List Entry :=
  [sqlInjection, stringPrimitiveConstructor, randomFloatToInt, sessionAttribute, inappropriateRegexp,
    streamPeek, envVariables]

def code : Entry → String
  | sqlInjection => "S2077"
  | stringPrimitiveConstructor => "S2129"
  | randomFloatToInt => "S2140"
  | sessionAttribute => "S2441"
  | inappropriateRegexp => "S2639"
  | streamPeek => "S3864"
  | envVariables => "S5304"

def name : Entry → String
  | sqlInjection => "sql-injection"
  | stringPrimitiveConstructor => "string-primitive-constructor"
  | randomFloatToInt => "random-float-to-int"
  | sessionAttribute => "session-attribute"
  | inappropriateRegexp => "inappropriate-regexp"
  | streamPeek => "stream-peek"
  | envVariables => "env-variables"

def description : Entry → String
  | sqlInjection => "Formatting SQL queries is security-sensitive"
  | stringPrimitiveConstructor =>
    "Constructors should not be used to instantiate \"String\", \"BigInteger\", \"BigDecimal\" and primitive-wrapper classes"
  | randomFloatToInt =>
    "Methods of \"Random\" that return floating point values should not be used in random integer generation"
  | sessionAttribute => "Non-serializable objects should not be stored in \"HttpSession\" objects"
  | inappropriateRegexp => "Inappropriate regular expressions should not be used"
  | streamPeek => "\"Stream.peek\" should be used with caution"
  | envVariables => "Using environment variables is security-sensitive"

def message : Entry → String
  | sqlInjection => "Ensure that string concatenation is required and safe for this SQL query."
  | stringPrimitiveConstructor => "Remove this constructor."
  | randomFloatToInt => "Use \"nextInt()\" instead."
  | sessionAttribute => "Make sure the stored object is serializable or don't store it in the session."
  | inappropriateRegexp => "Correct this regular expression."
  | streamPeek => "Remove this use of \"Stream.peek\"."
  | envVariables => "Make sure that environment variables are used safely here."

def severity : Entry → Severity
  | sqlInjection => .error
  | stringPrimitiveConstructor => .warning
  | randomFloatToInt => .warning
  | sessionAttribute => .warning
  | inappropriateRegexp => .error
  | streamPeek => .warning
  | envVariables => .warning

/-! ### APIs, each a type with methods on it -/

def hibernateSession : String × List String := ("org.hibernate.Session", ["createQuery", "createSQLQuery"])

def sqlStatement : String × List String :=
  ("java.sql.Statement", ["executeQuery", "execute", "executeUpdate", "executeLargeUpdate", "addBatch"])

def sqlConnection : String × List String :=
  ("java.sql.Connection", ["prepareStatement", "prepareCall", "nativeSQL"])

def entityManager : String × List String :=
  ("javax.persistence.EntityManager", ["createNativeQuery", "createQuery"])

def jdbcOperations : String × List String :=
  ("org.springframework.jdbc.core.JdbcOperations",
    ["batchUpdate", "execute", "query", "queryForList", "queryForMap", "queryForObject", "queryForRowSet",
      "queryForInt", "queryForLong", "update"])

def statementFactory : String × List String :=
  ("org.springframework.jdbc.core.PreparedStatementCreatorFactory", ["newPreparedStatementCreator"])

def persistenceManager : String × List String := ("javax.jdo.PersistenceManager", ["newQuery"])

def jdoQuery : String × List String := ("javax.jdo.Query", ["setFilter", "setGrouping"])

/-- Types with the parameter of their constructor that has a better substitute. -/
def boxedConstructors : List (String × String) :=
  [("java.lang.String", "java.lang.String"), ("java.lang.Byte", "byte"), ("java.lang.Character", "char"),
    ("java.lang.Short", "short"), ("java.lang.Integer", "int"), ("java.lang.Long", "long"),
    ("java.lang.Float", "float"), ("java.lang.Double", "double"), ("java.lang.Boolean", "boolean"),
    ("java.math.BigInteger", "java.lang.String")]

def randomSources : List String :=
  ["java.util.Random", "org.apache.commons.lang.math.JVMRandom", "org.apache.commons.lang.math.RandomUtils",
    "org.apache.commons.lang3.RandomUtils"]

def streamTypes : List String :=
  ["java.util.stream.Stream", "java.util.stream.IntStream", "java.util.stream.LongStream",
    "java.util.stream.DoubleStream"]

variable {τ : Type}

/-- The methods of an API, on its type and all that is below it. -/
def callsBelow (api : String × List String) : List (Clause τ) :=
  [.ofSubtype api.1, .namedOneOf api.2, .withAnyParameters]

/-- The methods of an API, on its type alone. -/
def callsOn (api : String × List String) : List (Clause τ) :=
  [.ofType api.1, .namedOneOf api.2, .withAnyParameters]

/-- The methods of an API and the constructors of its type, on this type alone. -/
def callsAndConstructorsOn (api : String × List String) : List (Clause τ) :=
  [.ofType api.1, .constructors, .namedOneOf api.2, .withAnyParameters]

/-- The clauses of each alternative of an entry. -/
def chains : Entry → List (List (Clause τ))
  | sqlInjection => [
      callsBelow hibernateSession,
      callsBelow sqlStatement,
      callsBelow sqlConnection,
      callsOn entityManager,
      callsBelow jdbcOperations,
      callsAndConstructorsOn statementFactory,
      callsBelow persistenceManager,
      callsBelow jdoQuery]
  | stringPrimitiveConstructor =>
    [.ofType "java.lang.String", .constructors, .withoutParameters]
      :: boxedConstructors.map fun (type, parameter) => [.ofType type, .constructors, .withParameters [parameter]]
  | randomFloatToInt => [
      [.ofType "java.lang.Math", .named "random", .withoutParameters],
      [.ofTypes randomSources, .namedOneOf ["nextDouble", "nextFloat"], .withoutParameters],
      [.ofType "java.util.concurrent.ThreadLocalRandom", .named "nextDouble", .withAnyParameters]]
  | sessionAttribute => [
      [.ofType "javax.servlet.http.HttpSession", .named "setAttribute",
        .withParameterCriteria [.exact "java.lang.String", .any]]]
  | inappropriateRegexp => [callsOn ("java.lang.String", ["replaceAll", "replaceFirst"])]
  | streamPeek => [[.ofTypes streamTypes, .named "peek", .withAnyParameters]]
  | envVariables => [
      [.ofType "java.lang.System", .named "getenv", .withAnyParameters],
      [.ofType "java.lang.ProcessBuilder", .named "environment", .withoutParameters],
      [.ofType "java.lang.Runtime", .named "exec", .withAnyParameters]]

/-- Builds one alternative after the other. The first that does not build decides the error. -/
def build (e : Entry) : Except BuildError (Matchers τ) := do
  return .or (← e.chains.mapM fun clauses => return .single (← Matcher.ofClauses clauses))

def buildGroup (e : Entry) : Except PresetError (MatcherGroup τ) := do
  let matchers ← e.build.mapError (.matcher e.code)
  let id ← (MatcherId.ofString e.code).mapError (.id e.code)
  return ⟨id, matchers, e.message, e.severity⟩

/-- The code is an id. -/
def id (e : Entry) : MatcherId := ⟨e.code, by cases e <;> rfl, by cases e <;> rfl⟩

/-- What `build` comes to, since each alternative builds: all that the clauses add. -/
def matchers (e : Entry) : Matchers τ := ⟨e.chains.map .collected⟩

/-- What `buildGroup` comes to. -/
def group (e : Entry) : MatcherGroup τ := ⟨e.id, e.matchers, e.message, e.severity⟩

def find? (key : String) : Option Entry := all.find? fun e => e.name == key || e.code == key

/-- The entries of codes, in the order of the catalog. -/
def withCodes (codes : List String) : List Entry := all.filter fun e => codes.contains e.code

end Entry

end CallSieve
