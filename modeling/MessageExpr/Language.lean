import MessageExpr.Code
import MessageExpr.Compile
import MessageExpr.Condition
import MessageExpr.Template

/-!
# The language

A language compiles texts to expressions and predicates and keeps what it compiled, so that the
same text gives the same object again.

## Main definitions

* `SyntaxError`, `SyntaxError.shown` — what is wrong with a text
* `Language`, `Language.start` — a language with its caches
* `Language.createExpression`, `Language.createPredicate` — the object of a text
* `Language.expressionCode`, `Language.predicateCode` — the code of a text
* `Language.findFunction`, `Language.storeConstant` — access to the shared functions
-/

namespace MessageExpr

variable [PatternLibrary]

/-- What is wrong with a text, and where, if it is at a place. -/
structure SyntaxError where
  expression : String
  index : Option Nat
  message : String
  deriving DecidableEq, Repr

namespace SyntaxError

/-- The syntax error of a problem. -/
def ofProblem (text : String) (p : Problem) : SyntaxError :=
  ⟨text, some p.index, p.fault.message⟩

/-- The syntax error of nodes that cannot be compiled. -/
def ofCompileError (text : String) : CompileError → SyntaxError
  | .problem p => ofProblem text p
  | .badPattern pattern flaw => ⟨text, none, patternMessage pattern flaw⟩

/-- The text of a syntax error: the message, the text that is meant, and a mark below the place
of the error. -/
def shown (e : SyntaxError) : String :=
  match e.index with
  | some index =>
    let mark := String.ofList (List.replicate index ' ' ++ ['*'])
    s!"{e.message} at location {index}\n{e.expression}\n{mark}"
  | none => s!"{e.message}\n{e.expression}"

end SyntaxError

/-- A language with what it has compiled. -/
structure Language where
  /-- Whether a backslash escapes the character after it. -/
  escapes : Bool
  /-- How many expressions and how many predicates are kept. -/
  capacity : Nat
  expressions : Cache (Object Expr)
  predicates : Cache (Object Predicate)
  /-- The functions shared between expressions, if they are shared, and the number of objects. -/
  workshop : Workshop

namespace Language

/-- A language that has compiled nothing yet. -/
def start (escapes : Bool) (capacity : Nat) (functions : Option (Cache (Object Expr))) :
    Language :=
  ⟨escapes, capacity, .empty capacity, .empty capacity, ⟨functions, 0⟩⟩

/-- How many objects are kept unless something else is asked for. -/
def defaultCapacity : Nat := 1000

/-- Forgets the expressions and predicates. -/
def clear (language : Language) : Language :=
  { language with
    expressions := language.expressions.clear
    predicates := language.predicates.clear }

/-- Sets whether a backslash escapes, and forgets what was compiled. -/
def setEscapes (language : Language) (escapes : Bool) : Language :=
  clear { language with escapes := escapes }

/-- Sets how much is kept, and starts anew with empty caches. -/
def setCapacity (language : Language) (capacity : Nat) : Language :=
  { language with
    capacity := capacity
    expressions := .empty capacity
    predicates := .empty capacity }

/-- The nodes of a template. -/
def templateNodes (language : Language) (text : String) : Except SyntaxError (List Node) :=
  (Template.parse language.escapes text).mapError (SyntaxError.ofProblem text)

/-- The nodes of a condition. -/
def conditionNodes (language : Language) (text : String) : Except SyntaxError (List Node) :=
  (Condition.parse language.escapes text).mapError (SyntaxError.ofProblem text)

/-- Compiles nodes of a text. -/
def compile {α : Type} (language : Language) (text : String) (program : CompileM α) :
    Except SyntaxError α × Language :=
  let (result, workshop) := program.run language.workshop
  (result.mapError (SyntaxError.ofCompileError text), { language with workshop := workshop })

/-! ## Compiling -/

/-- The expression of a text: the one that is kept, or a new one. -/
def createExpression (language : Language) (text : String) :
    Except SyntaxError (Object Expr) × Language :=
  let (found, expressions) := language.expressions.get text
  let language := { language with expressions := expressions }
  match found with
  | some object => (.ok object, language)
  | none =>
    -- Only what could be compiled is kept.
    match language.templateNodes text with
    | .error e => (.error e, language)
    | .ok nodes =>
      match language.compile text (Compile.expression nodes) with
      | (.error e, language) => (.error e, language)
      | (.ok object, language) =>
        (.ok object,
          { language with expressions := language.expressions.put text object })

/-- The predicate of a text: the one that is kept, or a new one. -/
def createPredicate (language : Language) (text : String) :
    Except SyntaxError (Object Predicate) × Language :=
  let (found, predicates) := language.predicates.get text
  let language := { language with predicates := predicates }
  match found with
  | some object => (.ok object, language)
  | none =>
    match language.conditionNodes text with
    | .error e => (.error e, language)
    | .ok nodes =>
      match language.compile text (Compile.predicate nodes) with
      | (.error e, language) => (.error e, language)
      | (.ok object, language) =>
        (.ok object,
          { language with predicates := language.predicates.put text object })

/-! ## Code -/

/-- The code of a template. -/
def expressionCode (language : Language) (text : String) : Except SyntaxError String := do
  let nodes ← language.templateNodes text
  (Code.ofExpression nodes).mapError (SyntaxError.ofProblem text)

/-- The code of a condition. -/
def predicateCode (language : Language) (text : String) : Except SyntaxError String := do
  let nodes ← language.conditionNodes text
  (Code.ofPredicate nodes).mapError (SyntaxError.ofProblem text)

/-! ## Shared functions -/

/-- The number of shared functions. -/
def functionCount (language : Language) : Nat :=
  match language.workshop.functions with
  | some cache => cache.size
  | none => 0

/-- Looks up a shared function, which counts as used then. -/
def findFunction (language : Language) (key : String) : Option (Object Expr) × Language :=
  match language.workshop.functions with
  | some cache =>
    let (found, cache) := cache.get key
    (found, { language with workshop := { language.workshop with functions := some cache } })
  | none => (none, language)

/-- Makes a constant and stores it among the shared functions. -/
def storeConstant (language : Language) (key : String) (value : Value) :
    Object Expr × Language :=
  let object : Object Expr := ⟨language.workshop.made, .constant value⟩
  let functions := language.workshop.functions.map (·.put key object)
  (object, { language with workshop := ⟨functions, language.workshop.made + 1⟩ })

/-- Forgets the shared functions. -/
def clearFunctions (language : Language) : Language :=
  { language with
    workshop :=
      { language.workshop with functions := language.workshop.functions.map Cache.clear } }

end Language

end MessageExpr
