import MessageExpr.Command.Arguments
import MessageExpr.Pattern.Read
import MessageExpr.Text.Shown

/-!
# Commands

The commands check a text, evaluate it, print its code, or print its tokens. Results go to the
output; what went wrong and what is told on the way goes to the error output.

## Main definitions

* `Event`, `Event.line` — what is told on the way
* `Outcome` — the exit code and the two outputs of a command
* `Request.run` — carries out a request
* `answer` — the outcome of a command line
-/

namespace MessageExpr.Command

/-- What is told on the way. -/
inductive Event where
  | compiling (isPredicate : Bool) (text : String)
  | parsed (isPredicate : Bool) (text : String) (count : Nat)
  | resolved (name : String)
  | generated (isPredicate : Bool) (count : Nat)

namespace Event

/-- The name of what a text is taken for. -/
def kindName (isPredicate : Bool) : String := if isPredicate then "predicate" else "expression"

/-- From which verbosity on an event is told. -/
def verbosity : Event → Nat
  | compiling _ _ => 1
  | _ => 2

/-- The name of the level of an event. -/
def level : Event → String
  | compiling _ _ => "DEBUG"
  | _ => "TRACE"

/-- The name of the part that an event comes from. -/
def target : Event → String
  | compiling _ _ => "simple_language::language"
  | parsed isPredicate _ _ => s!"simple_parser::{kindName isPredicate}_parser"
  | resolved _ => "simple_language::functions"
  | generated _ _ => "simple_codegen"

/-- The wording of an event. -/
def message : Event → String
  | compiling isPredicate text => s!"compiling {kindName isPredicate} {shown text}"
  | parsed isPredicate text count =>
    s!"parsed {kindName isPredicate} {shown text} into {count} node(s)"
  | resolved name => s!"resolved dynamic function {shown name}"
  | generated isPredicate count =>
    s!"generated {kindName isPredicate} code from {count} node(s)"

/-- The line of an event. -/
def line (event : Event) : String := s!"[{event.level} {event.target}] {event.message}\n"

end Event

/-! ## Outcomes -/

/-- The outcome of a command. -/
structure Outcome where
  code : Nat
  output : String
  errors : String
  deriving DecidableEq, Repr

namespace Outcome

/-- A success that prints a line. -/
def printed (line : String) : Outcome := ⟨0, line ++ "\n", ""⟩

/-- A failure that tells why. -/
def failed (line : String) : Outcome := ⟨1, "", line ++ "\n"⟩

/-- The outcome after events that are told first. -/
def after (events : List Event) (verbosity : Nat) (outcome : Outcome) : Outcome :=
  let told := events.filter fun event => event.verbosity ≤ verbosity
  { outcome with errors := String.join (told.map Event.line) ++ outcome.errors }

end Outcome

namespace Request

/-! ## Carrying out requests -/

/-- The language that a request asks for. -/
def language (request : Request) : Language :=
  Language.start request.escapes request.cacheCapacity none

/-- The nodes of the text of a request. -/
def nodes (request : Request) : Except SyntaxError (List Node) :=
  if request.isPredicate then request.language.conditionNodes request.text
  else request.language.templateNodes request.text

/-- The event of a parsed text. -/
def parsed (request : Request) : List Event :=
  match request.nodes with
  | .ok nodes => [.parsed request.isPredicate request.text nodes.length]
  | .error _ => []

/-- The events of compiling a text. -/
def compiled (request : Request) : List Event :=
  .compiling request.isPredicate request.text :: request.parsed

/-- The outcome of a text that is wrong. -/
def refused (e : SyntaxError) : Outcome := .failed s!"Syntax error: {e.shown}"

/-- Checks a text. -/
def check (request : Request) : Outcome :=
  let error? :=
    if request.isPredicate then
      match (request.language.createPredicate request.text).1 with
      | .ok _ => none
      | .error e => some e
    else
      match (request.language.createExpression request.text).1 with
      | .ok _ => none
      | .error e => some e
  let outcome : Outcome := match error? with
    | none => { code := 0, output := "", errors := "OK\n" }
    | some e => refused e
  outcome.after request.compiled request.verbosity

/-- The outcome of an evaluation. -/
def evaluated : Except Failure String → Outcome
  | .ok text => .printed text
  | .error failure => .failed s!"Evaluation error: {failure.message}"

/-- Evaluates a text. -/
def evaluate (request : Request) (s : Surroundings) : Outcome :=
  let (outcome, names) :=
    if request.isPredicate then
      match (request.language.createPredicate request.text).1 with
      | .ok object =>
        (evaluated ((object.value.test s).map boolShown), object.value.resolved s)
      | .error e => (refused e, [])
    else
      match (request.language.createExpression request.text).1 with
      | .ok object =>
        (evaluated ((object.value.evaluate s).map Value.shown), object.value.resolved s)
      | .error e => (refused e, [])
  outcome.after (request.compiled ++ names.map .resolved) request.verbosity

/-- Prints the code of a text. -/
def code (request : Request) : Outcome :=
  let code :=
    if request.isPredicate then request.language.predicateCode request.text
    else request.language.expressionCode request.text
  match code with
  | .ok code =>
    let generated := match request.nodes with
      | .ok nodes => [Event.generated request.isPredicate nodes.length]
      | .error _ => []
    (Outcome.printed code).after (request.parsed ++ generated) request.verbosity
  | .error e => (refused e).after request.parsed request.verbosity

/-- Spaces up to a width. -/
def padding (width : Nat) (text : String) : String :=
  String.ofList (List.replicate (width - text.length) ' ')

/-- The line of a token: its index, its kind and its text. -/
def tokenLine (token : Token) : String :=
  let index := String.ofList (Decimal.naturalText token.index)
  let kind := token.kind.name
  s!"{padding 4 index}{index}  {kind}{padding 16 kind} {shown token.text}\n"

/-- Prints the tokens of a text. -/
def tokens (request : Request) : Outcome :=
  let lines := (tokenize request.escapes request.text).dropLast.map tokenLine
  ⟨0, String.join lines, ""⟩

/-- Carries out a request, where `source` is what was read from the path of the exchange, or why
nothing was read. -/
def run (request : Request) (environment : List (String × String))
    (source : Except String String) : Outcome :=
  match request.verb with
  | .check => request.check
  | .code => request.code
  | .tokens => request.tokens
  | .evaluate =>
    match request.exchangePath with
    | none => request.evaluate ⟨.empty, environment⟩
    | some path =>
      match source with
      | .error reason => .failed s!"Error reading {path}: {reason}"
      | .ok text =>
        match Exchange.read? text with
        | none => .failed s!"Invalid exchange in {path}: no exchange can be read from it"
        | some exchange => request.evaluate ⟨exchange, environment⟩

end Request

/-! ## Command lines -/

/-- How the program is used. -/
def usageText : String :=
  "Usage: simple [-v] [--no-escape] [--cache-capacity N] COMMAND\n\n" ++
  "Commands:\n" ++
  "  check [-p] TEXT            Check text for syntax errors\n" ++
  "  eval [-p] [-e PATH] TEXT   Evaluate text against an exchange\n" ++
  "  code [-p] TEXT             Print generated source code\n" ++
  "  tokens TEXT                Print the token stream\n"

/-- The outcome when no command is carried out. -/
def insteadOutcome : Instead → Outcome
  | .usage => ⟨2, "", usageText⟩
  | .help => ⟨0, usageText, ""⟩
  | .version => ⟨0, "simple 0.7.0\n", ""⟩

/-- The outcome of a command line, where `read` gives what is read from a path. -/
def answer (environment : List (String × String)) (read : String → Except String String)
    (arguments : List String) : Outcome :=
  match Request.ofArguments arguments with
  | .error instead => insteadOutcome instead
  | .ok request =>
    request.run environment (read (request.exchangePath.getD ""))

end MessageExpr.Command
