import MessageExpr.Language

/-!
# Arguments of the command line

The command line names a command, with options before and after the name. An option that is
given in both places counts where it stands after the name. Two hyphens end the options.

## Main definitions

* `Switch` — the options
* `Given` — what was given in one of the two places
* `Request`, `Request.ofArguments` — what is asked for, or why nothing is
-/

namespace MessageExpr.Command

/-- The options. -/
inductive Switch where
  | verbose
  | noEscape
  | cacheCapacity
  | predicate
  | exchange
  | help
  | version
  deriving DecidableEq, Repr

namespace Switch

/-- The name of an option after two hyphens. -/
def name : Switch → String
  | verbose => "verbose"
  | noEscape => "no-escape"
  | cacheCapacity => "cache-capacity"
  | predicate => "predicate"
  | exchange => "exchange"
  | help => "help"
  | version => "version"

/-- The letter of an option after one hyphen. -/
def letter? : Switch → Option Char
  | verbose => some 'v'
  | noEscape => none
  | cacheCapacity => none
  | predicate => some 'p'
  | exchange => some 'e'
  | help => some 'h'
  | version => some 'V'

/-- Whether an option has a value. -/
def hasValue : Switch → Bool
  | cacheCapacity => true
  | exchange => true
  | _ => false

end Switch

/-- The commands. -/
inductive Verb where
  | check
  | evaluate
  | code
  | tokens
  deriving DecidableEq, Repr

namespace Verb

/-- The name of a command. -/
def name : Verb → String
  | check => "check"
  | evaluate => "eval"
  | code => "code"
  | tokens => "tokens"

/-- The command of a name. -/
def ofName? (name : String) : Option Verb :=
  [check, evaluate, code, tokens].find? (·.name == name)

/-- The options that are known before the name of a command. -/
def switchesBefore : List Switch := [.verbose, .noEscape, .cacheCapacity, .help, .version]

/-- The options that are known after the name of a command. -/
def switches : Verb → List Switch
  | check => [.verbose, .noEscape, .cacheCapacity, .help, .predicate]
  | evaluate => [.verbose, .noEscape, .cacheCapacity, .help, .predicate, .exchange]
  | code => [.verbose, .noEscape, .cacheCapacity, .help, .predicate]
  | tokens => [.verbose, .noEscape, .cacheCapacity, .help]

end Verb

/-! ## Options -/

/-- What was given before or after the name of a command. -/
structure Given where
  verbose : Option Nat
  noEscape : Bool
  cacheCapacity : Option Nat
  predicate : Bool
  exchange : Option String
  text : Option String
  /-- The option whose value comes next. -/
  pending : Option Switch
  /-- Whether the options are ended. -/
  ended : Bool

/-- What there is when nothing was given. -/
def Given.none : Given := ⟨.none, false, .none, false, .none, .none, .none, false⟩

/-- What is to be done instead of a command. -/
inductive Instead where
  | usage
  | help
  | version
  deriving DecidableEq, Repr

/-- The number of a capacity: digits after an optional plus sign, within 64 bits. -/
def capacity? (text : String) : Option Nat :=
  let digits := match text.toList with
    | '+' :: rest => rest
    | t => t
  (Decimal.natural? digits).bind fun n => if n < UInt64.size then some n else none

namespace Given

/-- Records an option without a value. Only the option for more output may be repeated. -/
def setFlag (given : Given) : Switch → Except Instead Given
  | .verbose => .ok { given with verbose := some (given.verbose.getD 0 + 1) }
  | .noEscape => if given.noEscape then .error .usage else .ok { given with noEscape := true }
  | .predicate =>
    if given.predicate then .error .usage else .ok { given with predicate := true }
  | .help => .error .help
  | .version => .error .version
  | .cacheCapacity => .error .usage
  | .exchange => .error .usage

/-- Records an option with its value. None may be repeated. -/
def setValue (given : Given) (switch : Switch) (value : String) : Except Instead Given :=
  match switch with
  | .cacheCapacity =>
    match given.cacheCapacity, capacity? value with
    | .none, some n => .ok { given with cacheCapacity := some n }
    | _, _ => .error .usage
  | .exchange =>
    if given.exchange.isSome then .error .usage
    else .ok { given with exchange := some value }
  | _ => .error .usage

/-- Reads an option by its name, which may be followed by its value. -/
def readName (known : List Switch) (given : Given) (t : List Char) : Except Instead Given :=
  let (name, value) := match Text.splitOnce? ['='] t with
    | some (name, value) => (name, some (String.ofList value))
    | .none => (t, .none)
  match known.find? fun switch => switch.name.toList == name with
  | .none => .error .usage
  | some switch =>
    match switch.hasValue, value with
    | true, some value => given.setValue switch value
    | true, .none => .ok { given with pending := some switch }
    | false, some _ => .error .usage
    | false, .none => given.setFlag switch

/-- Reads options by their letters. A value follows its letter directly, after an equals sign,
or as the next argument. -/
def readLetters (known : List Switch) (given : Given) : List Char → Except Instead Given
  | [] => .ok given
  | c :: rest =>
    match known.find? fun switch => switch.letter? == some c with
    | .none => .error .usage
    | some switch =>
      if switch.hasValue then
        match rest with
        | [] => .ok { given with pending := some switch }
        | '=' :: value => given.setValue switch (String.ofList value)
        | value => given.setValue switch (String.ofList value)
      else do
        let given ← given.setFlag switch
        readLetters known given rest

/-- Whether an argument is written like an option. -/
def isOption (t : List Char) : Bool :=
  match t with
  | '-' :: _ :: _ => true
  | _ => false

/-- Reads an argument that is written like an option. -/
def readOption (known : List Switch) (given : Given) (t : List Char) : Except Instead Given :=
  match t with
  | ['-', '-'] => .ok { given with ended := true }
  | '-' :: '-' :: name => readName known given name
  | _ => readLetters known given (t.drop 1)

/-- Reads the arguments after the name of a command: options, and one text. -/
def readAfter (known : List Switch) (given : Given) : List String → Except Instead Given
  | [] => if given.pending.isSome then .error .usage else .ok given
  | argument :: rest =>
    let t := argument.toList
    match given.pending with
    | some switch =>
      -- What is written like an option is never the value of the one before.
      if isOption t then .error .usage
      else do
        let given ← { given with pending := .none }.setValue switch argument
        readAfter known given rest
    | .none =>
      if !given.ended && isOption t then do
        let given ← given.readOption known t
        readAfter known given rest
      else if given.text.isSome then .error .usage
      else readAfter known { given with text := some argument } rest

/-- Reads the arguments up to the name of a command: options, the name, and what follows. -/
def readBefore (known : List Switch) (given : Given) :
    List String → Except Instead (Given × String × List String)
  | [] => .error .usage
  | argument :: rest =>
    let t := argument.toList
    match given.pending with
    | some switch =>
      if isOption t then .error .usage
      else do
        let given ← { given with pending := .none }.setValue switch argument
        readBefore known given rest
    | .none =>
      if given.ended then .error .usage
      else if isOption t then do
        let given ← given.readOption known t
        readBefore known given rest
      else .ok (given, argument, rest)

end Given

/-! ## Requests -/

/-- What is asked for. -/
structure Request where
  verb : Verb
  /-- How much is told on the way: nothing, steps, or details. -/
  verbosity : Nat
  escapes : Bool
  cacheCapacity : Nat
  isPredicate : Bool
  /-- Where the exchange is to be read from. -/
  exchangePath : Option String
  text : String
  deriving DecidableEq, Repr

namespace Request

/-- What is asked for by arguments. -/
def ofArguments (arguments : List String) : Except Instead Request := do
  let (before, name, rest) ← Given.none.readBefore Verb.switchesBefore arguments
  if name == "help" then .error .help
  else
    match Verb.ofName? name with
    | none => .error .usage
    | some verb => do
      let after ← Given.none.readAfter verb.switches rest
      match after.text with
      | none => .error .usage
      | some text =>
        .ok
          { verb := verb
            verbosity := (after.verbose <|> before.verbose).getD 0
            escapes := !(before.noEscape || after.noEscape)
            cacheCapacity :=
              (after.cacheCapacity <|> before.cacheCapacity).getD Language.defaultCapacity
            isPredicate := after.predicate
            exchangePath := after.exchange
            text := text }

end Request

end MessageExpr.Command
