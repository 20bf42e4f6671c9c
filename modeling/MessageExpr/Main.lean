import MessageExpr.Command.Run

/-!
# The program

Reads what a request needs, carries it out, and prints the outcome.
-/

open MessageExpr
open MessageExpr.Command

/-- The reason why a file could not be read. -/
def readFailure : IO.Error → String
  | .noFileOrDirectory _ _ _ => "No such file or directory (os error 2)"
  | .permissionDenied _ _ _ => "Permission denied (os error 13)"
  | e => toString e

/-- The environment variables of the process, as the system lists them. -/
def environmentOf (block : String) : List (String × String) :=
  (block.toList.splitOn '\x00').filterMap fun entry =>
    (Text.splitOnce? ['='] entry).map fun (name, value) =>
      (String.ofList name, String.ofList value)

/-- Reads a file, or says why it cannot be read. -/
def readSource (path : String) : IO (Except String String) := do
  try
    let text ← IO.FS.readFile path
    pure (.ok text)
  catch e => pure (.error (readFailure e))

/-- The command line. -/
def main (arguments : List String) : IO UInt32 := do
  let outcome ← match Request.ofArguments arguments with
    | .error instead => pure (insteadOutcome instead)
    | .ok request => do
      let block ← readSource "/proc/self/environ"
      let environment := match block with
        | .ok text => environmentOf text
        | .error _ => []
      let source ← match request.exchangePath with
        | some path => readSource path
        | none => pure (.ok "")
      pure (request.run environment source)
  IO.print outcome.output
  IO.eprint outcome.errors
  pure outcome.code.toUInt32
