import KeyCustody.CommandLine.Lines
import KeyCustody.CommandLine.Perform
import KeyCustody.Script.Scenario

/-!
The command line of both tools. The first argument names the tool, the others are its own. The
scenario that answers its commands is read from standard input, and an empty one answers none.
-/
open KeyCustody CommandLine

def watchedVariables : List String :=
  let grammars := [Tool.aws.grammar, Tool.google.grammar, Tool.aws.listGrammar,
    Tool.google.listGrammar]
  filterVariable :: grammars.flatMap fun g => g.flags.filterMap (·.environment)

partial def readAll (input : IO.FS.Stream) (held : String) : IO String := do
  let line ← input.getLine
  if line.isEmpty then pure held else readAll input (held ++ line)

def tool? : String → Option Tool
  | "aws-keys" => some .aws
  | "google-keys" => some .google
  | _ => none

def scenario (text : String) : Except Json.Fault Script.Scenario :=
  if (Text.trimString text).isEmpty then .ok {}
  else Json.decode Script.Scenario.record.reader (Text.encode text)

def runTool (tool : Tool) (arguments : List String) (scenario : Script.Scenario) : IO UInt32 := do
  let watched ← watchedVariables.mapM fun name => do
    let value ← IO.getEnv name
    pure (name, value)
  let environment : Environment := fun name => (watched.lookup name).join
  let outcome := tool.run Script.provider environment arguments scenario.session
  let stdout ← IO.getStdout
  stdout.write ⟨outcome.stdout.toArray⟩
  outcome.journal.forM fun e => IO.eprintln (eventLine outcome.format e)
  IO.eprint outcome.stderr
  pure outcome.exitCode.toUInt32

def main (arguments : List String) : IO UInt32 := do
  match arguments with
  | name :: rest =>
    match tool? name, scenario (← readAll (← IO.getStdin) "") with
    | some tool, .ok scenario => runTool tool rest scenario
    | some _, .error fault => do
      IO.eprintln fault.message
      pure 2
    | none, _ => do
      IO.eprintln "the first argument is aws-keys or google-keys"
      pure 2
  | [] => do
    IO.eprintln "the first argument is aws-keys or google-keys"
    pure 2
