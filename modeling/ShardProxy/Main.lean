/-
# The command line

`STRATA_CONFIG=proxy.json shardproxy [TABLE...]` prints the execution units of a
query over the tables, one per line: the data source and the text.  A failure or
a crash is told on the error stream and by the exit code.
-/

import ShardProxy.Preview
import ShardProxy.Routing.Dice

open ShardProxy

/-- The text of a file, or why it could not be read. -/
def readText (path : String) : IO (Except String String) := do
  try
    return .ok (← IO.FS.readFile path)
  catch e =>
    match e with
    | .noFileOrDirectory .. => return .error "No such file or directory (os error 2)"
    | e => return .error e.toString

/-- The variables of the environment that a preview looks at. -/
def readEnvironment : IO Environment := do
  let names := [Preview.pathVariable, Config.nameVariable, Config.workersVariable]
  let values ← names.mapM fun name => return (name, ← IO.getEnv name)
  return fun name => (values.lookup name).join

/-- Prints a preview. -/
def main (tables : List String) : IO UInt32 := do
  let environment ← readEnvironment
  let contents ← match environment Preview.pathVariable with
    | none => pure (.error "")
    | some path => readText path
  let seed ← IO.rand 0 0xffffffff
  let result := Preview.run environment (fun _ => contents) tables (Dice.ofSeed seed.toUInt64)
  for unit in result.units do
    IO.println s!"{unit.dataSource}\t{unit.sql}"
  for line in result.errorLines do
    IO.eprintln line
  return result.exitCode
