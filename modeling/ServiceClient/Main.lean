import ServiceClient.Command.Run

/-! The program on the real disk. -/

namespace ServiceClient.Command

/-- What a file holds, if it can be read as text. -/
def readDescription (path : String) : IO (Option String) := do
  match ← (IO.FS.readBinFile path).toBaseIO with
  | .ok bytes => return Text.Utf8.decode? bytes.toList
  | .error _ => return none

/-- Writes through a temporary file; the path at which that failed, if it did. -/
def writeThrough (path content : String) : IO (Option String) := do
  let temporary := Files.temporaryPath path
  let attempt := fun (place : String) (action : IO Unit) => do
    match ← action.toBaseIO with
    | .ok _ => return none
    | .error _ => return some place
  let failure ←
    match (Files.Path.parent? path).filter (· != "") with
    | some parent => attempt parent (IO.FS.createDirAll parent)
    | none => pure none
  if failure.isSome then return failure
  let failure ← attempt temporary (IO.FS.writeFile temporary content)
  if failure.isSome then return failure
  attempt path (IO.FS.rename temporary path)

def finish (outcome : Outcome) : IO UInt32 := do
  (← IO.getStdout).putStr outcome.stdout
  for line in outcome.stderr do
    (← IO.getStderr).putStrLn line
  return outcome.code.toUInt32

end ServiceClient.Command

open ServiceClient.Command

/-- Exits with 0, with 1 after a failure and with 2 for wrong usage. -/
def main (arguments : List String) : IO UInt32 := do
  match Options.ofArguments arguments with
  | .error stop => finish (.stopped stop)
  | .ok o =>
    match o.generate (← readDescription o.input) with
    | .error failure => finish (.failed failure)
    | .ok code =>
      match o.delivery code with
      | .print text => finish { code := 0, stdout := text }
      | .write path content =>
        match ← writeThrough path content with
        | none => finish (.written path)
        | some place => finish (.failed (.write place))
