import ServiceClient.Command.Arguments
import ServiceClient.Command.Report
import ServiceClient.Files.Atomic
import ServiceClient.Generator.Generate

/-! A run of the program: read the arguments, load the description, generate the client, and print
it or write it to a file. -/

namespace ServiceClient.Command
open ServiceClient.Files

/-- What is to be done with generated code. -/
inductive Delivery where
  | print (text : String)
  | write (path content : String)
  deriving DecidableEq

/-- Where the code goes; it is printed with a line break after it. -/
def Options.delivery (o : Options) (code : String) : Delivery :=
  match o.output with
  | some path => if o.dryRun then .print (code ++ "\n") else .write path code
  | none => .print (code ++ "\n")

/-- The code for a description, which is absent if it could not be read. -/
def Options.generate (o : Options) (description : Option String) : Except Failure String := do
  let text ←
    match description with
    | some text => .ok text
    | none => .error (.load (.noSuchFile o.input))
  let service ← (Schema.Service.load text).mapError .load
  (Generator.generate service o.config).mapError .generate

structure Outcome where
  code : Nat
  stdout : String := ""
  /-- Lines on standard error. -/
  stderr : List String := []
  deriving DecidableEq

def versionText : String :=
  "shapegen-gen 0.1.0\n"

def usageText : String :=
  "Usage: shapegen-gen [OPTIONS] <INPUT>\n"

namespace Outcome

def failed (f : Failure) : Outcome :=
  { code := 1, stderr := ["Error: " ++ f.report] }

def stopped : Stop → Outcome
  | .help => { code := 0, stdout := usageText }
  | .version => { code := 0, stdout := versionText }
  | .misuse => { code := 2 }

def written (path : String) : Outcome :=
  { code := 0, stderr := ["Generated " ++ path] }

end Outcome

/-- A run on a disk, and the disk after it. -/
def run (d : Disk) (arguments : List String) : Outcome × Disk :=
  match Options.ofArguments arguments with
  | .error stop => (.stopped stop, d)
  | .ok o =>
    match o.generate (d.read? o.input) with
    | .error failure => (.failed failure, d)
    | .ok code =>
      match o.delivery code with
      | .print text => ({ code := 0, stdout := text }, d)
      | .write path content =>
        let w := writeAtomic {} d path content
        match w.failure with
        | none => (.written path, w.disk)
        | some path => (.failed (.write path), w.disk)

end ServiceClient.Command
