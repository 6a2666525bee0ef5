import ServiceClient.Generator.Config

/-! The arguments of the command line: one input, options with a value of their own, and switches.
Short forms may be written together; after `--` everything is input. The first thing wrong, or the
first request for help or the version, settles the reading. -/

namespace ServiceClient.Command

structure Options where
  input : String
  /-- Standard output when absent. -/
  output : Option String := none
  protocol : Option String := none
  serviceName : Option String := none
  fieldPrefix : Option String := none
  reserved : List String := []
  dryRun : Bool := false
  verbosity : Nat := 0
  jsonLogs : Bool := false
  deriving DecidableEq

/-- Why the program does not run on an input. -/
inductive Stop where
  | help
  | version
  | misuse
  deriving DecidableEq

/-- Options with a value. -/
inductive Setting where
  | output
  | protocol
  | serviceName
  | fieldPrefix
  | reserved
  deriving DecidableEq

inductive Switch where
  | dryRun
  | verbose
  | jsonLogs
  | help
  | version
  deriving DecidableEq

def longSettings : List (String × Setting) :=
  [("output", .output), ("protocol", .protocol), ("service-name", .serviceName),
    ("field-prefix", .fieldPrefix), ("reserved", .reserved)]

def longSwitches : List (String × Switch) :=
  [("dry-run", .dryRun), ("verbose", .verbose), ("json", .jsonLogs), ("help", .help),
    ("version", .version)]

def shortSettings : List (Char × Setting) :=
  [('o', .output)]

def shortSwitches : List (Char × Switch) :=
  [('v', .verbose), ('h', .help), ('V', .version)]

/-- What the arguments have given so far. -/
structure Given where
  input : Option String := none
  output : Option String := none
  protocol : Option String := none
  serviceName : Option String := none
  fieldPrefix : Option String := none
  reserved : List String := []
  dryRun : Bool := false
  verbosity : Nat := 0
  jsonLogs : Bool := false

namespace Given

/-- A value for what has none yet. -/
def once (old : Option String) (value : String) : Except Stop (Option String) :=
  if old.isSome then .error .misuse else .ok (some value)

/-- Paths are not empty. -/
def path (old : Option String) (value : String) : Except Stop (Option String) :=
  if value == "" then .error .misuse else once old value

def addInput (g : Given) (value : String) : Except Stop Given := do
  let input ← path g.input value
  .ok { g with input }

def set (g : Given) (setting : Setting) (value : String) : Except Stop Given :=
  match setting with
  | .output => do
    let output ← path g.output value
    .ok { g with output }
  | .protocol => do
    let protocol ← once g.protocol value
    .ok { g with protocol }
  | .serviceName => do
    let serviceName ← once g.serviceName value
    .ok { g with serviceName }
  | .fieldPrefix => do
    let fieldPrefix ← once g.fieldPrefix value
    .ok { g with fieldPrefix }
  | .reserved => .ok { g with reserved := g.reserved ++ [value] }

def turnOn (g : Given) (switch : Switch) : Except Stop Given :=
  match switch with
  | .dryRun => if g.dryRun then .error .misuse else .ok { g with dryRun := true }
  | .jsonLogs => if g.jsonLogs then .error .misuse else .ok { g with jsonLogs := true }
  | .verbose => .ok { g with verbosity := g.verbosity + 1 }
  | .help => .error .help
  | .version => .error .version

/-- Reads the short forms in one argument. A setting takes what follows it, after an equals sign if
there is one; where nothing follows, its value is the next argument. -/
def shorts (g : Given) : List Char → Except Stop (Given × Option Setting)
  | [] => .ok (g, none)
  | c :: s =>
    match shortSwitches.lookup c with
    | some switch => do (← g.turnOn switch).shorts s
    | none =>
      match shortSettings.lookup c with
      | none => .error .misuse
      | some setting =>
        match s with
        | [] => .ok (g, some setting)
        | '=' :: value => do .ok (← g.set setting (String.ofList value), none)
        | value => do .ok (← g.set setting (String.ofList value), none)

/-- Reads a long form without its dashes. -/
def long (g : Given) (s : List Char) : Except Stop (Given × Option Setting) :=
  let name := String.ofList (s.takeWhile (· != '='))
  match longSettings.lookup name, s.dropWhile (· != '=') with
  | some setting, [] => .ok (g, some setting)
  | some setting, _ :: value => do .ok (← g.set setting (String.ofList value), none)
  | none, [] =>
    match longSwitches.lookup name with
    | some switch => do .ok (← g.turnOn switch, none)
    | none => .error .misuse
  | none, _ => .error .misuse

/-- Whether an argument is a value and not an option; a single dash is a value. -/
def isValue (a : String) : Bool :=
  a == "-" || a.toList.head? != some '-'

/-- `waiting` is a setting whose value is the next argument. -/
def readFrom (g : Given) (waiting : Option Setting) (inputOnly : Bool) :
    List String → Except Stop Given
  | [] => if waiting.isSome then .error .misuse else .ok g
  | a :: rest =>
    match waiting with
    | some setting =>
      if isValue a then do (← g.set setting a).readFrom none inputOnly rest else .error .misuse
    | none =>
      if inputOnly || isValue a then do (← g.addInput a).readFrom none inputOnly rest
      else if a == "--" then g.readFrom none true rest
      else
        match a.toList with
        | '-' :: '-' :: s => do
          let (g, waiting) ← g.long s
          g.readFrom waiting false rest
        | s => do
          let (g, waiting) ← g.shorts (s.drop 1)
          g.readFrom waiting false rest

def options? (g : Given) : Option Options :=
  g.input.map fun input =>
    { input, output := g.output, protocol := g.protocol, serviceName := g.serviceName,
      fieldPrefix := g.fieldPrefix, reserved := g.reserved, dryRun := g.dryRun,
      verbosity := g.verbosity, jsonLogs := g.jsonLogs }

end Given

namespace Options

def ofArguments (arguments : List String) : Except Stop Options := do
  let given ← Given.readFrom {} none false arguments
  match given.options? with
  | some options => .ok options
  | none => .error .misuse

/-- The settings of the generator that the options ask for. -/
def config (o : Options) : Generator.Config :=
  let standard := ({} : Generator.Config).withReserved o.reserved
  { standard with
    fieldPrefix := o.fieldPrefix.getD standard.fieldPrefix
    serviceName := o.serviceName
    protocol := o.protocol }

end Options

example : (Options.ofArguments ["-vo=x", "a", "--reserved", "B", "-v"]).toOption =
    some { input := "a", output := some "x", reserved := ["B"], verbosity := 2 } := by
  decide +kernel

example : (Options.ofArguments ["a", "--service-name", "--x"]).toOption = none := by decide +kernel

end ServiceClient.Command
