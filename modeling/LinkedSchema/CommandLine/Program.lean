import LinkedSchema.CommandLine.Arguments
import LinkedSchema.Descriptor.Decoding
import LinkedSchema.Inspect.Summary
import LinkedSchema.Inspect.Tree

/-!
# What the commands do

The work of a command, given what reading files and standard input would yield.

* `Environment` — the texts that a command may ask for;
* `Failure`, `Failure.report` — why a command gave up, and the report of it;
* `Outcome`, `perform` — what a command line leads to.
-/

namespace LinkedSchema.CommandLine

/-- The texts that a command may ask for. -/
structure Environment where
  fileText : String → Except FileError String
  standardInput : Except FileError String

/-- Why a command gave up. -/
inductive Failure
  | config (error : ConfigError)
  | file (path : String) (error : FileError)
  | standardInput (error : FileError)
  | input (descriptorSet : Bool) (path : String) (error : DecodeError)
  | link (error : LinkError)
deriving DecidableEq, Repr

/-- What happened, and why: each text is caused by the next. -/
def Failure.chain : Failure → List String
  | .config error =>
      let cause := match error with
        | .file _ error => error.message
        | .json error => error.message
      [error.message, cause]
  | .file path error => ["failed to read " ++ path, error.message]
  | .standardInput error => ["failed to read request from stdin", error.message]
  | .input descriptorSet path error =>
      let cause := match error with
        | .json error => [error.message]
        | .notText => [FileError.notText.message]
      let what := if descriptorSet then "descriptor set " else "request "
      ["invalid " ++ what ++ path, error.message] ++ cause
  | .link error => ["failed to link request", error.message]

/-- A text whose lines but the first are moved to the right. -/
def hang (blanks : String) (text : String) : String :=
  String.intercalate ("\n" ++ blanks) (text.splitOn "\n")

/-- A number in a column of five places. -/
def column (n : Nat) : String :=
  let digits := toString n
  String.ofList (List.replicate (5 - digits.length) ' ') ++ digits

/-- The causes below the message: a single one only indented, several with numbers. -/
def causeLines : List String → List String
  | [cause] => ["    " ++ hang "    " cause]
  | causes => causes.zipIdx.map fun (cause, n) => column n ++ ": " ++ hang "       " cause

/-- The report of a failure: the message and its causes. -/
def Failure.report (failure : Failure) : String :=
  match failure.chain with
  | [] => ""
  | message :: causes =>
      if causes.isEmpty then message
      else String.intercalate "\n" ([message, "", "Caused by:"] ++ causeLines causes)

/-- What a command line leads to. -/
structure Outcome where
  exitCode : Nat
  output : String := ""
  /-- A remark for the user, apart from the output. -/
  notice : Option String := none
  failure : Option Failure := none
  events : List Event := []

/-- Reads the input of a command. -/
def readInput (environment : Environment) (path : String) : Except Failure String :=
  if path == "-" then environment.standardInput.mapError .standardInput
  else (environment.fileText path).mapError (.file path)

/-- Reads the request of a command. -/
def readRequest (environment : Environment) (source : Source) :
    Except Failure Request := do
  let text ← readInput environment source.input
  let request :=
    if source.descriptorSet then
      Request.ofDescriptorSetText text source.generate
    else Request.ofText text
  request.mapError (.input source.descriptorSet source.input)

/-- Reads the configuration of a command. -/
def readConfig (environment : Environment) (source : Source) : Except Failure Config :=
  match source.config with
  | none => .ok {}
  | some path => (Config.ofFile path (environment.fileText path)).mapError .config

/-- Reads and links what a command works on: the configuration first, then the input. -/
def loadModel (environment : Environment) (source : Source) :
    List Event × Except Failure Model :=
  let loaded := do
    let config ← readConfig environment source
    let request ← readRequest environment source
    return (config, request)
  match loaded with
  | .error failure => ([], .error failure)
  | .ok (config, request) =>
      let linking := Model.ofRequest request config
      (linking.events, linking.outcome.mapError .link)

/-- The source of a command. -/
def Command.source : Command → Source
  | .inspect source .. => source
  | .packages source => source

/-- What a command writes about a model, with a remark if there is nothing to write. -/
def Command.write (model : Model) (coloured : Bool) : Command → String × Option String
  | .inspect _ json generatedOnly visibleOnly =>
      let filter : Inspect.Filter := { generatedOnly, visibleOnly }
      if json then (Inspect.renderJson model filter ++ "\n", none)
      else (Inspect.renderTree model filter coloured, none)
  | .packages _ =>
      let packages := model.packagesToGenerate
      (String.join (packages.map (· ++ "\n")),
        if packages.isEmpty then some "info: no files marked for generation" else none)

/-- The name and version of the program. -/
def versionText : String :=
  "protolink 0.3.0\n"

/-- How the program is used. -/
def helpText : String :=
  "Usage: protolink [-v]... inspect [--json] [--generated-only] [--visible-only] <SOURCE>\n" ++
  "       protolink [-v]... packages <SOURCE>\n" ++
  "\n" ++
  "SOURCE: [--descriptor-set [--generate <NAME>]...] [--config <PATH>] <INPUT>\n"

/-- Does what a command line asks for. -/
def perform (environment : Environment) (coloured : Bool) : Invocation → Outcome
  | .help => { exitCode := 0, output := helpText }
  | .version => { exitCode := 0, output := versionText }
  | .usageError => { exitCode := 2, notice := some helpText }
  | .run _ command =>
      match loadModel environment command.source with
      | (events, .error failure) => { exitCode := 1, failure := some failure, events }
      | (events, .ok model) =>
          let (output, notice) := command.write model coloured
          { exitCode := 0, output, notice, events }

end LinkedSchema.CommandLine
