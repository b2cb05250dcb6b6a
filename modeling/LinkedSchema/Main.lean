import LinkedSchema.CommandLine.Program

/-!
# The program

Reads the arguments, the files and standard input that the command line asks for, and writes what
comes of it: output on standard output, and events, remarks and reports on standard error.
-/

namespace LinkedSchema.CommandLine

/-- The reason for which the system refused to read a file. -/
def fileError : IO.Error → FileError
  | .noFileOrDirectory .. => .notFound
  | .permissionDenied .. => .permissionDenied
  | .inappropriateType _ code _ => if code == 21 then .isDirectory else .notDirectory
  | .invalidArgument .. => .nameTooLong
  | error => .other error.toString

/-- The text of bytes, if they are text. -/
def asText (bytes : ByteArray) : Except FileError String :=
  match String.fromUTF8? bytes with
  | some text => .ok text
  | none => .error .notText

/-- Reads a file. -/
def readFile (path : String) : IO (Except FileError String) := do
  try
    return asText (← IO.FS.readBinFile path)
  catch error =>
    return .error (fileError error)

/-- Reads a stream to its end. -/
partial def readAll (stream : IO.FS.Stream) (bytes : ByteArray) : IO ByteArray := do
  let more ← stream.read 65536
  if more.isEmpty then return bytes
  else readAll stream (bytes ++ more)

/-- The texts that a source needs. -/
def gather (source : Source) : IO Environment := do
  let config ← match source.config with
    | none => pure (.ok "")
    | some path => readFile path
  let input ←
    if source.input == "-" then
      return { fileText := fun _ => config, standardInput := asText (← readAll (← IO.getStdin) .empty) }
    else readFile source.input
  return {
    fileText := fun path => if some path == source.config then config else input
    standardInput := .ok "" }

/-- The particulars of an event. -/
def eventDetails : Event → String
  | .malformedMetadata extension reason => s!" extension={extension} error={reason.message}"
  | .registeredFile file package generate messages enums services =>
      s!" file={file} package={package} generate={generate} messages={messages} enums={enums}" ++
        s!" services={services}"
  | .unknownFileToGenerate file => s!" file={file}"
  | .linkedRequest totals =>
      s!" files={totals.files} messages={totals.messages} fields={totals.fields}" ++
        s!" enums={totals.enums} services={totals.services} methods={totals.methods}"

/-- Writes an event if the verbosity asks for events of its weight. -/
def writeEvent (verbosity : Nat) (event : Event) : IO Unit := do
  let level := if event.isWarning then " WARN" else "DEBUG"
  if event.isWarning || 2 ≤ verbosity then
    IO.eprintln (level ++ " " ++ event.message ++ eventDetails event)

/-- Does what the arguments ask for, and returns the exit code. -/
def runProgram (arguments : List String) : IO UInt32 := do
  let invocation := parse arguments
  let (verbosity, environment) ← match invocation with
    | .run verbosity command => pure (verbosity, ← gather command.source)
    | _ => pure (0, { fileText := fun _ => .error .notFound, standardInput := .ok "" })
  let outcome := perform environment false invocation
  outcome.events.forM (writeEvent verbosity)
  IO.print outcome.output
  outcome.notice.forM IO.eprintln
  outcome.failure.forM fun failure => IO.eprintln ("Error: " ++ failure.report)
  return outcome.exitCode.toUInt32

end LinkedSchema.CommandLine

/-- Runs the program. -/
def main (arguments : List String) : IO UInt32 :=
  LinkedSchema.CommandLine.runProgram arguments
