/-!
# Arguments of the command line

Arguments are read from left to right. Options are long (`--json`) or short and bundled (`-vv`); an
option with a value takes it from behind an equals sign or from the next argument. Behind `--` there
are only values. Help and the version are shown as soon as they are asked for; any other irregularity
is a usage error, whatever it is.

* `Source`, `Command`, `Invocation` — what may be asked for;
* `Argument.classify` — what an argument looks like;
* `parse` — the whole command line.
-/

namespace LinkedSchema.CommandLine

/-- Where the declarations come from. -/
structure Source where
  /-- The path of a file, or `-` for standard input. -/
  input : String
  /-- The input is a bare set of files and not a request. -/
  descriptorSet : Bool
  /-- The files of such a set that output is wanted for. -/
  generate : List String
  /-- The path of a configuration. -/
  config : Option String
deriving DecidableEq, Repr

/-- What to do. -/
inductive Command
  | inspect (source : Source) (json generatedOnly visibleOnly : Bool)
  | packages (source : Source)
deriving DecidableEq, Repr

/-- What a command line asks for. -/
inductive Invocation
  | run (verbosity : Nat) (command : Command)
  | help
  | version
  | usageError
deriving DecidableEq, Repr

/-- The names of commands. -/
inductive CommandName
  | inspect
  | packages
deriving DecidableEq, Repr

/-- The command with a name. -/
def CommandName.ofText? : String → Option CommandName
  | "inspect" => some .inspect
  | "packages" => some .packages
  | _ => none

/-- What an argument looks like. -/
inductive Argument
  /-- `--`: only values follow. -/
  | separator
  /-- `--name` or `--name=value`. -/
  | long (name : String) (value : Option String)
  /-- `-xyz`. -/
  | short (letters : List Char)
  | plain (text : String)
deriving DecidableEq, Repr

/-- What an argument looks like. A single hyphen is a value. -/
def Argument.classify (text : String) : Argument :=
  match text.toList with
  | ['-', '-'] => .separator
  | '-' :: '-' :: rest =>
      let name := String.ofList (rest.takeWhile (· != '='))
      match rest.dropWhile (· != '=') with
      | [] => .long name none
      | _ :: value => .long name (some (String.ofList value))
  | '-' :: c :: letters => .short (c :: letters)
  | _ => .plain text

/-- What has been read of the arguments of a command. -/
structure Arguments where
  verbosity : Nat
  input : Option String := none
  descriptorSet : Bool := false
  generate : List String := []
  config : Option String := none
  json : Bool := false
  generatedOnly : Bool := false
  visibleOnly : Bool := false

namespace Arguments

/-- Takes a value that belongs to no option. There is one place for such a value, a path, and a path
is not empty. -/
def takeValue (arguments : Arguments) (text : String) : Option Arguments :=
  if text.isEmpty || arguments.input.isSome then none
  else some { arguments with input := some text }

/-- Takes an option that may be given once and has no value. -/
def takeFlag (command : CommandName) (arguments : Arguments) (name : String) :
    Option Arguments :=
  match command, name with
  | _, "verbose" => some { arguments with verbosity := arguments.verbosity + 1 }
  | _, "descriptor-set" =>
      if arguments.descriptorSet then none else some { arguments with descriptorSet := true }
  | .inspect, "json" => if arguments.json then none else some { arguments with json := true }
  | .inspect, "generated-only" =>
      if arguments.generatedOnly then none else some { arguments with generatedOnly := true }
  | .inspect, "visible-only" =>
      if arguments.visibleOnly then none else some { arguments with visibleOnly := true }
  | _, _ => none

/-- Takes an option with its value. The names of files may be given several times; the path of the
configuration once, and it is not empty. -/
def takeOption (arguments : Arguments) (name value : String) : Option Arguments :=
  match name with
  | "generate" => some { arguments with generate := arguments.generate ++ [value] }
  | "config" =>
      if value.isEmpty || arguments.config.isSome then none
      else some { arguments with config := some value }
  | _ => none

/-- The invocation of a command, once all its arguments are read. Naming files makes sense for a bare
set of files only. -/
def finish (command : CommandName) (arguments : Arguments) : Invocation :=
  match arguments.input with
  | none => .usageError
  | some input =>
      if !arguments.generate.isEmpty && !arguments.descriptorSet then .usageError
      else
        let source : Source :=
          ⟨input, arguments.descriptorSet, arguments.generate, arguments.config⟩
        .run arguments.verbosity <| match command with
          | .inspect =>
              .inspect source arguments.json arguments.generatedOnly arguments.visibleOnly
          | .packages => .packages source

/-- Takes arguments that are values whatever they look like. -/
def readValues (command : CommandName) (arguments : Arguments) : List String → Invocation
  | [] => arguments.finish command
  | text :: rest =>
      match arguments.takeValue text with
      | some arguments => arguments.readValues command rest
      | none => .usageError

/-- Reads bundled letters up to one that ends the reading. -/
def readLetters (arguments : Arguments) : List Char → Invocation ⊕ Arguments
  | [] => .inr arguments
  | 'v' :: letters => { arguments with verbosity := arguments.verbosity + 1 }.readLetters letters
  | 'h' :: _ => .inl .help
  | _ :: _ => .inl .usageError

/-- Whether a long option needs a value. -/
def needsValue (name : String) : Bool :=
  name == "generate" || name == "config"

/-- Reads the arguments of a command. -/
def read (command : CommandName) (arguments : Arguments) : List String → Invocation
  | [] => arguments.finish command
  | text :: rest =>
      match Argument.classify text with
      | .separator => arguments.readValues command rest
      | .plain text =>
          match arguments.takeValue text with
          | some arguments => arguments.read command rest
          | none => .usageError
      | .short letters =>
          match arguments.readLetters letters with
          | .inl invocation => invocation
          | .inr arguments => arguments.read command rest
      | .long "help" none => .help
      | .long name (some value) =>
          match arguments.takeOption name value with
          | some arguments => arguments.read command rest
          | none => .usageError
      | .long name none =>
          if needsValue name then
            match rest with
            | [] => .usageError
            | next :: rest =>
                match Argument.classify next with
                | .plain value =>
                    match arguments.takeOption name value with
                    | some arguments => arguments.read command rest
                    | none => .usageError
                | _ => .usageError
          else
            match arguments.takeFlag command name with
            | some arguments => arguments.read command rest
            | none => .usageError

end Arguments

/-- Reads bundled letters before the command. -/
def readLeadingLetters (verbosity : Nat) : List Char → Invocation ⊕ Nat
  | [] => .inr verbosity
  | 'v' :: letters => readLeadingLetters (verbosity + 1) letters
  | 'h' :: _ => .inl .help
  | 'V' :: _ => .inl .version
  | _ :: _ => .inl .usageError

/-- Reads the arguments up to the command and hands on the rest. -/
def readCommand (verbosity : Nat) : List String → Invocation
  | [] => .usageError
  | text :: rest =>
      match Argument.classify text with
      | .long "help" none => .help
      | .long "version" none => .version
      | .long "verbose" none => readCommand (verbosity + 1) rest
      | .short letters =>
          match readLeadingLetters verbosity letters with
          | .inl invocation => invocation
          | .inr verbosity => readCommand verbosity rest
      | .plain "help" =>
          match rest with
          | [] => .help
          | [topic] =>
              if topic == "help" || (CommandName.ofText? topic).isSome then .help else .usageError
          | _ => .usageError
      | .plain name =>
          match CommandName.ofText? name with
          | some command => Arguments.read command { verbosity } rest
          | none => .usageError
      | .separator | .long _ _ => .usageError

/-- Reads a command line. -/
def parse (arguments : List String) : Invocation :=
  readCommand 0 arguments

end LinkedSchema.CommandLine
