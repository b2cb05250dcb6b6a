import LinkedSchema.Entity

/-!
# Go packages

The name and the import path that a generator of Go code should use for a file. Both come from the
option that names the Go package, which may give the name behind a semicolon; without the option they
come from the name of the file.

* `lastSegment`, `directory` — paths whose segments are separated by slashes;
* `File.goPackageName`, `File.goPackageImport` — the name and the import path.
-/

namespace LinkedSchema

/-- The characters behind the last slash, not counting slashes at the end. The empty path is called
`.`, and a path of slashes alone `/`. -/
def lastSegment (path : String) : String :=
  let chars := path.toList
  let trimmed := (chars.reverse.dropWhile (· == '/')).reverse
  if chars.isEmpty then "."
  else if trimmed.isEmpty then "/"
  else String.ofList (trimmed.reverse.takeWhile (· != '/')).reverse

/-- The characters before the last slash, if there is a slash; `/` if the last slash is the first
character. -/
def directory? (path : String) : Option String :=
  let chars := path.toList
  if chars.contains '/' then
    match (chars.reverse.dropWhile (· != '/')).tail.reverse with
    | [] => some "/"
    | directory => some (String.ofList directory)
  else none

/-- The parts of a text before and behind its first semicolon. -/
def splitAtSemicolon? (text : String) : Option (String × String) :=
  let chars := text.toList
  if chars.contains ';' then
    some (String.ofList (chars.takeWhile (· != ';')),
      String.ofList (chars.dropWhile (· != ';')).tail)
  else none

namespace File

/-- The option that names the Go package, unless it is empty or no text. -/
def goPackage? (file : File) : Option String :=
  (file.options.string? "goPackage").filter (!·.isEmpty)

/-- The name of the Go package: the part of the option behind a semicolon, else the last segment of
the option, else that of the name of the file. -/
def goPackageName (file : File) : String :=
  match file.goPackage? with
  | none => lastSegment file.name
  | some package =>
      match splitAtSemicolon? package with
      | some (_, name) => name
      | none => lastSegment package

/-- The import path of the Go package: the part of the option before a semicolon, else the whole
option, else the directory of the file, else the name of the file. The current directory counts as
no directory. -/
def goPackageImport (file : File) : String :=
  match file.goPackage? with
  | some package =>
      match splitAtSemicolon? package with
      | some (path, _) => path
      | none => package
  | none =>
      match directory? file.name with
      | some directory => if directory == "." then file.name else directory
      | none => file.name

end File

end LinkedSchema
