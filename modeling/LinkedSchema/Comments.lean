import LinkedSchema.Descriptor.Basic
import Std.Data.TreeMap

/-!
# Comments

A compiler records comments by place: the place of a declaration is the path that leads to it from
the file descriptor, as field numbers and positions in turn. The field numbers are those of the
descriptor format, so the same number means different things at different levels.

* `Comments` — the comments of one declaration;
* `SourcePath` — places, and the paths of the declarations inside a file, message, enum or service;
* `CommentTable` — the comments of a file by place.
-/

namespace LinkedSchema

/-- The comments of a declaration. A declaration without recorded comments has empty ones. -/
structure Comments where
  leading : String := ""
  trailing : String := ""
  leadingDetached : List String := []
deriving DecidableEq, Repr, Inhabited

/-- Whether nothing was recorded. -/
def Comments.isEmpty (comments : Comments) : Bool :=
  comments.leading.isEmpty && comments.trailing.isEmpty && comments.leadingDetached.isEmpty

/-- The text of comments where there is room for one: the leading comment. -/
def Comments.text (comments : Comments) : String :=
  comments.leading

/-- The comments of a recorded place. -/
def Comments.ofLocation (location : Location) : Comments where
  leading := location.leadingComments.getD ""
  trailing := location.trailingComments.getD ""
  leadingDetached := location.leadingDetachedComments

/-- The path of a declaration inside its file. -/
abbrev SourcePath := List Int

namespace SourcePath

/-- The element at a position of the list with a field number. Recorded paths are made of signed
numbers of 32 bits, so a position beyond them comes out as another one. -/
def child (path : SourcePath) (fieldNumber : Int) (position : Nat) : SourcePath :=
  path ++ [fieldNumber, (Int32.ofNat position).toInt]

/-- The comments on a file are those on its package statement. -/
def ofFile : SourcePath := [2]

/-- A message at file level. -/
def ofMessage (position : Nat) : SourcePath := child [] 4 position

/-- An enum at file level. -/
def ofEnum (position : Nat) : SourcePath := child [] 5 position

/-- A service. -/
def ofService (position : Nat) : SourcePath := child [] 6 position

/-- A field of the message at a path. -/
def field (message : SourcePath) (position : Nat) : SourcePath := message.child 2 position

/-- A message nested in the message at a path. -/
def nestedMessage (message : SourcePath) (position : Nat) : SourcePath := message.child 3 position

/-- An enum nested in the message at a path. -/
def nestedEnum (message : SourcePath) (position : Nat) : SourcePath := message.child 4 position

/-- A oneof of the message at a path. -/
def oneof (message : SourcePath) (position : Nat) : SourcePath := message.child 8 position

/-- A value of the enum at a path. -/
def enumValue (enum : SourcePath) (position : Nat) : SourcePath := enum.child 2 position

/-- A method of the service at a path. -/
def method (service : SourcePath) (position : Nat) : SourcePath := service.child 2 position

/-- The parts of a path, between commas. -/
def display (path : SourcePath) : String :=
  String.intercalate "," (path.map toString)

end SourcePath

/-- The comments of a file by place. -/
structure CommentTable where
  byPath : Std.TreeMap (List Int) Comments

namespace CommentTable

/-- Records a place, unless it has no comments: compilers record a place for every token. -/
def record (table : CommentTable) (location : Location) : CommentTable :=
  let comments := Comments.ofLocation location
  if comments.isEmpty then table else ⟨table.byPath.insert location.path comments⟩

/-- The table of the recorded places; of several commented places with one path the last counts. -/
def ofLocations (locations : List Location) : CommentTable :=
  locations.foldl record ⟨∅⟩

/-- The comments at a place, empty if there are none. -/
def lookup (table : CommentTable) (path : SourcePath) : Comments :=
  table.byPath[path]?.getD {}

/-- How many places have comments. -/
def size (table : CommentTable) : Nat :=
  table.byPath.size

/-- Whether no place has comments. -/
def isEmpty (table : CommentTable) : Bool :=
  table.byPath.isEmpty

end CommentTable

end LinkedSchema
