import LinkedSchema.Semantics

/-!
# What to show of a model

* `Filter` — which files and which declarations are shown;
* `Filter.files`, `Filter.keep` — listings with the filter applied;
* `nestingLimit` — how deep messages may be nested inside each other.
-/

namespace LinkedSchema.Inspect

/-- Which files and which declarations are shown. -/
structure Filter where
  /-- Only the files that output is wanted for. -/
  generatedOnly : Bool := false
  /-- Only visible declarations; files are shown whether they are visible or not. -/
  visibleOnly : Bool := false
deriving DecidableEq, Repr, Inhabited

/-- The files that are shown. -/
def Filter.files (filter : Filter) (model : Model) : List File :=
  if filter.generatedOnly then model.select .file [.toGenerate] (model.all .file)
  else model.all .file

/-- The declarations of a listing that are shown. -/
def Filter.keep (filter : Filter) (model : Model) (kind : Kind) (entities : List (Entity kind)) :
    List (Entity kind) :=
  if filter.visibleOnly then model.select kind [.visible] entities else entities

/-- No chain of messages inside each other is longer than there are messages. -/
def nestingLimit (model : Model) : Nat :=
  model.registry.messages.size

end LinkedSchema.Inspect
