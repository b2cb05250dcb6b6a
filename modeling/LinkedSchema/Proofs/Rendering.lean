import LinkedSchema.Inspect.Tree
import LinkedSchema.Proofs.Summaries
import Mathlib.Data.List.Forall2

/-!
# Trees and summaries

The indented text and the summary of a model are made by two walks through the model. Both show the
same declarations in the same order: the text has one line for each entry of the summary, and the
line says what the entry says.

* `Entry.IsShownBy`, `Entry.HasMarks` — what the text and the marks of a line have to be for an entry;
* `Describes` — a line belongs to an entry that stands at a depth;
* `renderTree_describes` — the lines of the text and the entries of the summary.
-/

namespace LinkedSchema.Inspect

/-! ## Lines for entries -/

/-- A line: blanks, two for each level, then a text, and behind it marks in brackets if there are
any. -/
def markedLine (depth : Nat) (text : String) (marks : List String) : String :=
  String.ofList (List.replicate (2 * depth) ' ') ++ text ++
    if marks = [] then "" else " [" ++ String.intercalate ", " marks ++ "]"

namespace Entry

/-- Whether an entry says that its declaration is visible, if it says anything about that. -/
def visible? : Entry → Option Bool
  | .file _ _ _ _ _ visible _ | .message _ visible _ | .enum _ visible _ | .service _ visible _ =>
      some visible
  | .field _ member => some member.visible
  | .method _ member => some member.visible
  | .oneof .. | .enumValue .. => none

/-- Whether an entry says that its declaration is deprecated, if it says anything about that. -/
def deprecated? : Entry → Option Bool
  | .file _ _ _ _ _ _ deprecated | .message _ _ deprecated | .enum _ _ deprecated
  | .service _ _ deprecated => some deprecated
  | .field _ member => some member.deprecated
  | .method _ member => some member.deprecated
  | .oneof .. | .enumValue .. => none

/-- Whether an entry says that output is wanted; only files do. -/
def isGenerated : Entry → Bool
  | .file _ _ _ _ generate _ _ => generate
  | _ => false

/-- A text shows what an entry says: a word for the kind, the identifier or the name, and what else
there is of numbers, types and streaming. A oneof shows some names of members too. -/
def IsShownBy : Entry → String → Prop
  | .file _ name package syntaxLevel _ _ _, text =>
      text = "file " ++ name ++ " (package " ++ (if package = "" then "<none>" else package) ++
        ", " ++ syntaxLevel ++ ")"
  | .message id _ _, text => text = "message " ++ id
  | .field _ member, text =>
      text = "field " ++ member.name ++ " = " ++ toString member.number ++ " : " ++ member.type
  | .oneof _ name, text =>
      ∃ members, text = "oneof " ++ name ++ " \x7b" ++ String.intercalate ", " members ++ "\x7d"
  | .enum id _ _, text => text = "enum " ++ id
  | .enumValue _ name number, text => text = "value " ++ name ++ " = " ++ toString number
  | .service id _ _, text => text = "service " ++ id
  | .method _ member, text =>
      text = "rpc " ++ member.name ++ "(" ++
        (if member.clientStreaming then "stream " else "") ++ member.input ++ ") returns (" ++
        (if member.serverStreaming then "stream " else "") ++ member.output ++ ")"

/-- The marks for an entry are some of three words in a fixed order, and each is there just if the
entry says so. -/
structure HasMarks (entry : Entry) (marks : List String) : Prop where
  known : marks.Sublist ["generate", "hidden", "deprecated"]
  generate : "generate" ∈ marks ↔ entry.isGenerated = true
  hidden : ∀ visible, entry.visible? = some visible → ("hidden" ∈ marks ↔ visible = false)
  deprecated : ∀ deprecated, entry.deprecated? = some deprecated →
    ("deprecated" ∈ marks ↔ deprecated = true)

end Entry

/-- A line belongs to an entry that stands at a depth. -/
def Describes (entry : Nat × Entry) (line : String) : Prop :=
  ∃ text marks, line = markedLine entry.1 text marks ∧ entry.2.IsShownBy text ∧
    entry.2.HasMarks marks

/-! ## The line of each declaration -/

/-- The marks that say of something whether it is to be generated, visible and deprecated. -/
def marksFor (generate visible deprecated : Bool) : List String :=
  (if generate then ["generate"] else []) ++
    ((if visible then [] else ["hidden"]) ++ (if deprecated then ["deprecated"] else []))

theorem marksFor_sublist : ∀ generate visible deprecated,
    (marksFor generate visible deprecated).Sublist ["generate", "hidden", "deprecated"] := by
  decide

theorem mem_marksFor : ∀ generate visible deprecated,
    ("generate" ∈ marksFor generate visible deprecated ↔ generate = true) ∧
      ("hidden" ∈ marksFor generate visible deprecated ↔ visible = false) ∧
      ("deprecated" ∈ marksFor generate visible deprecated ↔ deprecated = true) := by
  decide

/-- An entry has the marks for what it says. -/
theorem Entry.hasMarks_marksFor {entry : Entry} {visible deprecated : Bool}
    (hvisible : ∀ said, entry.visible? = some said → said = visible)
    (hdeprecated : ∀ said, entry.deprecated? = some said → said = deprecated) :
    entry.HasMarks (marksFor entry.isGenerated visible deprecated) := by
  obtain ⟨hgenerate, hhidden, hmarked⟩ := mem_marksFor entry.isGenerated visible deprecated
  constructor
  case known => exact marksFor_sublist _ _ _
  case generate => exact hgenerate
  case hidden => exact fun said hsaid => hvisible said hsaid ▸ hhidden
  case deprecated => exact fun said hsaid => hdeprecated said hsaid ▸ hmarked

/-- Blanks, a text and marks without styles make a line. -/
theorem append_suffix (depth : Nat) (text : String) (marks : List String) :
    indent depth ++ text ++ suffix false marks = markedLine depth text marks := by
  unfold suffix markedLine indent
  cases marks <;> rfl

/-- A line that shows an entry and has the marks for it belongs to the entry. -/
theorem describes_of_eq {depth : Nat} {entry : Entry} {line text : String}
    {visible deprecated : Bool} (hshown : entry.IsShownBy text)
    (hline : line =
      indent depth ++ text ++ suffix false (marksFor entry.isGenerated visible deprecated))
    (hvisible : ∀ said, entry.visible? = some said → said = visible)
    (hdeprecated : ∀ said, entry.deprecated? = some said → said = deprecated) :
    Describes (depth, entry) line :=
  ⟨text, _, hline.trans (append_suffix _ _ _), hshown,
    Entry.hasMarks_marksFor hvisible hdeprecated⟩

section

variable (model : Model) (filter : Filter) (depth : Nat)

theorem describes_fileLine (file : File) :
    Describes (0, @entryOf model .file file) (fileLine model false file) := by
  refine @describes_of_eq _ _ _ _ (Model.fileVisible file) (Model.fileDeprecated file) rfl ?_
    (fun _ h => (Option.some.inj h).symm) (fun _ h => (Option.some.inj h).symm)
  have hpackage : (file.package.isEmpty = true) = (file.package = "") :=
    propext String.isEmpty_iff
  simp only [fileLine, Style.paint, String.append_assoc, hpackage]
  rfl

/-- The line of an entity that is shown by a coloured word and its identifier. -/
theorem describes_wordLine {kind : Kind} {entity : Entity kind} {entry : Entry} {colour : Colour}
    {text id : String} (hshown : entry.IsShownBy (text ++ " " ++ id))
    (hgenerate : entry.isGenerated = false)
    (hvisible : entry.visible? = some (model.isVisible entity))
    (hdeprecated : entry.deprecated? = some (model.isDeprecated entity)) :
    Describes (depth, entry)
      (indent depth ++ word false colour text ++ " " ++ id ++
        suffix false (marks model kind entity)) := by
  refine @describes_of_eq _ _ _ _ (model.isVisible entity) (model.isDeprecated entity) hshown ?_
    ?_ ?_
  · rw [hgenerate]
    simp only [word, Style.paint, String.append_assoc]
    rfl
  · exact fun said h => Option.some.inj (h.symm.trans hvisible)
  · exact fun said h => Option.some.inj (h.symm.trans hdeprecated)

theorem describes_fieldLine (message : String) (field : Field) :
    Describes (depth, .field message (summarizeField model field))
      (fieldLine model false depth field) := by
  refine describes_of_eq rfl ?_ (fun _ h => (Option.some.inj h).symm)
    (fun _ h => (Option.some.inj h).symm)
  simp only [fieldLine, summarizeField, String.append_assoc]
  rfl

theorem describes_oneofLine (message : String) (oneof : Oneof) :
    Describes (depth, .oneof message oneof.name) (oneofLine model depth oneof) := by
  refine @describes_of_eq _ _ _ _ true false ⟨(model.oneofFields oneof).map Field.name, rfl⟩ ?_
    nofun nofun
  simp only [oneofLine, String.append_assoc]
  rfl

theorem describes_valueLine (enum : String) (value : EnumValue) :
    Describes (depth, .enumValue enum value.name value.number)
      (valueLine model false depth value) := by
  refine @describes_of_eq _ _ _ _ (model.valueVisible value) (model.valueDeprecated value) rfl ?_
    nofun nofun
  simp only [valueLine, String.append_assoc]
  rfl

theorem describes_methodLine (service : String) (method : Method) :
    Describes (2, .method service (summarizeMethod model method))
      (methodLine model false method) := by
  refine describes_of_eq rfl ?_ (fun _ h => (Option.some.inj h).symm)
    (fun _ h => (Option.some.inj h).symm)
  simp only [methodLine, streamed, summarizeMethod, String.append_assoc]
  rfl

/-! ## The lines of declarations with their content -/

/-- Two lists made from one list by functions that agree on its elements. -/
theorem forall₂_map_map {α β γ : Type} {related : β → γ → Prop} {items : List α} {f : α → β}
    {g : α → γ} (h : ∀ item, related (f item) (g item)) :
    List.Forall₂ related (items.map f) (items.map g) := by
  rw [List.forall₂_map_left_iff, List.forall₂_map_right_iff, List.forall₂_same]
  exact fun item _ => h item

theorem forall₂_flatMap_flatMap {α β γ : Type} {related : β → γ → Prop} {items : List α}
    {f : α → List β} {g : α → List γ} (h : ∀ item, List.Forall₂ related (f item) (g item)) :
    List.Forall₂ related (items.flatMap f) (items.flatMap g) := by
  induction items with
  | nil => exact .nil
  | cons item items ih => exact List.rel_append (h item) ih

theorem describes_enumLines (enum : Enum) :
    List.Forall₂ Describes ((summarizeEnum model filter enum).entries depth)
      (enumLines model filter false depth enum) := by
  refine .cons (@describes_wordLine model depth .enum enum _ _ _ _ rfl rfl rfl rfl) ?_
  rw [summarizeEnum, List.map_map]
  exact forall₂_map_map fun value => describes_valueLine model (depth + 1) enum.id.text value

/-- The lines of a message follow its summary, however deep both go. -/
theorem describes_messageLines (limit depth : Nat) (message : Message) :
    List.Forall₂ Describes ((summarizeMessage model filter limit message).entries depth)
      (messageLines model filter false limit depth message) := by
  rw [entries_summarizeMessage, messageLines.eq_def]
  refine .cons (@describes_wordLine model depth .message message _ _ _ _ rfl rfl rfl rfl) ?_
  refine List.rel_append (List.rel_append (List.rel_append ?fields ?oneofs) ?nested) ?enums
  case fields => exact forall₂_map_map fun field => describes_fieldLine model _ _ field
  case oneofs => exact forall₂_map_map fun oneof => describes_oneofLine model _ _ oneof
  case nested =>
    -- Both recursions are on the limit, and a nested message stands one level deeper in both.
    cases limit with
    | zero => exact .nil
    | succ limit =>
        exact forall₂_flatMap_flatMap fun inner => describes_messageLines limit (depth + 1) inner
  case enums =>
    exact forall₂_flatMap_flatMap fun enum => describes_enumLines model filter _ enum

theorem describes_serviceLines (service : Service) :
    List.Forall₂ Describes ((summarizeService model filter service).entries 1)
      (serviceLines model filter false service) := by
  refine .cons (@describes_wordLine model 1 .service service _ _ _ _ rfl rfl rfl rfl) ?_
  rw [summarizeService, List.map_map]
  exact forall₂_map_map fun method => describes_methodLine model service.id.text method

theorem describes_fileLines (file : File) :
    List.Forall₂ Describes ((summarizeFile model filter file).entries 0)
      (fileLines model filter false file) := by
  refine .cons (describes_fileLine model file) ?_
  refine List.rel_append (List.rel_append ?_ ?_) ?_
  all_goals
    simp only [summarizeFile, List.flatMap_map]
    refine forall₂_flatMap_flatMap fun member => ?_
  · exact describes_messageLines model filter _ 1 member
  · exact describes_enumLines model filter 1 member
  · exact describes_serviceLines model filter member

/-- The indented text of a model without styles has one line for each entry of the summary, in the
order of the entries, and each line says what its entry says. -/
theorem renderTree_describes :
    ∃ lines, renderTree model filter false = String.join (lines.map (· ++ "\n")) ∧
      List.Forall₂ Describes (summarize model filter).entries lines := by
  refine ⟨treeLines model filter false, rfl, ?_⟩
  simp only [ModelSummary.entries, summarize, treeLines, List.flatMap_map]
  exact forall₂_flatMap_flatMap fun file => describes_fileLines model filter file

end

end LinkedSchema.Inspect
