import LinkedSchema.Json.Token

/-!
# Documents

JSON text as a tree in text order, with its faults kept where they stand. Nothing is refused here:
whether a fault counts, and which one counts first, depends on what a reader looks for. A reader that
walks the tree in text order meets the faults in text order, so one tree serves every reader.

* `ListEnd`, `ObjectEnd` — how a container ends, in the ways that matter to readers;
* `Document` — the tree;
* `Document.skip` — passing over a value nobody asked for, which is laxer than using it;
* `State`, `State.next`, `State.finish` — the reading of tokens, with the containers still open;
* `Reading.ofText` — the document of a text, and whether anything follows it.
-/

namespace LinkedSchema.Json

/-- How a list ends behind its last item. -/
inductive ListEnd
  | closed
  /-- Neither a comma nor the end of the list follows. -/
  | noComma
  /-- A comma stands before the end of the list. -/
  | danglingComma
  | cut
  | cutBehindComma
deriving DecidableEq

/-- How an object ends behind its last member. -/
inductive ObjectEnd
  | closed
  | noComma
  | danglingComma
  /-- A token that is no text stands where a key is due. -/
  | noKey
  | cut
  | cutBehindComma
deriving DecidableEq

/-- JSON text as it is written. Members keep their order and may repeat a key. -/
inductive Document
  | null
  | bool (value : Bool)
  | number (value : Scalar Number)
  | string (value : Scalar String)
  | list (items : List Document) (ending : ListEnd)
  | object (members : List (Scalar String × Document)) (ending : ObjectEnd)
  /-- The text ends where a value is due. -/
  | absent
  /-- A mark or a character that no value starts with. -/
  | stray
  | misspelt (fault : Fault)
  /-- The colon behind a key is missing, or the text ends before it. -/
  | noColon (fault : Fault)

/-- The fault at which a reader of the items stops. -/
def ListEnd.check : ListEnd → Except Fault Unit
  | .closed => .ok ()
  | .noComma => .error .expectedListCommaOrEnd
  | .danglingComma => .error .trailingComma
  | .cut => .error .endInList
  | .cutBehindComma => .error .endInValue

/-- The fault at which a reader stops that wants no further item. -/
def ListEnd.checkComplete : ListEnd → Except Fault Unit
  | .closed => .ok ()
  | .danglingComma => .error .trailingComma
  | .cut => .error .endInList
  | .noComma | .cutBehindComma => .error .trailingCharacters

/-- The fault at which skipping stops. -/
def ListEnd.skip : ListEnd → Except Fault Unit
  | .closed => .ok ()
  | .noComma => .error .expectedListCommaOrEnd
  | .danglingComma => .error .expectedValue
  | .cut => .error .endInList
  | .cutBehindComma => .error .endInValue

/-- The fault at which a reader of the members stops. -/
def ObjectEnd.check : ObjectEnd → Except Fault Unit
  | .closed => .ok ()
  | .noComma => .error .expectedObjectCommaOrEnd
  | .danglingComma => .error .trailingComma
  | .noKey => .error .keyNotString
  | .cut => .error .endInObject
  | .cutBehindComma => .error .endInValue

/-- The fault at which skipping stops. -/
def ObjectEnd.skip : ObjectEnd → Except Fault Unit
  | .closed => .ok ()
  | .noComma => .error .expectedObjectCommaOrEnd
  | .danglingComma | .noKey => .error .keyNotString
  | .cut | .cutBehindComma => .error .endInObject

mutual

/-- Passes over a value: its grammar is checked, its texts and numbers are not, and it may be nested
to any depth. -/
def Document.skip : Document → Except Fault Unit
  | .null | .bool _ => .ok ()
  | .number value => value.skipped
  | .string value => value.skipped
  | .list items ending => do skipItems items; ending.skip
  | .object members ending => do skipMembers members; ending.skip
  | .absent => .error .endInValue
  | .stray => .error .expectedValue
  | .misspelt fault => .error fault
  | .noColon fault => .error fault

@[inherit_doc Document.skip]
def skipItems : List Document → Except Fault Unit
  | [] => .ok ()
  | item :: items => do item.skip; skipItems items

@[inherit_doc Document.skip]
def skipMembers : List (Scalar String × Document) → Except Fault Unit
  | [] => .ok ()
  | (key, value) :: members => do key.skipped; value.skip; skipMembers members

end

/-! ## From tokens to the tree -/

/-- A container whose end has not been read, with the items or members before the one being read,
last first. -/
inductive Open
  | list (items : List Document)
  | object (members : List (Scalar String × Document)) (key : Scalar String)

/-- What has been read, and what is due next. `outer` holds the open containers, innermost first. -/
inductive State
  | valueDue (outer : List Open)
  | firstItem (outer : List Open)
  | behindItem (items : List Document) (outer : List Open)
  | behindListComma (items : List Document) (outer : List Open)
  | firstKey (outer : List Open)
  | colon (members : List (Scalar String × Document)) (key : Scalar String) (outer : List Open)
  | behindMember (members : List (Scalar String × Document)) (outer : List Open)
  | behindObjectComma (members : List (Scalar String × Document)) (outer : List Open)
  | done (document : Document) (trailing : Bool)

/-- Takes a value that has been read to its end. -/
def State.complete (document : Document) : List Open → State
  | [] => .done document false
  | .list items :: outer => .behindItem (document :: items) outer
  | .object members key :: outer => .behindMember ((key, document) :: members) outer

/-- Ends a list. -/
def State.endList (items : List Document) (ending : ListEnd) (outer : List Open) : State :=
  .complete (.list items.reverse ending) outer

/-- Ends an object. -/
def State.endObject (members : List (Scalar String × Document)) (ending : ObjectEnd)
    (outer : List Open) : State :=
  .complete (.object members.reverse ending) outer

/-- Takes the token that a value starts with. -/
def State.startValue (outer : List Open) : Token → State
  | .openList => .firstItem outer
  | .openObject => .firstKey outer
  | .null => .complete .null outer
  | .bool value => .complete (.bool value) outer
  | .number value => .complete (.number value) outer
  | .string value => .complete (.string value) outer
  | .misspelt fault => .complete (.misspelt fault) outer
  | .closeList | .closeObject | .comma | .colon | .stray => .complete .stray outer

/-- Takes the next token. Behind a fault the tree goes on in some way; no reader gets there. -/
def State.next : State → Token → State
  | .valueDue outer, token => .startValue outer token
  | .firstItem outer, .closeList => .endList [] .closed outer
  | .firstItem outer, token => .startValue (.list [] :: outer) token
  | .behindItem items outer, .closeList => .endList items .closed outer
  | .behindItem items outer, .comma => .behindListComma items outer
  | .behindItem items outer, _ => .endList items .noComma outer
  | .behindListComma items outer, .closeList => .endList items .danglingComma outer
  | .behindListComma items outer, token => .startValue (.list items :: outer) token
  | .firstKey outer, .closeObject => .endObject [] .closed outer
  | .firstKey outer, .string key => .colon [] key outer
  | .firstKey outer, _ => .endObject [] .noKey outer
  | .colon members key outer, .colon => .valueDue (.object members key :: outer)
  | .colon members key outer, _ =>
      .complete (.noColon .expectedColon) (.object members key :: outer)
  | .behindMember members outer, .closeObject => .endObject members .closed outer
  | .behindMember members outer, .comma => .behindObjectComma members outer
  | .behindMember members outer, _ => .endObject members .noComma outer
  | .behindObjectComma members outer, .closeObject => .endObject members .danglingComma outer
  | .behindObjectComma members outer, .string key => .colon members key outer
  | .behindObjectComma members outer, _ => .endObject members .noKey outer
  | .done document _, _ => .done document true

/-- Closes the containers in which the text ends. -/
def closeOpen (document : Document) : List Open → Document
  | [] => document
  | .list items :: outer => closeOpen (.list (document :: items).reverse .cut) outer
  | .object members key :: outer =>
      closeOpen (.object ((key, document) :: members).reverse .cut) outer

/-- The document of a text, and whether more than blanks follows it. -/
structure Reading where
  document : Document
  trailing : Bool

/-- Ends the reading where the text ends. -/
def State.finish : State → Reading
  | .valueDue outer => ⟨closeOpen .absent outer, false⟩
  | .firstItem outer => ⟨closeOpen (.list [] .cut) outer, false⟩
  | .behindItem items outer => ⟨closeOpen (.list items.reverse .cut) outer, false⟩
  | .behindListComma items outer =>
      ⟨closeOpen (.list items.reverse .cutBehindComma) outer, false⟩
  | .firstKey outer => ⟨closeOpen (.object [] .cut) outer, false⟩
  | .colon members key outer =>
      ⟨closeOpen (.noColon .endInObject) (.object members key :: outer), false⟩
  | .behindMember members outer => ⟨closeOpen (.object members.reverse .cut) outer, false⟩
  | .behindObjectComma members outer =>
      ⟨closeOpen (.object members.reverse .cutBehindComma) outer, false⟩
  | .done document trailing => ⟨document, trailing⟩

/-- Reads a text to its end. -/
def Reading.ofText (text : String) : Reading :=
  ((Token.ofText text).foldl State.next (.valueDue [])).finish

end LinkedSchema.Json
