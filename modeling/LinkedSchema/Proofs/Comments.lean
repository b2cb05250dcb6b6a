import LinkedSchema.Proofs.Containment
import Mathlib.Algebra.Group.Nat.Defs
import Mathlib.Data.List.Induction

/-!
# Comments by place

A compiler records comments by place, and registration makes the path of each declaration anew at
each site. Here the place of a declaration is told by the numbers of the descriptor format, and it
is shown that following these numbers leads back to the declaration. So comments that are recorded
for a place belong to one declaration of the file, and no other declaration gets them.

* `Location.IsCommented`, `Location.HasText` — two senses in which a location has comments;
* `LastAt`, `CommentsFrom` — the last location that counts for a path, and its comments;
* `CommentTable.lookup_ofLocations` — what a table of comments answers;
* `Declaration.place`, `FileDescriptor.declarationAt?` — the place of a declaration, and the way
  back;
* `Model.AttachesComments`, `Model.attachesComments_of_ok` — the comments of the entities of every
  model.
-/

namespace LinkedSchema

/-! ## Recorded comments -/

namespace Location

/-- A comment is recorded: a leading or trailing one that is not empty, or any detached one. -/
def IsCommented (location : Location) : Prop :=
  location.leadingComments.getD "" ≠ "" ∨ location.trailingComments.getD "" ≠ "" ∨
    location.leadingDetachedComments ≠ []

/-- A comment with some text is recorded. A detached comment may be recorded without any. -/
def HasText (location : Location) : Prop :=
  location.leadingComments.getD "" ≠ "" ∨ location.trailingComments.getD "" ≠ "" ∨
    ∃ comment ∈ location.leadingDetachedComments, comment ≠ ""

end Location

/-- The location at a position of a list is the last one with a path among those that count. -/
structure LastAt (Counts : Location → Prop) (locations : List Location) (path : List Int)
    (position : Nat) (location : Location) : Prop where
  getElem?_eq : locations[position]? = some location
  path_eq : location.path = path
  counts : Counts location
  last : ∀ later other, position < later → locations[later]? = some other → other.path = path →
    ¬ Counts other

/-- Comments are those of the last location with a path among those that count, and empty if there
is none. -/
def CommentsFrom (Counts : Location → Prop) (locations : List Location) (path : List Int)
    (comments : Comments) : Prop :=
  (∃ position location, LastAt Counts locations path position location ∧
    comments = .ofLocation location) ∨
  (∀ location ∈ locations, location.path = path → ¬ Counts location) ∧ comments = {}

section

variable {Counts : Location → Prop} {locations : List Location} {location : Location}
  {path : List Int} {comments : Comments}

/-- A location that counts is the last one of its path when it is added. -/
theorem LastAt.append_self (h : Counts location) :
    LastAt Counts (locations ++ [location]) location.path locations.length location where
  getElem?_eq := by simp
  path_eq := rfl
  counts := h
  last later other hlater hother := by
    rw [List.getElem?_eq_none (by simp; omega)] at hother
    cases hother

theorem CommentsFrom.append_self (h : Counts location) :
    CommentsFrom Counts (locations ++ [location]) location.path (.ofLocation location) :=
  Or.inl ⟨_, _, .append_self h, rfl⟩

/-- A location that does not count, or has another path, changes nothing when it is added. -/
theorem CommentsFrom.append_other (h : CommentsFrom Counts locations path comments)
    (hother : location.path = path → ¬ Counts location) :
    CommentsFrom Counts (locations ++ [location]) path comments := by
  rcases h with ⟨position, found, hlast, hcomments⟩ | ⟨hnone, hcomments⟩
  · refine Or.inl ⟨position, found, ⟨?_, hlast.path_eq, hlast.counts, ?_⟩, hcomments⟩
    · obtain ⟨hlt, -⟩ := List.getElem?_eq_some_iff.mp hlast.getElem?_eq
      rw [List.getElem?_append_left hlt, hlast.getElem?_eq]
    · intro later other hlater hat hpath
      -- What stands behind the old list is the location that was added.
      rcases Nat.lt_or_ge later locations.length with hlt | hge
      · rw [List.getElem?_append_left hlt] at hat
        exact hlast.last later other hlater hat hpath
      · rw [List.getElem?_append_right hge] at hat
        obtain rfl := List.mem_singleton.mp (List.mem_of_getElem? hat)
        exact hother hpath
  · refine Or.inr ⟨?_, hcomments⟩
    simp only [List.forall_mem_append, List.forall_mem_singleton]
    exact ⟨hnone, hother⟩

end

namespace CommentTable

/-- A table takes a location up just if it is commented. -/
theorem isEmpty_ofLocation_iff (location : Location) :
    (Comments.ofLocation location).isEmpty = true ↔ ¬ location.IsCommented := by
  simp [Comments.ofLocation, Comments.isEmpty, Location.IsCommented, and_assoc]

theorem lookup_record_self (table : CommentTable) {location : Location}
    (h : location.IsCommented) :
    (table.record location).lookup location.path = .ofLocation location := by
  have hempty : ¬ (Comments.ofLocation location).isEmpty = true :=
    fun hempty => (isEmpty_ofLocation_iff location).mp hempty h
  simp [record, lookup, hempty]

theorem lookup_record_of_not (table : CommentTable) {location : Location} {path : SourcePath}
    (h : location.path = path → ¬ location.IsCommented) :
    (table.record location).lookup path = table.lookup path := by
  unfold record
  by_cases hempty : (Comments.ofLocation location).isEmpty = true
  · simp [hempty]
  · have hpath : location.path ≠ path :=
      fun hpath => hempty ((isEmpty_ofLocation_iff location).mpr (h hpath))
    simp [hempty, lookup, Std.TreeMap.getElem?_insert, hpath]

/-- A table answers with the comments of the last commented location of a path. -/
theorem lookup_ofLocations (locations : List Location) (path : SourcePath) :
    CommentsFrom Location.IsCommented locations path ((ofLocations locations).lookup path) := by
  induction locations using List.reverseRecOn with
  | nil => exact Or.inr ⟨nofun, by simp [ofLocations, lookup]⟩
  | append_singleton locations location ih =>
      have hsnoc : ofLocations (locations ++ [location]) =
          (ofLocations locations).record location := by
        simp [ofLocations]
      rw [hsnoc]
      by_cases hself : location.path = path ∧ location.IsCommented
      · obtain ⟨rfl, hcommented⟩ := hself
        rw [lookup_record_self _ hcommented]
        exact .append_self hcommented
      · rw [lookup_record_of_not _ (not_and.mp hself)]
        exact ih.append_other (not_and.mp hself)

end CommentTable

/-! ## Places -/

namespace Declaration

/-- The numbers that lead from a file to a declaration: for each list on the way its field number in
the descriptor format, and the position in the list. -/
def trail : {kind : Kind} → Declaration kind → List Int
  | _, .file _ => []
  | _, .message _ position _ => [4, position]
  | _, .enum _ position _ => [5, position]
  | _, .service _ position _ => [6, position]
  | _, .field around position _ => around.trail ++ [2, (position : Int)]
  | _, .nested around position _ => around.trail ++ [3, (position : Int)]
  | _, .nestedEnum around position _ => around.trail ++ [4, (position : Int)]
  | _, .oneof around position _ => around.trail ++ [8, (position : Int)]
  | _, .enumValue around position _ => around.trail ++ [2, (position : Int)]
  | _, .method around position _ => around.trail ++ [2, (position : Int)]

/-- The place of a declaration in its file. Comments on a file are those on its package statement,
which has the field number 2. -/
def place : {kind : Kind} → Declaration kind → List Int
  | .file, _ => [2]
  | _, declaration => declaration.trail

/-- What stands in a declaration at a position of the list with a field number. -/
def memberAt? : {kind : Kind} → Declaration kind → Int → Int → Option (Sigma Declaration)
  | .file, owner, 4, index => (atIndex? owner.source.topMessages index).map (.mk .message)
  | .file, owner, 5, index => (atIndex? owner.source.topEnums index).map (.mk .enum)
  | .file, owner, 6, index => (atIndex? owner.source.topServices index).map (.mk .service)
  | .message, owner, 2, index => (atIndex? owner.fields index).map (.mk .field)
  | .message, owner, 3, index => (atIndex? owner.messages index).map (.mk .message)
  | .message, owner, 4, index => (atIndex? owner.enums index).map (.mk .enum)
  | .message, owner, 8, index => (atIndex? owner.oneofs index).map (.mk .oneof)
  | .enum, owner, 2, index => (atIndex? owner.values index).map (.mk .enumValue)
  | .service, owner, 2, index => (atIndex? owner.methods index).map (.mk .method)
  | _, _, _, _ => none

/-- What is found by following field numbers and positions from a declaration on. -/
def descend? : Sigma Declaration → List Int → Option (Sigma Declaration)
  | found, [] => some found
  | _, [_] => none
  | found, number :: index :: path => (found.2.memberAt? number index).bind (descend? · path)

end Declaration

/-- What stands at a place in a file: the file itself at the place of its package statement, and
otherwise what is found by following the numbers of the place. -/
def FileDescriptor.declarationAt? (file : FileDescriptor) (place : List Int) :
    Option (Sigma Declaration) :=
  if place = [2] then some ⟨.file, .file file⟩
  else Declaration.descend? ⟨.file, .file file⟩ place

/-- No list of declarations in a request is longer than a bound. -/
def Request.ListsWithin (request : Request) (bound : Nat) : Prop :=
  ∀ {kind : Kind}, ∀ owner ∈ request.declarations kind, ∀ child,
    (owner.members child).length ≤ bound

namespace Declaration

/-! ### From a place back to its declaration -/

theorem descend?_append (found : Sigma Declaration) (path : List Int) (number index : Int) :
    descend? found (path ++ [number, index]) =
      (descend? found path).bind fun owner => owner.2.memberAt? number index := by
  induction found, path using descend?.induct with
  | case1 found => simp [descend?]
  | case2 found part =>
      simp only [List.cons_append, List.nil_append, descend?, Option.bind_none]
      cases found.2.memberAt? part number <;> rfl
  | case3 found first position path ih =>
      simp only [List.cons_append, descend?]
      cases hfound : found.2.memberAt? first position with
      | none => rfl
      | some next => exact ih next

/-- What is made of the elements of a list and their positions stands at these positions. -/
theorem exists_position {α β : Type} {items : List α} {f : α × Nat → β} {member : β}
    (h : member ∈ items.zipIdx.map f) :
    ∃ item position, f (item, position) = member ∧ position < (items.zipIdx.map f).length ∧
      atIndex? (items.zipIdx.map f) position = some member := by
  obtain ⟨⟨item, position⟩, hmem, rfl⟩ := List.mem_map.mp h
  have hitem : items[position]? = some item := List.mk_mem_zipIdx_iff_getElem?.mp hmem
  obtain ⟨hlt, -⟩ := List.getElem?_eq_some_iff.mp hitem
  refine ⟨item, position, rfl, by simpa using hlt, ?_⟩
  rw [atIndex?_eq_some_iff]
  exact ⟨position, rfl, by simp [hitem]⟩

/-- A member of a declaration stands in one of its lists, below the length of the list, and its
trail goes on by the number of the list and the position. -/
theorem exists_memberAt? {kind child : Kind} {owner : Declaration kind}
    {member : Declaration child} (h : member ∈ owner.members child) :
    ∃ (number : Int) (position : Nat), position < (owner.members child).length ∧
      member.trail = owner.trail ++ [number, (position : Int)] ∧
      owner.memberAt? number position = some ⟨child, member⟩ := by
  cases kind <;> cases child <;> try exact absurd h List.not_mem_nil
  case file.message | file.enum | file.service =>
    cases owner
    obtain ⟨_, position, rfl, hlt, hat⟩ := exists_position h
    exact ⟨_, position, hlt, rfl, congrArg (Option.map (Sigma.mk _)) hat⟩
  all_goals
    obtain ⟨_, position, rfl, hlt, hat⟩ := exists_position h
    exact ⟨_, position, hlt, rfl, congrArg (Option.map (Sigma.mk _)) hat⟩

/-- From the file the trail of a declaration leads to the declaration. -/
theorem descend?_trail {file : FileDescriptor} {kind : Kind} {declaration : Declaration kind}
    (h : declaration ∈ file.declarations kind) :
    descend? ⟨.file, .file file⟩ declaration.trail = some ⟨kind, declaration⟩ := by
  refine @FileDescriptor.declaration_induction file (fun {kind} declaration =>
    descend? ⟨.file, .file file⟩ declaration.trail = some ⟨kind, declaration⟩) rfl ?_ kind
    declaration h
  intro kind child owner member _ hmember howner
  obtain ⟨number, position, -, htrail, hat⟩ := exists_memberAt? hmember
  rw [htrail, descend?_append, howner, Option.bind_some, hat]

/-- Trails are made of pairs, so the place of the package statement is none of them. -/
theorem trail_ne {kind : Kind} (declaration : Declaration kind) : declaration.trail ≠ [2] := by
  cases declaration <;> simp [trail, List.append_eq_singleton_iff]

theorem place_eq_trail {kind : Kind} (hkind : kind ≠ .file) (declaration : Declaration kind) :
    declaration.place = declaration.trail := by
  cases kind <;> first | rfl | exact absurd rfl hkind

/-- What stands at the place of a declaration is the declaration. -/
theorem declarationAt?_place {file : FileDescriptor} {kind : Kind} {declaration : Declaration kind}
    (h : declaration ∈ file.declarations kind) :
    file.declarationAt? declaration.place = some ⟨kind, declaration⟩ := by
  by_cases hkind : kind = .file
  · subst hkind
    rw [List.mem_singleton.mp h]
    rfl
  · rw [place_eq_trail hkind, FileDescriptor.declarationAt?, if_neg declaration.trail_ne,
      descend?_trail h]

/-! ### Paths and places -/

/-- Positions below 2^31 are the same as signed numbers of 32 bits. -/
theorem child_eq {position : Nat} (h : position < 2 ^ 31) (path : SourcePath) (number : Int) :
    path.child number position = path ++ [number, (position : Int)] := by
  rw [SourcePath.child, Int32.toInt_ofNat_of_lt h]

/-- In lists that are not too long the path that registration makes for a member is the place of the
member, if that holds of what is around it. -/
theorem path_eq_place_of_mem_members {kind child : Kind} {owner : Declaration kind}
    {member : Declaration child} (h : member ∈ owner.members child)
    (hlength : (owner.members child).length ≤ 2 ^ 31) (howner : owner.path = owner.place) :
    member.path = member.place := by
  cases kind <;> cases child <;> try exact absurd h List.not_mem_nil
  all_goals
    obtain ⟨_, position, rfl, hlt, -⟩ := exists_position h
    have hchild := @child_eq position (Nat.lt_of_lt_of_le hlt hlength)
  case file.message | file.enum | file.service =>
    exact hchild [] _
  all_goals
    exact (hchild owner.path _).trans (congrArg (· ++ _) howner)

/-- In a request without lists that are too long, registration makes the places of declarations. -/
theorem path_eq_place {request : Request} (hbound : request.ListsWithin (2 ^ 31)) {kind : Kind}
    {declaration : Declaration kind} (h : declaration ∈ request.declarations kind) :
    declaration.path = declaration.place := by
  obtain ⟨file, hfile, hmem⟩ := Request.mem_declarations.mp h
  refine @FileDescriptor.declaration_induction file (fun declaration =>
    declaration.path = declaration.place) rfl ?_ kind declaration hmem
  intro kind child owner member howner hmember hpath
  have hdeclared := Request.mem_declarations.mpr ⟨file, hfile, howner⟩
  exact path_eq_place_of_mem_members hmember (hbound owner hdeclared child) hpath

/-- An entity has the comments that the table of its file has for its path. -/
theorem comments_entity (extensions : ExtensionNames) (filesToGenerate : List String) {kind : Kind}
    (declaration : Declaration kind) :
    (declaration.entity extensions filesToGenerate).comments =
      (CommentTable.ofLocations (declaration.source.locations.getD [])).lookup
        declaration.path := by
  cases declaration <;> rfl

end Declaration

/-! ## Comments of entities -/

/-- A location of a file, given by its position, supplies the comments of a declaration. -/
def Supplies (Counts : Location → Prop) (file : FileDescriptor) (position : Nat)
    (declaration : Sigma Declaration) : Prop :=
  declaration.2.source = file ∧
    ∃ location, LastAt Counts (file.locations.getD []) declaration.2.place position location

/-- The comments of a model are those that its files record for the places of the entities, if some
of the locations count. -/
structure Model.AttachesComments (Counts : Location → Prop) (request : Request) (model : Model) :
    Prop where
  /-- An entity has the comments of the last location that counts for its place in its file. -/
  comments : ∀ {kind : Kind} {entity : Entity kind}, model.Has ⟨kind, entity⟩ →
    ∃ declaration ∈ request.declarations kind, Carries model entity declaration ∧
      CommentsFrom Counts (declaration.source.locations.getD []) declaration.place entity.comments
  /-- Following the place of a declaration in its file leads to the declaration. -/
  decodes : ∀ {kind : Kind}, ∀ declaration ∈ request.declarations kind,
    declaration.source.declarationAt? declaration.place = some ⟨kind, declaration⟩
  /-- Declarations of one file that have the same place are the same. -/
  distinct : ∀ {kind other : Kind}, ∀ declaration ∈ request.declarations kind,
    ∀ another ∈ request.declarations other, declaration.source = another.source →
      declaration.place = another.place → (⟨kind, declaration⟩ : Sigma Declaration) =
        ⟨other, another⟩
  /-- A location supplies at most one declaration. -/
  once : ∀ {kind other : Kind} {file : FileDescriptor} {position : Nat},
    ∀ declaration ∈ request.declarations kind, ∀ another ∈ request.declarations other,
      Supplies Counts file position ⟨kind, declaration⟩ →
      Supplies Counts file position ⟨other, another⟩ →
        (⟨kind, declaration⟩ : Sigma Declaration) = ⟨other, another⟩
  /-- What other files record has no influence: a file of two models has the same comments in
  both. -/
  independent : ∀ {another : Request} {config : Config} {other : Model},
    (Model.ofRequest another config).outcome = .ok other →
    ∀ {kind : Kind}, ∀ declaration ∈ request.declarations kind,
      declaration ∈ another.declarations kind →
        (model.get? kind declaration.id.text).map Entity.comments =
          (other.get? kind declaration.id.text).map Entity.comments

namespace Request

variable {request : Request}

/-- The lists of declarations in a request are no longer than the lists of all its declarations. -/
theorem listsWithin_of_length_le {bound : Nat}
    (h : ∀ kind, (request.declarations kind).length ≤ bound) : request.ListsWithin bound :=
  fun _ howner child => Nat.le_trans (members_sublist howner child).length_le (h child)

/-- What stands at the place of a declaration of a request, in its file, is the declaration. -/
theorem declarationAt?_place {kind : Kind} {declaration : Declaration kind}
    (h : declaration ∈ request.declarations kind) :
    declaration.source.declarationAt? declaration.place = some ⟨kind, declaration⟩ := by
  obtain ⟨file, -, hmem⟩ := mem_declarations.mp h
  rw [FileDescriptor.source_of_mem hmem, Declaration.declarationAt?_place hmem]

/-- Declarations of one file with the same place are the same. -/
theorem eq_of_place_eq {kind other : Kind} {declaration : Declaration kind}
    {another : Declaration other} (h : declaration ∈ request.declarations kind)
    (hother : another ∈ request.declarations other) (hsource : declaration.source = another.source)
    (hplace : declaration.place = another.place) :
    (⟨kind, declaration⟩ : Sigma Declaration) = ⟨other, another⟩ := by
  have hat := declarationAt?_place h
  rw [hsource, hplace, declarationAt?_place hother] at hat
  exact (Option.some.inj hat).symm

end Request

/-- The comments of an entity are those that the table of its file has for the path of its
declaration. -/
theorem Links.get?_comments {request : Request} {config : Config} {model : Model}
    (h : Links request config model) {kind : Kind} {declaration : Declaration kind}
    (hmem : declaration ∈ request.declarations kind) :
    (model.get? kind declaration.id.text).map Entity.comments =
      some ((CommentTable.ofLocations (declaration.source.locations.getD [])).lookup
        declaration.path) := by
  rw [Model.get?, h.get?_id hmem, Option.map_some, declaration.comments_entity]

/-- In every model of a request without lists that are too long for 32 bits, an entity has the
comments of the last commented location for its place, and no other entity has these. A location is
commented if it has a leading or trailing comment that is not empty, or any detached comment. -/
theorem Model.attachesComments_of_ok {request : Request} {config : Config} {model : Model}
    (h : (Model.ofRequest request config).outcome = .ok model)
    (hbound : request.ListsWithin (2 ^ 31)) :
    model.AttachesComments Location.IsCommented request := by
  have hlinks := Model.links_of_ok h
  constructor
  case comments =>
    intro kind entity hentity
    obtain ⟨declaration, hmem, rfl⟩ := hlinks.exists_of_has hentity
    refine ⟨declaration, hmem, hlinks.carries_entity hmem, ?_⟩
    rw [declaration.comments_entity, Declaration.path_eq_place hbound hmem]
    exact CommentTable.lookup_ofLocations _ _
  case decodes => exact fun declaration hmem => Request.declarationAt?_place hmem
  case distinct =>
    exact fun declaration hmem another hanother => Request.eq_of_place_eq hmem hanother
  case once =>
    rintro kind other file position declaration hmem another hanother ⟨hsource, location, hlast⟩
      ⟨hother, found, hfound⟩
    -- Both places are the path of the one location at the position.
    have hsame : location = found :=
      Option.some.inj (hlast.getElem?_eq.symm.trans hfound.getElem?_eq)
    have hplace : declaration.place = another.place := by
      rw [← hlast.path_eq, hsame, hfound.path_eq]
    exact Request.eq_of_place_eq hmem hanother (hsource.trans hother.symm) hplace
  case independent =>
    intro another config other hother kind declaration hmem hanother
    rw [hlinks.get?_comments hmem, (Model.links_of_ok hother).get?_comments hanother]

/-- The file of shapes with comments on the package statement, on a field of a nested message and on
a value of a nested enum, one of them recorded twice. -/
def annotatedRequest : Request where
  files := [{ shapesFile with
    locations := some [
      { path := [2], leadingComments := some "Shapes." },
      { path := [4, 0, 3, 0, 2, 0], trailingComments := some "to the right" },
      { path := [4, 0, 4, 0, 2, 0], leadingComments := some "like a rose" },
      { path := [4, 0, 4, 0, 2, 0], leadingComments := some "like blood" }] }]

/-- The model of the annotated file. -/
theorem Model.attachesComments_annotatedRequest :
    ∃ model, (Model.ofRequest annotatedRequest {}).outcome = .ok model ∧
      annotatedRequest.ListsWithin (2 ^ 31) ∧
      model.AttachesComments Location.IsCommented annotatedRequest := by
  obtain ⟨model, hmodel, -⟩ := @Model.exists_ofRequest_eq_ok annotatedRequest {} (by decide +kernel)
  have hbound : annotatedRequest.ListsWithin (2 ^ 31) :=
    Request.listsWithin_of_length_le fun kind => by cases kind <;> decide +kernel
  exact ⟨model, hmodel, hbound, Model.attachesComments_of_ok hmodel hbound⟩

/-- A file in which a detached comment without text is recorded behind a leading comment. -/
def emptyDetachedFile : FileDescriptor where
  name := "a.proto"
  locations := some [
    { path := [2], leadingComments := some "x" },
    { path := [2], leadingDetachedComments := [""] }]

/-- A request of that file. -/
def emptyDetachedRequest : Request where
  files := [emptyDetachedFile]

/-- A detached comment without text takes the place of an earlier comment that has some: what counts
is not that a comment has some text. -/
theorem Model.not_attachesComments_emptyDetachedRequest :
    ∃ model, (Model.ofRequest emptyDetachedRequest {}).outcome = .ok model ∧
      emptyDetachedRequest.ListsWithin (2 ^ 31) ∧
      ¬ model.AttachesComments Location.HasText emptyDetachedRequest := by
  obtain ⟨model, hmodel, hlinks⟩ :=
    @Model.exists_ofRequest_eq_ok emptyDetachedRequest {} (by decide +kernel)
  have hbound : emptyDetachedRequest.ListsWithin (2 ^ 31) :=
    Request.listsWithin_of_length_le fun kind => by cases kind <;> decide +kernel
  refine ⟨model, hmodel, hbound, fun hattaches => ?_⟩
  have hmem : .file emptyDetachedFile ∈ emptyDetachedRequest.declarations .file :=
    List.mem_singleton.mpr rfl
  obtain ⟨declaration, hdeclared, -, hfrom⟩ := hattaches.comments (hlinks.has_entity hmem)
  obtain rfl := List.mem_singleton.mp hdeclared
  -- The file has the empty detached comment.
  have hcommented : Location.IsCommented { path := [2], leadingDetachedComments := [""] } :=
    Or.inr (Or.inr (List.cons_ne_nil _ _))
  have hdetached : (emptyDetachedRequest.entity {} (.file emptyDetachedFile)).comments =
      .ofLocation { path := [2], leadingDetachedComments := [""] } := by
    rw [Declaration.comments_entity]
    exact CommentTable.lookup_record_self _ hcommented
  rw [hdetached] at hfrom
  rcases hfrom with ⟨position, location, hlast, hsame⟩ | ⟨hnone, -⟩
  · have hat := hlast.getElem?_eq
    match position with
    | 0 =>
        obtain rfl := Option.some.inj hat
        exact absurd (congrArg Comments.leading hsame) (by decide)
    | 1 =>
        obtain rfl := Option.some.inj hat
        exact absurd hlast.counts (by simp [Location.HasText])
    | position + 2 => cases hat
  · exact hnone _ List.mem_cons_self rfl (Or.inl (by decide))

end LinkedSchema
