import LinkedSchema.Proofs.Containment
import Mathlib.Data.List.Pairwise

/-!
# Identifiers across kinds

An arena takes an identifier once, so entities of one kind have different identifiers. Between the
arenas nothing is compared. A type is identified by its qualified name, whatever its kind, and a member
by its name behind a colon; where names have no colons themselves, identifiers tell on which side of
the colon they differ, and entities of different kinds share one in three cases only.

* `Model.identifiers` — the identifiers of all entities of a model;
* `Request.PlainNames` — the names of a request can be told from separators;
* `Request.TellsApart` — none of the three cases occurs;
* `Model.identifiers_of_ok` — the identifiers of a model are all different exactly then;
* `Model.not_nodup_identifiers_clashingRequest` — a message and an enum with one identifier.
-/

namespace LinkedSchema

namespace Kind

/-- All kinds. -/
def all : List Kind :=
  [.file, .message, .field, .oneof, .enum, .enumValue, .service, .method]

/-- The kinds that are identified by qualified names. -/
def isType : Kind → Bool
  | .message | .enum | .service => true
  | .file | .field | .oneof | .enumValue | .method => false

/-- The kinds that are identified by names behind a colon, in the scope of a type. -/
def isMember : Kind → Bool
  | .field | .oneof | .enumValue | .method => true
  | .file | .message | .enum | .service => false

/-- The kinds fall into three groups. -/
theorem file_or_type_or_member (kind : Kind) :
    kind = .file ∨ kind.isType = true ∨ kind.isMember = true := by
  cases kind <;> decide

theorem mem_all (kind : Kind) : kind ∈ all := by
  cases kind <;> decide

theorem pairwise_all : all.Pairwise (· ≠ ·) := by
  decide

end Kind

/-- The identifiers of all entities of a model, kind by kind. -/
def Model.identifiers (model : Model) : List String :=
  Kind.all.flatMap fun kind => (model.registry.arena kind).toList.map (·.id.text)

namespace Request

variable (request : Request)

/-- No package and no name of a type has a colon. -/
structure PlainNames : Prop where
  package : ∀ file ∈ request.files, ':' ∉ file.package.toList
  type : ∀ {kind : Kind}, kind.isType = true → ∀ declaration ∈ request.declarations kind,
    ':' ∉ declaration.name.toList

/-- The names in a request tell declarations of different kinds apart. -/
structure TellsApart : Prop where
  /-- Types of different kinds have different qualified names. -/
  types : ∀ {kind other : Kind} {type : Declaration kind} {twin : Declaration other},
    type ∈ request.declarations kind → twin ∈ request.declarations other →
      kind.isType = true → other.isType = true → type.id.text = twin.id.text → kind = other
  /-- No oneof has the name of a field of its message. -/
  members : ∀ message ∈ request.declarations .message, ∀ field ∈ message.fields,
    ∀ oneof ∈ message.oneofs, field.name ≠ oneof.name
  /-- No file has the name of a member of a type that is called like the package of the file. -/
  files : ∀ file ∈ request.files, ∀ {outer : Kind}, ∀ type ∈ request.declarations outer,
    type.id.text = "." ++ file.package → ∀ {kind : Kind}, kind.isMember = true →
      ∀ member ∈ type.members kind, member.name ≠ file.name

end Request

/-! ## Texts with a colon -/

/-- What stands before the first colon of a text, and what behind it, is determined by the text. -/
theorem colon_injective {scope other name rest : String} (hscope : ':' ∉ scope.toList)
    (hother : ':' ∉ other.toList) (h : scope ++ ":" ++ name = other ++ ":" ++ rest) :
    scope = other ∧ name = rest := by
  have hbefore : ∀ {text : String}, ':' ∉ text.toList → ∀ more : List Char,
      (text.toList ++ ':' :: more).takeWhile (· != ':') = text.toList := by
    intro text htext more
    rw [List.takeWhile_append_of_pos]
    · simp
    · intro char hchar
      exact bne_iff_ne.mpr fun hcolon => htext (hcolon ▸ hchar)
  have hchars := congrArg String.toList h
  simp only [String.toList_append, List.append_assoc] at hchars
  change scope.toList ++ ':' :: name.toList = other.toList ++ ':' :: rest.toList at hchars
  have hsame : scope.toList = other.toList := by
    rw [← hbefore hscope name.toList, hchars, hbefore hother]
  rw [hsame, List.append_cancel_left_eq, List.cons.injEq] at hchars
  exact ⟨String.toList_injective hsame, String.toList_injective hchars.2⟩

/-! ## Identifiers of declarations -/

namespace Declaration

/-- A file has its package before the colon of its identifier, and its name behind it. -/
theorem text_id_file (file : Declaration .file) :
    file.id.text = "." ++ file.source.package ++ ":" ++ file.name := by
  cases file
  rfl

/-- A member has its type before the colon of its identifier, and its name behind it. -/
theorem text_id_member {outer kind : Kind} {type : Declaration outer} {member : Declaration kind}
    (h : member ∈ type.members kind) (hkind : kind.isMember = true) :
    member.id.text = type.id.text ++ ":" ++ member.name := by
  cases outer <;> cases kind <;>
    first
    | exact absurd h List.not_mem_nil
    | exact absurd hkind (by decide)
    | skip
  all_goals
    obtain ⟨_, _, rfl⟩ := List.mem_map.mp h
    rfl

end Declaration

namespace Request

variable {request : Request}

/-- Every member is declared in a type. -/
theorem exists_type_of_isMember {kind : Kind} {member : Declaration kind}
    (hmem : member ∈ request.declarations kind) (hkind : kind.isMember = true) :
    ∃ outer, ∃ type ∈ request.declarations outer, outer.isType = true ∧
      member ∈ type.members kind := by
  cases member with
  | field around | oneof around | enumValue around | method around =>
      obtain ⟨haround, hmember⟩ := mem_members_of_around? hmem rfl
      exact ⟨_, around, haround, rfl, hmember⟩
  | _ => cases hkind

namespace PlainNames

/-- The qualified name of a type has no colon. -/
theorem colon_not_mem_id (h : request.PlainNames) {kind : Kind} {type : Declaration kind}
    (hmem : type ∈ request.declarations kind) (hkind : kind.isType = true) :
    ':' ∉ type.id.text.toList := by
  have hname := h.type hkind type hmem
  have hpackage := h.package _ (source_mem_files hmem)
  -- A nested type has the name of the message around it before its own.
  induction type with
  | message source _ descriptor | enum source _ descriptor | service source _ descriptor =>
      show ':' ∉ (source.topName descriptor.name).toList
      change ':' ∉ source.package.toList at hpackage
      change ':' ∉ descriptor.name.toList at hname
      unfold FileDescriptor.topName
      split <;> simp [hname, hpackage]
  | nested around _ descriptor ih | nestedEnum around _ descriptor ih =>
      have haround := enclosing_subset hmem List.mem_cons_self
      have hscope := ih haround rfl (h.type rfl around haround)
        (h.package _ (source_mem_files haround))
      change ':' ∉ descriptor.name.toList at hname
      show ':' ∉ (around.id.text ++ "." ++ descriptor.name).toList
      simp [hscope, hname]
  | _ => cases hkind

variable (h : request.PlainNames) {kind other : Kind}
include h

/-- A member is identified unlike every type. -/
theorem type_ne_member {type : Declaration kind} {member : Declaration other}
    (htype : type ∈ request.declarations kind) (hkind : kind.isType = true)
    (hmember : member ∈ request.declarations other) (hother : other.isMember = true) :
    type.id.text ≠ member.id.text := by
  intro heq
  obtain ⟨_, _, _, _, hmem⟩ := exists_type_of_isMember hmember hother
  refine h.colon_not_mem_id htype hkind ?_
  rw [heq, Declaration.text_id_member hmem hother]
  simp

/-- A file is identified unlike every type. -/
theorem type_ne_file {type : Declaration kind} (htype : type ∈ request.declarations kind)
    (hkind : kind.isType = true) (file : Declaration .file) : type.id.text ≠ file.id.text := by
  intro heq
  refine h.colon_not_mem_id htype hkind ?_
  rw [heq, file.text_id_file]
  simp

variable (hapart : request.TellsApart)
include hapart

/-- A file is identified unlike every member, if the names tell them apart. -/
theorem file_ne_member {file : Declaration .file} {member : Declaration kind}
    (hfile : file ∈ request.declarations .file) (hmember : member ∈ request.declarations kind)
    (hkind : kind.isMember = true) : file.id.text ≠ member.id.text := by
  intro heq
  obtain ⟨outer, type, htype, houter, hmem⟩ := exists_type_of_isMember hmember hkind
  rw [file.text_id_file, Declaration.text_id_member hmem hkind] at heq
  have hpackage : ':' ∉ ("." ++ file.source.package).toList := by
    simp [h.package _ (source_mem_files hfile)]
  obtain ⟨hscope, hname⟩ := colon_injective hpackage (h.colon_not_mem_id htype houter) heq
  cases file with
  | file descriptor =>
      exact hapart.files descriptor (source_mem_files hfile) type htype hscope.symm hkind member hmem
        hname.symm

/-- Members of different kinds are identified differently, if the names tell them apart. -/
theorem member_ne_member (hdistinct : ∀ kind, ((request.declarations kind).map (·.id)).Nodup)
    {member : Declaration kind} {twin : Declaration other}
    (hmember : member ∈ request.declarations kind) (hkind : kind.isMember = true)
    (htwin : twin ∈ request.declarations other) (hother : other.isMember = true)
    (hne : kind ≠ other) : member.id.text ≠ twin.id.text := by
  intro heq
  obtain ⟨outer, type, htype, houter, hmem⟩ := exists_type_of_isMember hmember hkind
  obtain ⟨scope, around, haround, hscope, hin⟩ := exists_type_of_isMember htwin hother
  rw [Declaration.text_id_member hmem hkind, Declaration.text_id_member hin hother] at heq
  obtain ⟨hsame, hname⟩ := colon_injective (h.colon_not_mem_id htype houter)
    (h.colon_not_mem_id haround hscope) heq
  -- Both are members of the same type, which then is a message with a field and a oneof.
  obtain rfl := hapart.types htype haround houter hscope hsame
  obtain rfl := List.inj_on_of_nodup_map (hdistinct outer) htype haround (congrArg Ident.mk hsame)
  cases outer <;> cases kind <;> cases other <;>
    first
    | exact absurd hmem List.not_mem_nil
    | exact absurd hin List.not_mem_nil
    | exact absurd hkind (by decide)
    | exact absurd hother (by decide)
    | exact absurd rfl hne
    | skip
  case message.field.oneof => exact hapart.members type htype member hmem twin hin hname
  case message.oneof.field => exact hapart.members type htype twin hin member hmem hname.symm

/-- Declarations with the same identifier are of the same kind, if the names tell different kinds
apart. -/
theorem kind_eq (hdistinct : ∀ kind, ((request.declarations kind).map (·.id)).Nodup)
    {declaration : Declaration kind} {twin : Declaration other}
    (hmem : declaration ∈ request.declarations kind) (htwin : twin ∈ request.declarations other)
    (heq : declaration.id.text = twin.id.text) : kind = other := by
  rcases kind.file_or_type_or_member with rfl | hkind | hkind <;>
    rcases other.file_or_type_or_member with rfl | hother | hother
  · rfl
  · exact absurd heq.symm (h.type_ne_file htwin hother declaration)
  · exact absurd heq (h.file_ne_member hapart hmem htwin hother)
  · exact absurd heq (h.type_ne_file hmem hkind twin)
  · exact hapart.types hmem htwin hkind hother heq
  · exact absurd heq (h.type_ne_member hmem hkind htwin hother)
  · exact absurd heq.symm (h.file_ne_member hapart htwin hmem hkind)
  · exact absurd heq.symm (h.type_ne_member htwin hother hmem hkind)
  · by_contra hne
    exact h.member_ne_member hapart hdistinct hmem hkind htwin hother hne heq

end PlainNames

/-- Names tell declarations of different kinds apart if the identifiers do. -/
theorem tellsApart_of_kind_eq
    (h : ∀ {kind other : Kind}, ∀ declaration ∈ request.declarations kind,
      ∀ twin ∈ request.declarations other, declaration.id.text = twin.id.text → kind = other) :
    request.TellsApart where
  types := fun htype htwin _ _ heq => h _ htype _ htwin heq
  members := by
    intro message hmem field hfield oneof honeof hname
    have hfieldText := @Declaration.text_id_member .message .field _ _ hfield rfl
    have honeofText := @Declaration.text_id_member .message .oneof _ _ honeof rfl
    have hkind : Kind.field = .oneof := h field ((members_sublist hmem .field).subset hfield) oneof
      ((members_sublist hmem .oneof).subset honeof) (by rw [hfieldText, honeofText, hname])
    cases hkind
  files := by
    intro file hfile outer type htype hpackage kind hkind member hmember hname
    have hmem := file_mem hfile
    have htext : member.id.text = (Declaration.file file).id.text := by
      rw [Declaration.text_id_member hmember hkind, hpackage, hname]
      rfl
    obtain rfl := h member ((members_sublist htype kind).subset hmember) _ hmem htext
    cases hkind

end Request

namespace Links

variable {request : Request} {config : Config} {model : Model}

/-- The identifiers of the entities of a kind are those of the declarations. -/
theorem texts_eq (h : Links request config model) (kind : Kind) :
    (model.registry.arena kind).toList.map (·.id.text) =
      (request.declarations kind).map (·.id.text) := by
  rw [h.toList_eq, List.map_map]
  exact List.map_congr_left fun declaration _ => congrArg Ident.text (declaration.id_entity _ _)

/-- Entities of one kind have different identifiers. -/
theorem nodup_texts (h : Links request config model) (kind : Kind) :
    ((model.registry.arena kind).toList.map (·.id.text)).Nodup := by
  have htext : Function.Injective (@Ident.text kind) := fun _ _ => congrArg Ident.mk
  have hnodup := (h.consistent.distinct kind).map htext
  rw [List.map_map] at hnodup
  exact h.texts_eq kind ▸ hnodup

/-- All identifiers of a model are different if those of different kinds are. -/
theorem nodup_identifiers_iff (h : Links request config model) :
    model.identifiers.Nodup ↔
      ∀ {kind other : Kind}, ∀ declaration ∈ request.declarations kind,
        ∀ twin ∈ request.declarations other, declaration.id.text = twin.id.text → kind = other := by
  rw [Model.identifiers, List.nodup_flatMap, and_iff_right fun kind _ => h.nodup_texts kind]
  simp only [h.texts_eq]
  constructor
  · intro hall kind other declaration hmem twin htwin heq
    by_contra hne
    have hsymm : Std.Symm (Function.onFun List.Disjoint fun kind =>
        (request.declarations kind).map (·.id.text)) :=
      ⟨fun _ _ => List.disjoint_symm⟩
    exact hall.forall kind.mem_all other.mem_all hne (List.mem_map_of_mem hmem)
      (heq ▸ List.mem_map_of_mem htwin)
  · intro hall
    refine Kind.pairwise_all.imp fun {kind other} hne text hin hother => ?_
    obtain ⟨declaration, hmem, rfl⟩ := List.mem_map.mp hin
    obtain ⟨twin, htwin, heq⟩ := List.mem_map.mp hother
    exact hne (hall declaration hmem twin htwin heq.symm)

end Links

/-- In every model the entities of one kind have different identifiers. If no package and no name of a
type has a colon, then entities of different kinds have different identifiers exactly if types of
different kinds have different names, no oneof is called like a field beside it, and no file is called
like a member of a type that is called like its package. -/
theorem Model.identifiers_of_ok {request : Request} {config : Config} {model : Model}
    (h : (Model.ofRequest request config).outcome = .ok model) :
    (∀ kind, ((model.registry.arena kind).toList.map (·.id.text)).Nodup) ∧
      (request.PlainNames → (model.identifiers.Nodup ↔ request.TellsApart)) := by
  have hlinks := Model.links_of_ok h
  refine ⟨hlinks.nodup_texts, fun hplain => ?_⟩
  rw [hlinks.nodup_identifiers_iff]
  exact ⟨Request.tellsApart_of_kind_eq, fun hapart _ _ _ hmem _ htwin heq =>
    hplain.kind_eq hapart hlinks.consistent.distinct hmem htwin heq⟩

/-- The names of the example tell its declarations apart, so all identifiers of its model are
different. -/
theorem Model.identifiers_exampleRequest :
    ∃ model, (Model.ofRequest exampleRequest {}).outcome = .ok model ∧
      exampleRequest.PlainNames ∧ exampleRequest.TellsApart ∧
      model.identifiers.Nodup := by
  obtain ⟨model, hmodel, -⟩ := exampleRequest_links
  have hplain : exampleRequest.PlainNames := by
    refine ⟨by decide, fun {kind} _ => ?_⟩
    cases kind <;> decide +kernel
  have hnodup : model.identifiers.Nodup := of_decide_eq_true
    (Model.eq_of_toOption_map (fun model => decide model.identifiers.Nodup) hmodel (by decide +kernel))
  obtain ⟨-, hiff⟩ := Model.identifiers_of_ok hmodel
  exact ⟨model, hmodel, hplain, (hiff hplain).mp hnodup, hnodup⟩

/-- A file with a message and an enum of the same name. -/
def clashingFile : FileDescriptor where
  name := "units.proto"
  messages := [{ name := "Unit" }]
  enums := [{ name := "Unit" }]

/-- A request of that file. -/
def clashingRequest : Request where
  files := [clashingFile]

/-- The message and the enum are both registered, under the same identifier. -/
theorem Model.not_nodup_identifiers_clashingRequest :
    ∃ model, (Model.ofRequest clashingRequest {}).outcome = .ok model ∧
      model.identifiers = [".:units.proto", ".Unit", ".Unit"] ∧ ¬ model.identifiers.Nodup := by
  obtain ⟨model, hmodel, -⟩ := @Model.exists_ofRequest_eq_ok clashingRequest {} (by decide +kernel)
  have hidentifiers : model.identifiers = [".:units.proto", ".Unit", ".Unit"] :=
    Model.eq_of_toOption_map identifiers hmodel (by decide +kernel)
  refine ⟨model, hmodel, hidentifiers, ?_⟩
  rw [hidentifiers]
  decide

end LinkedSchema
