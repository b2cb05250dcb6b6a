import LinkedSchema.Proofs.Declaration
import Mathlib.Data.List.Nodup

/-!
# Checks on a request

What a request has to satisfy to be linked, and in which order this is looked at. The checks are
read off the declarations, without a registry: a check knows the checks before it and nothing else.

* `Check`, `Check.error?` — a check on one declaration, and how it fails behind given checks;
* `Request.checks` — the checks of a request, in the order of registration;
* `firstError` — the error of the first check that fails;
* `Request.Consistent` — that no check fails, said without an order;
* `firstError_checks_eq_none_iff` — both say the same.
-/

namespace LinkedSchema

namespace Declaration

/-- The position of the oneof that a field names, if it names one. -/
def oneofIndex (field : Declaration .field) : Option Int :=
  field.descriptor.oneofIndex

/-- The number of oneofs that the message of a field declares. -/
def oneofCount : Declaration .field → Nat
  | .field around _ _ => around.descriptor.oneofs.length

/-- The name that a method gives for one of its types. -/
def typeName (method : Declaration .method) : Role → String
  | .input => method.descriptor.inputType
  | .output => method.descriptor.outputType

/-- Whether the oneof that a field names, if any, is one of its message. -/
def OneofInRange (field : Declaration .field) : Prop :=
  ∀ index, field.oneofIndex = some index → 0 ≤ index ∧ index < field.oneofCount

end Declaration

/-- A check that a request has to pass. -/
inductive Check
  /-- The identifier of a declaration is that of no earlier declaration of its kind. -/
  | distinct (kind : Kind) (declaration : Declaration kind)
  /-- The oneof that a field names is one of its message. -/
  | oneofIndex (field : Declaration .field)
  /-- A type of a method is one of the messages that are known by then. -/
  | methodType (known : List (Declaration .message)) (method : Declaration .method) (role : Role)

/-- The declaration of a kind that a check introduces. -/
def Check.introduces (kind : Kind) : Check → List (Declaration kind)
  | .distinct other declaration => if h : other = kind then [h ▸ declaration] else []
  | .oneofIndex _ | .methodType _ _ _ => []

/-- The declarations of a kind that checks introduce, in order. -/
def introduced (kind : Kind) (checks : List Check) : List (Declaration kind) :=
  checks.flatMap (Check.introduces kind)

/-- The error of a check, if it fails behind the checks that came earlier. -/
def Check.error? (earlier : List Check) : Check → Option LinkError
  | .distinct kind declaration =>
      if declaration.id ∈ (introduced kind earlier).map Declaration.id then
        some (.duplicateIdentifier kind declaration.id.text)
      else none
  | .oneofIndex field =>
      match field.oneofIndex with
      | none => none
      | some index =>
          if 0 ≤ index ∧ index < field.oneofCount then none
          else some (.oneofIndexOutOfRange field.id index field.oneofCount)
  | .methodType known method role =>
      if method.typeName role ∈ known.map (·.id.text) then none
      else some (.unresolvedMethodType method.id role (method.typeName role) known.length)

/-- The error of the first check that fails, if one does. -/
def firstError (earlier : List Check) : List Check → Option LinkError
  | [] => none
  | check :: checks =>
      match check.error? earlier with
      | some error => some error
      | none => firstError (earlier ++ [check]) checks

/-- A check is the first to fail if those before it do not fail and it fails behind them. -/
theorem firstError_eq_some_iff {earlier checks : List Check} {error : LinkError} :
    firstError earlier checks = some error ↔
      ∃ before check after, checks = before ++ check :: after ∧
        firstError earlier before = none ∧ check.error? (earlier ++ before) = some error := by
  induction checks generalizing earlier with
  | nil => simp [firstError]
  | cons first checks ih =>
      rw [firstError]
      -- A split at the first check is the only one if it fails, and otherwise there is none.
      cases hfirst : first.error? earlier with
      | some found =>
          constructor
          · rintro ⟨⟩
            exact ⟨[], first, checks, rfl, rfl, by rwa [List.append_nil]⟩
          · intro hall
            obtain ⟨before, check, after, hsplit, hnone, herror⟩ := hall
            rcases List.cons_eq_append_iff.mp hsplit with ⟨rfl, hhead⟩ | ⟨rest, rfl, -⟩
            · obtain ⟨rfl, -⟩ := List.cons.inj hhead
              rwa [List.append_nil, hfirst] at herror
            · simp only [firstError, hfirst] at hnone
              cases hnone
      | none =>
          rw [ih]
          constructor
          · intro hall
            obtain ⟨before, check, after, rfl, hnone, herror⟩ := hall
            refine ⟨first :: before, check, after, rfl, ?_, ?_⟩
            · simp only [firstError, hfirst, hnone]
            · rwa [List.append_assoc] at herror
          · intro hall
            obtain ⟨before, check, after, hsplit, hnone, herror⟩ := hall
            rcases List.cons_eq_append_iff.mp hsplit with ⟨rfl, hhead⟩ | ⟨rest, rfl, htail⟩
            · obtain ⟨rfl, -⟩ := List.cons.inj hhead
              rw [List.append_nil, hfirst] at herror
              cases herror
            · simp only [firstError, hfirst] at hnone
              exact ⟨rest, check, after, htail, hnone, by rwa [List.append_assoc]⟩

/-! ## The checks of a request -/

namespace Declaration

/-- The checks of an enum: the enum itself, then its values. -/
def enumChecks (enum : Declaration .enum) : List Check :=
  .distinct .enum enum :: enum.values.map (.distinct .enumValue)

/-- The checks of a field: its oneof comes before its identifier. -/
def fieldChecks (field : Declaration .field) : List Check :=
  [.oneofIndex field, .distinct .field field]

/-- The checks of a message: the message itself, then its oneofs, its fields, the messages directly
in it with all their content, and its enums. -/
def messageChecks (message : Declaration .message) : List Check :=
  .distinct .message message ::
    (message.oneofs.map (.distinct .oneof) ++
      message.fields.flatMap fieldChecks ++
      (message.messages.attach.flatMap fun ⟨inner, _⟩ => inner.messageChecks) ++
      message.enums.flatMap enumChecks)
termination_by sizeOf (message.descriptor : MessageDescriptor)
decreasing_by exact sizeOf_descriptor_lt ‹_›

/-- The checks of a method: its input, its output, then the method itself. -/
def methodChecks (known : List (Declaration .message)) (method : Declaration .method) :
    List Check :=
  [.methodType known method .input, .methodType known method .output, .distinct .method method]

/-- The checks of a service: the service itself, then its methods. -/
def serviceChecks (known : List (Declaration .message)) (service : Declaration .service) :
    List Check :=
  .distinct .service service :: service.methods.flatMap (methodChecks known)

end Declaration

/-- The checks of a file: the file itself, then its messages, its enums and its services. -/
def FileDescriptor.checks (file : FileDescriptor) (known : List (Declaration .message)) :
    List Check :=
  .distinct .file (.file file) ::
    (file.topMessages.flatMap Declaration.messageChecks ++
      file.topEnums.flatMap Declaration.enumChecks ++
      file.topServices.flatMap (Declaration.serviceChecks known))

/-- The messages declared in the files of a request up to the one at a position, that file
included. -/
def Request.messagesUpTo (request : Request) (position : Nat) : List (Declaration .message) :=
  (request.files.take (position + 1)).flatMap (·.declarations .message)

/-- The checks of a request, file by file. A method may name the messages of its own file and of the
files before it. -/
def Request.checks (request : Request) : List Check :=
  request.files.zipIdx.flatMap fun (file, position) => file.checks (request.messagesUpTo position)

/-- A request in which identifiers are distinct, fields name oneofs of their messages, and methods
name messages of their own files or earlier ones. -/
structure Request.Consistent (request : Request) : Prop where
  /-- Within a kind, all identifiers are distinct. -/
  distinct : ∀ kind, ((request.declarations kind).map Declaration.id).Nodup
  /-- The oneof of a field, if it names one, is a position among those of its message. -/
  oneofIndex : ∀ field ∈ request.declarations .field, field.OneofInRange
  /-- Each type of a method is the identifier of a message in its own file or an earlier one. -/
  methodType : ∀ position file, request.files[position]? = some file →
    ∀ method ∈ file.declarations .method, ∀ role,
      ∃ message ∈ request.messagesUpTo position, message.id.text = method.typeName role

/-! ## What checks introduce -/

section Introduced

variable {kind other : Kind}

@[simp]
theorem introduced_nil : introduced kind [] = [] := rfl

@[simp]
theorem introduced_append (checks more : List Check) :
    introduced kind (checks ++ more) = introduced kind checks ++ introduced kind more :=
  List.flatMap_append

theorem introduced_flatMap {α : Type} (items : List α) (f : α → List Check) :
    introduced kind (items.flatMap f) = items.flatMap fun item => introduced kind (f item) :=
  List.flatMap_assoc

theorem introduced_flatMap_eq_nil {α : Type} {items : List α} {f : α → List Check}
    (h : ∀ item ∈ items, introduced kind (f item) = []) :
    introduced kind (items.flatMap f) = [] := by
  rw [introduced_flatMap, List.flatMap_eq_nil_iff]
  exact h

@[simp]
theorem introduced_distinct_self (declaration : Declaration kind) (checks : List Check) :
    introduced kind (.distinct kind declaration :: checks) =
      declaration :: introduced kind checks := by
  simp [introduced, Check.introduces]

theorem introduced_distinct_of_ne (h : other ≠ kind) (declaration : Declaration other)
    (checks : List Check) :
    introduced kind (.distinct other declaration :: checks) = introduced kind checks := by
  simp [introduced, Check.introduces, h]

@[simp]
theorem introduced_oneofIndex (field : Declaration .field) (checks : List Check) :
    introduced kind (.oneofIndex field :: checks) = introduced kind checks := rfl

@[simp]
theorem introduced_methodType (known : List (Declaration .message)) (method : Declaration .method)
    (role : Role) (checks : List Check) :
    introduced kind (.methodType known method role :: checks) = introduced kind checks := rfl

@[simp]
theorem introduced_map_distinct_self (declarations : List (Declaration kind)) :
    introduced kind (declarations.map (.distinct kind)) = declarations := by
  induction declarations with
  | nil => rfl
  | cons declaration declarations ih => rw [List.map_cons, introduced_distinct_self, ih]

theorem introduced_map_distinct_of_ne (h : other ≠ kind)
    (declarations : List (Declaration other)) :
    introduced kind (declarations.map (.distinct other)) = [] := by
  induction declarations with
  | nil => rfl
  | cons declaration declarations ih => rw [List.map_cons, introduced_distinct_of_ne h, ih]

end Introduced

namespace Declaration

theorem messageChecks_eq (message : Declaration .message) :
    message.messageChecks =
      .distinct .message message ::
        (message.oneofs.map (.distinct .oneof) ++ message.fields.flatMap fieldChecks ++
          message.messages.flatMap messageChecks ++ message.enums.flatMap enumChecks) := by
  rw [messageChecks]
  simp

/-- The declarations of a kind in a message, the message included. -/
def content (message : Declaration .message) : (kind : Kind) → List (Declaration kind)
  | .message => message.preorder
  | .field => message.preorder.flatMap fields
  | .oneof => message.preorder.flatMap oneofs
  | .enum => message.postorder.flatMap enums
  | .enumValue => (message.postorder.flatMap enums).flatMap values
  | .file | .service | .method => []

/-- The content of a message in terms of that of the messages directly in it. -/
theorem content_eq (message : Declaration .message) (kind : Kind) :
    message.content kind =
      match kind with
      | .message => message :: message.messages.flatMap (content · .message)
      | .field => message.fields ++ message.messages.flatMap (content · .field)
      | .oneof => message.oneofs ++ message.messages.flatMap (content · .oneof)
      | .enum => message.messages.flatMap (content · .enum) ++ message.enums
      | .enumValue =>
          message.messages.flatMap (content · .enumValue) ++ message.enums.flatMap values
      | .file | .service | .method => [] := by
  cases kind <;>
    simp only [content, preorder_eq message, postorder_eq message, List.flatMap_cons,
      List.flatMap_append, List.flatMap_assoc, List.flatMap_nil, List.append_nil]

/-! ### Lists of fields, enums and methods -/

theorem introduced_fields (fields : List (Declaration .field)) :
    introduced .field (fields.flatMap fieldChecks) = fields := by
  rw [introduced_flatMap]
  simp [fieldChecks]

theorem introduced_fields_of_ne {kind : Kind} (h : .field ≠ kind)
    (fields : List (Declaration .field)) : introduced kind (fields.flatMap fieldChecks) = [] :=
  introduced_flatMap_eq_nil fun field _ => by
    rw [fieldChecks, introduced_oneofIndex, introduced_distinct_of_ne h, introduced_nil]

theorem introduced_enums_enum (enums : List (Declaration .enum)) :
    introduced .enum (enums.flatMap enumChecks) = enums := by
  rw [introduced_flatMap]
  simp [enumChecks, introduced_map_distinct_of_ne]

theorem introduced_enums_enumValue (enums : List (Declaration .enum)) :
    introduced .enumValue (enums.flatMap enumChecks) = enums.flatMap values := by
  rw [introduced_flatMap]
  simp [enumChecks, introduced_distinct_of_ne]

theorem introduced_enums_of_ne {kind : Kind} (henum : .enum ≠ kind) (hvalue : .enumValue ≠ kind)
    (enums : List (Declaration .enum)) : introduced kind (enums.flatMap enumChecks) = [] :=
  introduced_flatMap_eq_nil fun enum _ => by
    rw [enumChecks, introduced_distinct_of_ne henum, introduced_map_distinct_of_ne hvalue]

theorem introduced_methods (known : List (Declaration .message))
    (methods : List (Declaration .method)) :
    introduced .method (methods.flatMap (methodChecks known)) = methods := by
  rw [introduced_flatMap]
  simp [methodChecks]

theorem introduced_methods_of_ne {kind : Kind} (h : .method ≠ kind)
    (known : List (Declaration .message)) (methods : List (Declaration .method)) :
    introduced kind (methods.flatMap (methodChecks known)) = [] :=
  introduced_flatMap_eq_nil fun method _ => by
    rw [methodChecks, introduced_methodType, introduced_methodType, introduced_distinct_of_ne h,
      introduced_nil]

theorem introduced_services_service (known : List (Declaration .message))
    (services : List (Declaration .service)) :
    introduced .service (services.flatMap (serviceChecks known)) = services := by
  rw [introduced_flatMap]
  simp [serviceChecks, introduced_methods_of_ne]

theorem introduced_services_method (known : List (Declaration .message))
    (services : List (Declaration .service)) :
    introduced .method (services.flatMap (serviceChecks known)) = services.flatMap methods := by
  rw [introduced_flatMap]
  simp [serviceChecks, introduced_distinct_of_ne, introduced_methods]

theorem introduced_services_of_ne {kind : Kind} (hservice : .service ≠ kind)
    (hmethod : .method ≠ kind) (known : List (Declaration .message))
    (services : List (Declaration .service)) :
    introduced kind (services.flatMap (serviceChecks known)) = [] :=
  introduced_flatMap_eq_nil fun service _ => by
    rw [serviceChecks, introduced_distinct_of_ne hservice, introduced_methods_of_ne hmethod]

/-! ### Messages, files and requests -/

/-- The checks of a message introduce its content. -/
theorem introduced_messageChecks (message : Declaration .message) (kind : Kind) :
    introduced kind message.messageChecks = message.content kind := by
  induction message using message_induction with
  | step message ih =>
      have hinner : introduced kind (message.messages.flatMap messageChecks) =
          message.messages.flatMap (content · kind) := by
        rw [introduced_flatMap]
        exact List.flatMap_congr ih
      rw [messageChecks_eq, content_eq]
      -- Each kind is introduced by one or two of the parts, and the others introduce none of it.
      cases kind <;>
        simp [hinner, introduced_distinct_of_ne, introduced_map_distinct_of_ne, introduced_fields,
          introduced_fields_of_ne, introduced_enums_enum, introduced_enums_enumValue,
          introduced_enums_of_ne] <;>
        simp [content]

end Declaration

/-- The checks of a file introduce its declarations, whatever messages its methods may name. -/
theorem FileDescriptor.introduced_checks (file : FileDescriptor)
    (known : List (Declaration .message)) (kind : Kind) :
    introduced kind (file.checks known) = file.declarations kind := by
  have hmessages : introduced kind (file.topMessages.flatMap Declaration.messageChecks) =
      file.topMessages.flatMap (Declaration.content · kind) := by
    rw [introduced_flatMap]
    exact List.flatMap_congr fun message _ => Declaration.introduced_messageChecks message kind
  rw [checks]
  cases kind <;>
    simp [hmessages, introduced_distinct_of_ne, Declaration.introduced_enums_enum,
      Declaration.introduced_enums_enumValue, Declaration.introduced_enums_of_ne,
      Declaration.introduced_services_service, Declaration.introduced_services_method,
      Declaration.introduced_services_of_ne, declarations, allMessages, allEnums,
      Declaration.content, List.flatMap_assoc]

/-- The checks of a request introduce its declarations. -/
theorem Request.introduced_checks (request : Request) (kind : Kind) :
    introduced kind request.checks = request.declarations kind := by
  rw [checks, introduced_flatMap, declarations]
  simp only [FileDescriptor.introduced_checks]
  conv_rhs => rw [← List.zipIdx_map_fst 0 request.files, List.flatMap_map]

/-! ## When no check fails -/

/-- Whether a check passes as far as that does not depend on the checks before it. -/
def Check.Passes : Check → Prop
  | .distinct _ _ => True
  | .oneofIndex field => field.OneofInRange
  | .methodType known method role => method.typeName role ∈ known.map (·.id.text)

/-- A check that does not fail passes and keeps the identifiers of each kind distinct, and the other
way round. -/
theorem error?_eq_none_iff {earlier : List Check}
    (hearlier : ∀ kind, ((introduced kind earlier).map Declaration.id).Nodup) (check : Check) :
    check.error? earlier = none ↔
      check.Passes ∧
        ∀ kind, ((introduced kind (earlier ++ [check])).map Declaration.id).Nodup := by
  cases check with
  | distinct kind declaration =>
      have hnodup : ((introduced kind (earlier ++ [.distinct kind declaration])).map
          Declaration.id).Nodup ↔
          declaration.id ∉ (introduced kind earlier).map Declaration.id := by
        rw [introduced_append, introduced_distinct_self, introduced_nil, List.map_append,
          List.map_singleton, List.nodup_append_comm, List.singleton_append, List.nodup_cons]
        exact and_iff_left (hearlier kind)
      have herror : (Check.distinct kind declaration).error? earlier = none ↔
          declaration.id ∉ (introduced kind earlier).map Declaration.id := by
        simp [Check.error?]
      rw [herror, ← hnodup]
      constructor
      · intro h
        refine ⟨trivial, fun other => ?_⟩
        by_cases hkind : kind = other
        · exact hkind ▸ h
        · rw [introduced_append, introduced_distinct_of_ne hkind, introduced_nil,
            List.append_nil]
          exact hearlier other
      · exact fun h => h.2 kind
  | oneofIndex field =>
      have hsame : ∀ kind, introduced kind (earlier ++ [.oneofIndex field]) =
          introduced kind earlier := fun kind => by simp
      simp only [hsame, hearlier, implies_true, and_true, Check.error?, Check.Passes,
        Declaration.OneofInRange]
      cases field.oneofIndex <;> simp
  | methodType known method role =>
      have hsame : ∀ kind, introduced kind (earlier ++ [.methodType known method role]) =
          introduced kind earlier := fun kind => by simp
      simp only [hsame, hearlier, implies_true, and_true, Check.error?, Check.Passes]
      simp

/-- No check fails exactly if all pass by themselves and the identifiers of each kind that they
introduce are distinct. -/
theorem firstError_eq_none_iff {earlier : List Check}
    (hearlier : ∀ kind, ((introduced kind earlier).map Declaration.id).Nodup)
    (checks : List Check) :
    firstError earlier checks = none ↔
      (∀ check ∈ checks, check.Passes) ∧
        ∀ kind, ((introduced kind (earlier ++ checks)).map Declaration.id).Nodup := by
  induction checks generalizing earlier with
  | nil => simpa [firstError] using hearlier
  | cons check checks ih =>
      rw [firstError, List.forall_mem_cons, and_assoc]
      have hcheck := error?_eq_none_iff hearlier check
      have hassoc : earlier ++ check :: checks = (earlier ++ [check]) ++ checks := by simp
      cases herror : check.error? earlier with
      | some error =>
          rw [herror] at hcheck
          -- A later check repairs nothing: what was introduced twice stays so.
          have hbad : ¬ (check.Passes ∧
              ∀ kind, ((introduced kind (earlier ++ [check])).map Declaration.id).Nodup) :=
            fun h => absurd (hcheck.mpr h) (by simp)
          refine iff_of_false (by simp) fun ⟨hpasses, _, hnodup⟩ => hbad ⟨hpasses, fun kind => ?_⟩
          have hall := hnodup kind
          rw [hassoc, introduced_append, List.map_append] at hall
          exact (List.nodup_append.mp hall).1
      | none =>
          obtain ⟨hpasses, hnodup⟩ := hcheck.mp herror
          rw [hassoc]
          simp only [ih hnodup, hpasses, true_and]

/-! ### The checks that are no checks of identifiers -/

namespace Declaration

/-- The oneofs that are looked up in a message are those of the fields inside it. -/
theorem oneofIndex_mem_messageChecks {message : Declaration .message}
    {field : Declaration .field} :
    .oneofIndex field ∈ message.messageChecks ↔ field ∈ message.content .field := by
  induction message using message_induction with
  | step message ih =>
      have hinner : .oneofIndex field ∈ message.messages.flatMap messageChecks ↔
          field ∈ message.messages.flatMap (content · .field) := by
        simp only [List.mem_flatMap]
        exact exists_congr fun inner => and_congr_right fun hinner => ih inner hinner
      rw [messageChecks_eq, content_eq]
      simp only [List.mem_cons, List.mem_append, hinner]
      simp [fieldChecks, enumChecks]

theorem methodType_mem_methodChecks {known names : List (Declaration .message)}
    {method other : Declaration .method} {role : Role} :
    .methodType names method role ∈ methodChecks known other ↔ names = known ∧ method = other := by
  cases role <;> simp [methodChecks]

/-- No type of a method is looked up in a message. -/
theorem methodType_not_mem_messageChecks (message : Declaration .message)
    (known : List (Declaration .message)) (method : Declaration .method) (role : Role) :
    .methodType known method role ∉ message.messageChecks := by
  induction message using message_induction with
  | step message ih =>
      have hinner : .methodType known method role ∉ message.messages.flatMap messageChecks := by
        rw [List.mem_flatMap]
        intro hall
        obtain ⟨inner, hinner, hmem⟩ := hall
        exact ih inner hinner hmem
      rw [messageChecks_eq]
      simp only [List.mem_cons, List.mem_append, hinner]
      simp [fieldChecks, enumChecks]

end Declaration

namespace FileDescriptor

variable {file : FileDescriptor} {known : List (Declaration .message)}

theorem oneofIndex_mem_checks {field : Declaration .field} :
    .oneofIndex field ∈ file.checks known ↔ field ∈ file.declarations .field := by
  have hfields : file.declarations .field =
      file.topMessages.flatMap (Declaration.content · .field) := by
    simp only [declarations, allMessages, Declaration.content, List.flatMap_assoc]
  rw [hfields, checks]
  simp [Declaration.oneofIndex_mem_messageChecks, Declaration.enumChecks,
    Declaration.serviceChecks, Declaration.methodChecks]

theorem methodType_mem_checks {names : List (Declaration .message)} {method : Declaration .method}
    {role : Role} :
    .methodType names method role ∈ file.checks known ↔
      names = known ∧ method ∈ file.declarations .method := by
  rw [checks, declarations]
  simp only [List.mem_cons, List.mem_append, List.mem_flatMap, Declaration.serviceChecks,
    Declaration.methodType_mem_methodChecks, Declaration.methodType_not_mem_messageChecks]
  constructor
  · intro hall
    rcases hall with h | (⟨_, _, h⟩ | ⟨_, _, h⟩) | ⟨service, hservice, h | ⟨_, hmethod, rfl, rfl⟩⟩
    · exact nomatch h
    · exact absurd h id
    · simp [Declaration.enumChecks] at h
    · exact nomatch h
    · exact ⟨rfl, service, hservice, hmethod⟩
  · intro hall
    obtain ⟨rfl, service, hservice, hmethod⟩ := hall
    exact Or.inr (Or.inr ⟨service, hservice, Or.inr ⟨method, hmethod, rfl, rfl⟩⟩)

end FileDescriptor

namespace Request

variable {request : Request}

theorem oneofIndex_mem_checks {field : Declaration .field} :
    .oneofIndex field ∈ request.checks ↔ field ∈ request.declarations .field := by
  rw [← request.introduced_checks]
  simp only [checks, introduced_flatMap, List.mem_flatMap, FileDescriptor.introduced_checks,
    FileDescriptor.oneofIndex_mem_checks]

/-- The types of methods are looked up among the messages up to the file of the method. -/
theorem methodType_mem_checks {known : List (Declaration .message)} {method : Declaration .method}
    {role : Role} :
    .methodType known method role ∈ request.checks ↔
      ∃ position file, request.files[position]? = some file ∧
        known = request.messagesUpTo position ∧ method ∈ file.declarations .method := by
  simp only [checks, List.mem_flatMap, Prod.exists, List.mk_mem_zipIdx_iff_getElem?,
    FileDescriptor.methodType_mem_checks]
  rw [exists_comm]

/-- A request is consistent exactly if none of its checks fails. -/
theorem firstError_checks_eq_none_iff (request : Request) :
    firstError [] request.checks = none ↔ request.Consistent := by
  have hstart : ∀ kind, ((introduced kind []).map Declaration.id).Nodup :=
    fun kind => List.nodup_nil
  rw [firstError_eq_none_iff hstart]
  simp only [List.nil_append, request.introduced_checks]
  constructor
  · intro hall
    obtain ⟨hpasses, hdistinct⟩ := hall
    refine ⟨hdistinct, fun field hfield => ?_, ?_⟩
    · exact hpasses _ (oneofIndex_mem_checks.mpr hfield)
    · intro position file hfile method hmethod role
      have hcheck := hpasses (.methodType (request.messagesUpTo position) method role)
        (methodType_mem_checks.mpr ⟨position, file, hfile, rfl, hmethod⟩)
      simpa [Check.Passes] using hcheck
  · intro h
    refine ⟨fun check hcheck => ?_, h.distinct⟩
    cases check with
    | distinct kind declaration => trivial
    | oneofIndex field => exact h.oneofIndex field (oneofIndex_mem_checks.mp hcheck)
    | methodType known method role =>
        obtain ⟨position, file, hfile, rfl, hmethod⟩ := methodType_mem_checks.mp hcheck
        simpa [Check.Passes] using h.methodType position file hfile method hmethod role

end Request

end LinkedSchema
