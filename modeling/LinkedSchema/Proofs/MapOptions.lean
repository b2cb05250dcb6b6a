import LinkedSchema.Proofs.Linking

/-!
# Requests with other options

Options are kept, and metadata is read from them, but no check looks at them. Here a function is
applied to the options of every declaration of a request. The checks of the result are those of the
request with the function applied to what they are about, so that they fail alike: requests that
differ in nothing but options are linked together or fail with the same error.

* `Request.mapOptions`, `Declaration.mapOptions`, `Check.mapOptions` — the function applied to the
  options of all descriptors, of a declaration and all around it, of what a check is about;
* `Request.checks_mapOptions`, `Request.declarations_mapOptions` — checks and declarations of the
  result;
* `Request.firstError_eq_of_mapOptions_eq` — requests that differ in their options only fail alike.
-/

namespace LinkedSchema

section

variable (f : Options → Options)

/-! ## Descriptors -/

/-- The field with other options. -/
def FieldDescriptor.mapOptions (field : FieldDescriptor) : FieldDescriptor :=
  { field with options := f field.options }

/-- The oneof with other options. -/
def OneofDescriptor.mapOptions (oneof : OneofDescriptor) : OneofDescriptor :=
  { oneof with options := f oneof.options }

/-- The value with other options. -/
def EnumValueDescriptor.mapOptions (value : EnumValueDescriptor) : EnumValueDescriptor :=
  { value with options := f value.options }

/-- The enum and its values with other options. -/
def EnumDescriptor.mapOptions (enum : EnumDescriptor) : EnumDescriptor :=
  { enum with values := enum.values.map (·.mapOptions f), options := f enum.options }

mutual

/-- The message and everything in it with other options. -/
def MessageDescriptor.mapOptions : MessageDescriptor → MessageDescriptor
  | ⟨name, fields, nested, enums, oneofs, options, reservedRanges, reservedNames⟩ =>
      { name, reservedRanges, reservedNames
        fields := fields.map (·.mapOptions f)
        nested := MessageDescriptor.mapNestedOptions nested
        enums := enums.map (·.mapOptions f)
        oneofs := oneofs.map (·.mapOptions f)
        options := f options }

/-- Several messages and everything in them with other options. -/
def MessageDescriptor.mapNestedOptions : List MessageDescriptor → List MessageDescriptor
  | [] => []
  | message :: messages =>
      message.mapOptions :: MessageDescriptor.mapNestedOptions messages

end

/-- The method with other options. -/
def MethodDescriptor.mapOptions (method : MethodDescriptor) : MethodDescriptor :=
  { method with options := f method.options }

/-- The service and its methods with other options. -/
def ServiceDescriptor.mapOptions (service : ServiceDescriptor) : ServiceDescriptor :=
  { service with methods := service.methods.map (·.mapOptions f), options := f service.options }

/-- The file and everything in it with other options. -/
def FileDescriptor.mapOptions (file : FileDescriptor) : FileDescriptor :=
  { file with
    messages := file.messages.map (·.mapOptions f)
    enums := file.enums.map (·.mapOptions f)
    services := file.services.map (·.mapOptions f)
    options := f file.options }

/-- The request with other options on all declarations. -/
def Request.mapOptions (request : Request) : Request :=
  { request with files := request.files.map (·.mapOptions f) }

theorem MessageDescriptor.mapNestedOptions_eq (messages : List MessageDescriptor) :
    mapNestedOptions f messages = messages.map (·.mapOptions f) := by
  induction messages with
  | nil => rfl
  | cons message messages ih => rw [mapNestedOptions, ih, List.map_cons]

namespace MessageDescriptor

variable (message : MessageDescriptor)

@[simp]
theorem name_mapOptions : (message.mapOptions f).name = message.name := by
  cases message
  rfl

@[simp]
theorem options_mapOptions : (message.mapOptions f).options = f message.options := by
  cases message
  rfl

@[simp]
theorem fields_mapOptions :
    (message.mapOptions f).fields = message.fields.map (·.mapOptions f) := by
  cases message
  rfl

@[simp]
theorem nested_mapOptions :
    (message.mapOptions f).nested = message.nested.map (·.mapOptions f) := by
  cases message
  rw [mapOptions, mapNestedOptions_eq]

@[simp]
theorem enums_mapOptions : (message.mapOptions f).enums = message.enums.map (·.mapOptions f) := by
  cases message
  rfl

@[simp]
theorem oneofs_mapOptions :
    (message.mapOptions f).oneofs = message.oneofs.map (·.mapOptions f) := by
  cases message
  rfl

@[simp]
theorem reservedRanges_mapOptions :
    (message.mapOptions f).reservedRanges = message.reservedRanges := by
  cases message
  rfl

@[simp]
theorem reservedNames_mapOptions :
    (message.mapOptions f).reservedNames = message.reservedNames := by
  cases message
  rfl

end MessageDescriptor

/-! ## Declarations and checks -/

namespace Declaration

/-- The declaration with other options on it, on what is in it and on everything around it. -/
@[simp]
def mapOptions : {kind : Kind} → Declaration kind → Declaration kind
  | _, .file descriptor => .file (descriptor.mapOptions f)
  | _, .message source position descriptor =>
      .message (source.mapOptions f) position (descriptor.mapOptions f)
  | _, .nested around position descriptor =>
      .nested around.mapOptions position (descriptor.mapOptions f)
  | _, .field around position descriptor =>
      .field around.mapOptions position (descriptor.mapOptions f)
  | _, .oneof around position descriptor =>
      .oneof around.mapOptions position (descriptor.mapOptions f)
  | _, .enum source position descriptor =>
      .enum (source.mapOptions f) position (descriptor.mapOptions f)
  | _, .nestedEnum around position descriptor =>
      .nestedEnum around.mapOptions position (descriptor.mapOptions f)
  | _, .enumValue around position descriptor =>
      .enumValue around.mapOptions position (descriptor.mapOptions f)
  | _, .service source position descriptor =>
      .service (source.mapOptions f) position (descriptor.mapOptions f)
  | _, .method around position descriptor =>
      .method around.mapOptions position (descriptor.mapOptions f)

end Declaration

/-- The check of the same on a declaration with other options. -/
def Check.mapOptions : Check → Check
  | .distinct kind declaration => .distinct kind (declaration.mapOptions f)
  | .oneofIndex field => .oneofIndex (field.mapOptions f)
  | .methodType known method role =>
      .methodType (known.map (·.mapOptions f)) (method.mapOptions f) role

namespace Declaration

theorem descriptor_mapOptions_message (message : Declaration .message) :
    (message.mapOptions f).descriptor =
      MessageDescriptor.mapOptions f (message.descriptor : MessageDescriptor) := by
  cases message <;> rfl

theorem descriptor_mapOptions_enum (enum : Declaration .enum) :
    (enum.mapOptions f).descriptor =
      EnumDescriptor.mapOptions f (enum.descriptor : EnumDescriptor) := by
  cases enum <;> rfl

theorem descriptor_mapOptions_service (service : Declaration .service) :
    (service.mapOptions f).descriptor =
      ServiceDescriptor.mapOptions f (service.descriptor : ServiceDescriptor) := by
  cases service
  rfl

/-! ### What does not depend on options -/

@[simp]
theorem id_mapOptions {kind : Kind} (declaration : Declaration kind) :
    (declaration.mapOptions f).id = declaration.id := by
  induction declaration with
  | file | enum | service => rfl
  | message source position descriptor =>
      simp only [mapOptions, id, MessageDescriptor.name_mapOptions]
      rfl
  | nested around position descriptor ih =>
      simp only [mapOptions, id, ih, MessageDescriptor.name_mapOptions]
  | field around position descriptor ih | oneof around position descriptor ih
  | nestedEnum around position descriptor ih | enumValue around position descriptor ih
  | method around position descriptor ih =>
      simp only [mapOptions, id, ih]
      rfl

@[simp]
theorem path_mapOptions {kind : Kind} (declaration : Declaration kind) :
    (declaration.mapOptions f).path = declaration.path := by
  induction declaration with
  | file | message | enum | service => rfl
  | nested | field | oneof | nestedEnum | enumValue | method => simp only [mapOptions, path, *]

@[simp]
theorem source_mapOptions {kind : Kind} (declaration : Declaration kind) :
    (declaration.mapOptions f).source = declaration.source.mapOptions f := by
  induction declaration with
  | file | message | enum | service => rfl
  | nested | field | oneof | nestedEnum | enumValue | method => simp only [mapOptions, source, *]

@[simp]
theorem enclosing_mapOptions {kind : Kind} (declaration : Declaration kind) :
    (declaration.mapOptions f).enclosing = declaration.enclosing.map (·.mapOptions f) := by
  induction declaration with
  | file | message | enum | service | method => rfl
  | nested | field | oneof | nestedEnum | enumValue =>
      simp only [mapOptions, enclosing, List.map_cons, *]

@[simp]
theorem oneofIndex_mapOptions (field : Declaration .field) :
    (field.mapOptions f).oneofIndex = field.oneofIndex := by
  cases field
  rfl

@[simp]
theorem oneofCount_mapOptions (field : Declaration .field) :
    (field.mapOptions f).oneofCount = field.oneofCount := by
  cases field with
  | field around position descriptor =>
      simp [mapOptions, oneofCount, descriptor_mapOptions_message]

@[simp]
theorem typeName_mapOptions (method : Declaration .method) (role : Role) :
    (method.mapOptions f).typeName role = method.typeName role := by
  cases method
  cases role <;> rfl

theorem map_id_mapOptions {kind : Kind} (declarations : List (Declaration kind)) :
    (declarations.map (·.mapOptions f)).map Declaration.id = declarations.map Declaration.id := by
  simp [Function.comp_def]

/-! ### What is declared in a declaration -/

theorem messages_mapOptions (message : Declaration .message) :
    (message.mapOptions f).messages = message.messages.map (·.mapOptions f) := by
  simp [messages, descriptor_mapOptions_message, List.zipIdx_map,
    Function.comp_def, mapOptions]

theorem fields_mapOptions (message : Declaration .message) :
    (message.mapOptions f).fields = message.fields.map (·.mapOptions f) := by
  simp [fields, descriptor_mapOptions_message, List.zipIdx_map,
    Function.comp_def, mapOptions]

theorem oneofs_mapOptions (message : Declaration .message) :
    (message.mapOptions f).oneofs = message.oneofs.map (·.mapOptions f) := by
  simp [oneofs, descriptor_mapOptions_message, List.zipIdx_map,
    Function.comp_def, mapOptions]

theorem enums_mapOptions (message : Declaration .message) :
    (message.mapOptions f).enums = message.enums.map (·.mapOptions f) := by
  simp [enums, descriptor_mapOptions_message, List.zipIdx_map,
    Function.comp_def, mapOptions]

theorem values_mapOptions (enum : Declaration .enum) :
    (enum.mapOptions f).values = enum.values.map (·.mapOptions f) := by
  simp [values, descriptor_mapOptions_enum, EnumDescriptor.mapOptions, List.zipIdx_map,
    Function.comp_def, mapOptions]

theorem methods_mapOptions (service : Declaration .service) :
    (service.mapOptions f).methods = service.methods.map (·.mapOptions f) := by
  simp [methods, descriptor_mapOptions_service, ServiceDescriptor.mapOptions, List.zipIdx_map,
    Function.comp_def, mapOptions]

/-! ### Checks -/

theorem enumChecks_mapOptions (enum : Declaration .enum) :
    (enum.mapOptions f).enumChecks = enum.enumChecks.map (·.mapOptions f) := by
  simp [enumChecks, values_mapOptions, Check.mapOptions]

theorem fieldChecks_mapOptions (field : Declaration .field) :
    (field.mapOptions f).fieldChecks = field.fieldChecks.map (·.mapOptions f) := rfl

theorem messageChecks_mapOptions (message : Declaration .message) :
    (message.mapOptions f).messageChecks = message.messageChecks.map (·.mapOptions f) := by
  induction message using message_induction with
  | step message ih =>
      have hinner : (message.messages.map (·.mapOptions f)).flatMap messageChecks =
          (message.messages.flatMap messageChecks).map (·.mapOptions f) := by
        rw [List.flatMap_map, List.map_flatMap]
        exact List.flatMap_congr ih
      rw [messageChecks_eq, messageChecks_eq message, messages_mapOptions, hinner]
      simp [oneofs_mapOptions, fields_mapOptions, enums_mapOptions, Check.mapOptions,
        List.flatMap_map, List.map_flatMap, fieldChecks_mapOptions, enumChecks_mapOptions]

theorem methodChecks_mapOptions (known : List (Declaration .message))
    (method : Declaration .method) :
    methodChecks (known.map (·.mapOptions f)) (method.mapOptions f) =
      (methodChecks known method).map (·.mapOptions f) := rfl

theorem serviceChecks_mapOptions (known : List (Declaration .message))
    (service : Declaration .service) :
    serviceChecks (known.map (·.mapOptions f)) (service.mapOptions f) =
      (serviceChecks known service).map (·.mapOptions f) := by
  simp [serviceChecks, methods_mapOptions, Check.mapOptions, List.flatMap_map, List.map_flatMap,
    methodChecks_mapOptions]

end Declaration

namespace FileDescriptor

variable (file : FileDescriptor)

theorem topMessages_mapOptions :
    (file.mapOptions f).topMessages = file.topMessages.map (·.mapOptions f) := by
  simp [topMessages, mapOptions, List.zipIdx_map, Function.comp_def]

theorem topEnums_mapOptions :
    (file.mapOptions f).topEnums = file.topEnums.map (·.mapOptions f) := by
  simp [topEnums, mapOptions, List.zipIdx_map, Function.comp_def]

theorem topServices_mapOptions :
    (file.mapOptions f).topServices = file.topServices.map (·.mapOptions f) := by
  simp [topServices, mapOptions, List.zipIdx_map, Function.comp_def]

theorem checks_mapOptions (known : List (Declaration .message)) :
    (file.mapOptions f).checks (known.map (·.mapOptions f)) =
      (file.checks known).map (·.mapOptions f) := by
  simp [checks, topMessages_mapOptions, topEnums_mapOptions, topServices_mapOptions,
    List.flatMap_map, List.map_flatMap, Declaration.messageChecks_mapOptions,
    Declaration.enumChecks_mapOptions, Declaration.serviceChecks_mapOptions, Check.mapOptions]

end FileDescriptor

/-- Checks introduce the same declarations, with other options. -/
theorem introduced_mapOptions (kind : Kind) (checks : List Check) :
    introduced kind (checks.map (·.mapOptions f)) =
      (introduced kind checks).map (·.mapOptions f) := by
  have hcheck (check : Check) : (check.mapOptions f).introduces kind =
      (check.introduces kind).map (·.mapOptions f) := by
    cases check with
    | oneofIndex | methodType => rfl
    | distinct other declaration =>
        by_cases hkind : other = kind
        · subst hkind
          simp [Check.mapOptions, Check.introduces]
        · simp [Check.mapOptions, Check.introduces, hkind]
  simp only [introduced, List.flatMap_map, List.map_flatMap, hcheck]

/-- The declarations of a file with other options. -/
theorem FileDescriptor.declarations_mapOptions (file : FileDescriptor) (kind : Kind) :
    (file.mapOptions f).declarations kind = (file.declarations kind).map (·.mapOptions f) := by
  have hchecks := file.checks_mapOptions f []
  rw [← introduced_checks _ [], ← introduced_checks file [], ← introduced_mapOptions, ← hchecks,
    List.map_nil]

namespace Request

variable (request : Request)

/-- The declarations of a request with other options. -/
theorem declarations_mapOptions (kind : Kind) :
    (request.mapOptions f).declarations kind =
      (request.declarations kind).map (·.mapOptions f) := by
  simp only [declarations, mapOptions, List.flatMap_map, List.map_flatMap,
    FileDescriptor.declarations_mapOptions]

theorem messagesUpTo_mapOptions (position : Nat) :
    (request.mapOptions f).messagesUpTo position =
      (request.messagesUpTo position).map (·.mapOptions f) := by
  simp only [messagesUpTo, mapOptions, ← List.map_take, List.flatMap_map, List.map_flatMap,
    FileDescriptor.declarations_mapOptions]

/-- The checks of a request with other options. -/
theorem checks_mapOptions :
    (request.mapOptions f).checks = request.checks.map (·.mapOptions f) := by
  rw [checks, checks, List.map_flatMap]
  simp only [← FileDescriptor.checks_mapOptions, ← messagesUpTo_mapOptions]
  simp only [mapOptions, List.zipIdx_map, List.flatMap_map]
  rfl

end Request

/-! ## How checks fail -/

/-- A check fails alike whatever the options are. -/
theorem Check.error?_mapOptions (check : Check) (earlier : List Check) :
    (check.mapOptions f).error? (earlier.map (·.mapOptions f)) = check.error? earlier := by
  cases check with
  | distinct kind declaration =>
      rw [mapOptions]
      simp only [error?, introduced_mapOptions, Declaration.map_id_mapOptions,
        Declaration.id_mapOptions]
  | oneofIndex field =>
      simp only [mapOptions, error?, Declaration.oneofIndex_mapOptions,
        Declaration.oneofCount_mapOptions, Declaration.id_mapOptions]
  | methodType known method role =>
      simp only [mapOptions, error?, Declaration.typeName_mapOptions, Declaration.id_mapOptions,
        List.map_map, Function.comp_def, List.length_map]

theorem firstError_mapOptions (earlier checks : List Check) :
    firstError (earlier.map (·.mapOptions f)) (checks.map (·.mapOptions f)) =
      firstError earlier checks := by
  induction checks generalizing earlier with
  | nil => rfl
  | cons check checks ih =>
      have hrest := ih (earlier ++ [check])
      rw [List.map_append, List.map_singleton] at hrest
      simp only [List.map_cons, firstError, Check.error?_mapOptions, hrest]

end

/-- Requests that differ in nothing but options ask for the same. -/
theorem Request.eq_of_mapOptions_eq {f : Options → Options} {request other : Request}
    (h : other.mapOptions f = request.mapOptions f) :
    other.filesToGenerate = request.filesToGenerate ∧ other.parameter = request.parameter ∧
      other.compilerVersion = request.compilerVersion := by
  simp only [mapOptions, Request.mk.injEq] at h
  exact ⟨h.1, h.2.1, h.2.2.2⟩

/-- Requests whose files differ in nothing but options fail alike. -/
theorem Request.firstError_eq_of_mapOptions_eq {f : Options → Options} {request other : Request}
    (h : (other.mapOptions f).files = (request.mapOptions f).files) :
    firstError [] other.checks = firstError [] request.checks := by
  have hchecks : (other.mapOptions f).checks = (request.mapOptions f).checks := by
    unfold checks messagesUpTo
    rw [h]
  rw [checks_mapOptions, checks_mapOptions] at hchecks
  have hother := firstError_mapOptions f [] other.checks
  rw [hchecks, firstError_mapOptions f [] request.checks] at hother
  exact hother.symm

end LinkedSchema
