import LinkedSchema.Proofs.Check
import LinkedSchema.Proofs.Registry
import LinkedSchema.Model

/-!
# Registration steps as checks

The steps of a request are made by a recursion over descriptors that carries identifiers and paths
along. Here they are told in terms of declarations: each check comes down to the steps that carry it
out, and the steps of a request are those of its checks.

* `Declaration.entity` — the entity as which a declaration is registered;
* `Check.steps` — the steps of a check;
* `messageSteps_alike`, `FileDescriptor.steps_alike` — the steps of a message and of a file are
  those of its checks.
-/

namespace LinkedSchema

/-- The metadata of a declaration with given options: what an extension carries, if it is there and
can be read. -/
def Metadata.effective (options : Options) (extension : String) : Metadata :=
  match Metadata.read options extension with
  | some (.ok metadata) => metadata
  | some (.error _) | none => {}

/-- The name of the metadata extension of a kind; oneofs have none. -/
def ExtensionNames.ofKind? (extensions : ExtensionNames) : Kind → Option String
  | .file => some extensions.file
  | .message => some extensions.message
  | .field => some extensions.field
  | .oneof => none
  | .enum => some extensions.enum
  | .enumValue => some extensions.enumValue
  | .service => some extensions.service
  | .method => some extensions.method

section

variable (extensions : ExtensionNames) (filesToGenerate : List String)

namespace Declaration

/-- The oneof of a field, if it names one that there is. -/
def oneofId? : Declaration .field → Option (Ident .oneof)
  | .field around _ descriptor =>
      descriptor.oneofIndex.bind (atIndex? (around.oneofs.map Declaration.id))

/-- The entity as which a declaration with some metadata is registered. -/
def entityWith : {kind : Kind} → Declaration kind → Metadata → Entity kind
  | .file, declaration, metadata =>
      File.ofDescriptor (declaration.source.scope extensions)
        (filesToGenerate.contains declaration.source.name) declaration.descriptor metadata
  | .message, declaration, metadata =>
      Message.ofDescriptor (declaration.source.scope extensions)
        (declaration.enclosing.map Declaration.id) declaration.path declaration.descriptor metadata
  | .field, .field around position descriptor, metadata =>
      Field.ofDescriptor (around.source.scope extensions) around.id (around.path.field position)
        descriptor (Declaration.field around position descriptor).oneofId? metadata
  | .oneof, .oneof around position descriptor, _ =>
      Oneof.ofDescriptor (around.source.scope extensions) around.id (around.path.oneof position)
        around.descriptor.fields position descriptor
  | .enum, declaration, metadata =>
      Enum.ofDescriptor (declaration.source.scope extensions)
        (declaration.enclosing.head?.map Declaration.id) declaration.path declaration.descriptor
        metadata
  | .enumValue, .enumValue around position descriptor, metadata =>
      EnumValue.ofDescriptor (around.source.scope extensions) around.id
        (around.path.enumValue position) descriptor metadata
  | .service, declaration, metadata =>
      Service.ofDescriptor (declaration.source.scope extensions) declaration.path
        declaration.descriptor metadata
  | .method, .method around position descriptor, metadata =>
      Method.ofDescriptor (around.source.scope extensions) around.id (around.path.method position)
        descriptor metadata

/-- The metadata of a declaration. -/
def metadata {kind : Kind} (declaration : Declaration kind) : Metadata :=
  match extensions.ofKind? kind with
  | some extension => Metadata.effective declaration.options extension
  | none => {}

/-- The entity as which a declaration is registered. -/
def entity {kind : Kind} (declaration : Declaration kind) : Entity kind :=
  declaration.entityWith extensions filesToGenerate (declaration.metadata extensions)

end Declaration

/-- The steps of a check. A check of an identifier is the attempt to register the declaration. -/
def Check.steps : Check → List Step
  | .distinct kind declaration =>
      match extensions.ofKind? kind with
      | some extension =>
          declareWithMetadata kind extension declaration.options
            (declaration.entityWith extensions filesToGenerate)
      | none => [.declare kind (declaration.entityWith extensions filesToGenerate {})]
  | .oneofIndex field =>
      match field.oneofIndex with
      | none => []
      | some index =>
          if 0 ≤ index ∧ index < field.oneofCount then []
          else [.refuse (.oneofIndexOutOfRange field.id index field.oneofCount)]
  | .methodType _ method role => [.require method.id role ⟨method.typeName role⟩]

end

/-! ## Identifiers

The recursion makes the identifier of a type from a package and a parent that may be missing;
declarations have one formula for each place in which they stand. -/

theorem qualifiedName_eq (file : FileDescriptor) (name : String) :
    qualifiedName file.package name = file.topName name := by
  simp [qualifiedName, FileDescriptor.topName]

namespace Declaration

theorem ofType_message (message : Declaration .message) :
    .ofType message.source.package (message.enclosing.map Declaration.id).head?
      message.descriptor.name = message.id := by
  cases message with
  | message source position descriptor =>
      exact congrArg Ident.mk (qualifiedName_eq source descriptor.name)
  | nested around position descriptor => rfl

theorem ofType_enum (enum : Declaration .enum) :
    .ofType enum.source.package (enum.enclosing.head?.map Declaration.id)
      enum.descriptor.name = enum.id := by
  cases enum with
  | enum source position descriptor =>
      exact congrArg Ident.mk (qualifiedName_eq source descriptor.name)
  | nestedEnum around position descriptor => rfl

theorem ofType_service (service : Declaration .service) :
    .ofType service.source.package none service.descriptor.name = service.id := by
  cases service with
  | service source position descriptor =>
      exact congrArg Ident.mk (qualifiedName_eq source descriptor.name)

/-- The identifiers of the oneofs of a message, in order. -/
theorem map_id_oneofs (message : Declaration .message) :
    message.oneofs.map Declaration.id =
      message.descriptor.oneofs.map (message.id.member ·.name) :=
  map_map_zipIdx _ fun _ _ => rfl

variable (extensions : ExtensionNames) (filesToGenerate : List String)

/-- Each declaration is registered under its own identifier. -/
theorem id_entityWith {kind : Kind} (declaration : Declaration kind) (metadata : Metadata) :
    (declaration.entityWith extensions filesToGenerate metadata).id = declaration.id := by
  cases kind with
  | file => cases declaration; rfl
  | message => exact declaration.ofType_message
  | field => cases declaration; rfl
  | oneof => cases declaration; rfl
  | enum => exact declaration.ofType_enum
  | enumValue => cases declaration; rfl
  | service => exact declaration.ofType_service
  | method => cases declaration; rfl

theorem id_entity {kind : Kind} (declaration : Declaration kind) :
    (declaration.entity extensions filesToGenerate).id = declaration.id :=
  declaration.id_entityWith extensions filesToGenerate _

end Declaration

/-! ## Steps and checks -/

section

variable (extensions : ExtensionNames) (filesToGenerate : List String)

namespace Declaration

/-- The steps of an enum are those of its checks. -/
theorem enumSteps_eq (enum : Declaration .enum) :
    enumSteps (enum.source.scope extensions) (enum.enclosing.head?.map Declaration.id) enum.path
        enum.descriptor =
      enum.enumChecks.flatMap (Check.steps extensions filesToGenerate) := by
  rw [enumChecks, List.flatMap_cons, values, List.flatMap_map, List.flatMap_map]
  have hid := enum.ofType_enum
  unfold enumSteps
  dsimp only [FileDescriptor.scope]
  rw [hid]
  cases enum <;> rfl

/-- The steps of a method are those of its checks. -/
theorem methodSteps_eq (known : List (Declaration .message)) (around : Declaration .service)
    (position : Nat) (descriptor : MethodDescriptor) :
    methodSteps (around.source.scope extensions) around.id (around.path.method position)
        descriptor =
      (methodChecks known (.method around position descriptor)).flatMap
        (Check.steps extensions filesToGenerate) := by
  rw [methodChecks, List.flatMap_cons, List.flatMap_cons, List.flatMap_singleton]
  rfl

/-- The steps of a service are those of its checks. -/
theorem serviceSteps_eq (known : List (Declaration .message)) (service : Declaration .service) :
    serviceSteps (service.source.scope extensions) service.path service.descriptor =
      (service.serviceChecks known).flatMap (Check.steps extensions filesToGenerate) := by
  rw [serviceChecks, List.flatMap_cons, methods, List.flatMap_map, List.flatMap_assoc]
  simp only [← methodSteps_eq]
  have hid := service.ofType_service
  unfold serviceSteps
  dsimp only [FileDescriptor.scope]
  rw [hid]
  cases service
  rfl

theorem steps_oneofIndex (field : Declaration .field) :
    Check.steps extensions filesToGenerate (.oneofIndex field) =
      match field.oneofIndex with
      | none => []
      | some index =>
          if 0 ≤ index ∧ index < field.oneofCount then []
          else [.refuse (.oneofIndexOutOfRange field.id index field.oneofCount)] := rfl

/-- The steps of a field run like those of its checks. Behind a oneof that is out of range the
checks go on, but no run gets there. -/
theorem fieldSteps_alike (around : Declaration .message) (position : Nat)
    (descriptor : FieldDescriptor) :
    RunAlike
      (fieldSteps (around.source.scope extensions) around.id (around.oneofs.map Declaration.id)
        (around.path.field position) descriptor)
      ((Declaration.field around position descriptor).fieldChecks.flatMap
        (Check.steps extensions filesToGenerate)) := by
  have hcount : (around.oneofs.map Declaration.id).length =
      (Declaration.field around position descriptor).oneofCount := by
    simp [oneofs, oneofCount]
  have hdeclare : ∀ oneof, (Declaration.field around position descriptor).oneofId? = oneof →
      Check.steps extensions filesToGenerate
          (.distinct .field (.field around position descriptor)) =
        declareWithMetadata .field extensions.field descriptor.options
          (Field.ofDescriptor (around.source.scope extensions) around.id
            (around.path.field position) descriptor oneof) := by
    rintro _ rfl
    rfl
  rw [fieldChecks, List.flatMap_cons, List.flatMap_singleton]
  cases hindex : descriptor.oneofIndex with
  | none =>
      have hnone : (Declaration.field around position descriptor).oneofIndex = none := hindex
      rw [hdeclare none (by simp [oneofId?, hindex])]
      simp only [steps_oneofIndex, hnone, List.nil_append, fieldSteps, hindex]
      exact RunAlike.refl _
  | some index =>
      have hsome : (Declaration.field around position descriptor).oneofIndex = some index := hindex
      simp only [steps_oneofIndex, hsome]
      split
      case isTrue hrange =>
        have hlt : index.toNat < (around.oneofs.map Declaration.id).length := by omega
        have hfound : atIndex? (around.oneofs.map Declaration.id) index =
            some (around.oneofs.map Declaration.id)[index.toNat] := by
          rw [atIndex?, if_pos hrange.1, List.getElem?_eq_getElem hlt]
        rw [hdeclare _ (by rw [oneofId?, hindex, Option.bind_some, hfound]), List.nil_append]
        simp only [fieldSteps, hindex, hfound]
        exact RunAlike.refl _
      case isFalse hrange =>
        have hmissing : atIndex? (around.oneofs.map Declaration.id) index = none := by
          unfold atIndex?
          split
          · exact List.getElem?_eq_none (by omega)
          · rfl
        simp only [fieldSteps, hindex, hmissing, hcount]
        exact RunAlike.refuse _ _ _

end Declaration

/-- The steps of a message with a known identifier, part by part. -/
theorem messageSteps_eq (scope : Scope) (enclosing : List (Ident .message)) (path : SourcePath)
    (descriptor : MessageDescriptor) {id : Ident .message}
    (hid : .ofType scope.package enclosing.head? descriptor.name = id) :
    messageSteps scope enclosing path descriptor =
      declareWithMetadata .message scope.extensions.message descriptor.options
          (Message.ofDescriptor scope enclosing path descriptor) ++
        (descriptor.oneofs.zipIdx.map fun (oneof, position) =>
          .declare .oneof
            (Oneof.ofDescriptor scope id (path.oneof position) descriptor.fields position oneof)) ++
        (descriptor.fields.zipIdx.flatMap fun (field, position) =>
          fieldSteps scope id (descriptor.oneofs.map (id.member ·.name)) (path.field position)
            field) ++
        nestedSteps scope (id :: enclosing) path 0 descriptor.nested ++
        (descriptor.enums.zipIdx.flatMap fun (enum, position) =>
          enumSteps scope (some id) (path.nestedEnum position) enum) := by
  subst hid
  cases descriptor
  rw [messageSteps]

/-- The steps of nested messages, message by message. -/
theorem nestedSteps_eq (scope : Scope) (enclosing : List (Ident .message)) (path : SourcePath)
    (position : Nat) (descriptors : List MessageDescriptor) :
    nestedSteps scope enclosing path position descriptors =
      (descriptors.zipIdx position).flatMap fun (descriptor, position) =>
        messageSteps scope enclosing (path.nestedMessage position) descriptor := by
  induction descriptors generalizing position with
  | nil => rw [nestedSteps, List.zipIdx_nil, List.flatMap_nil]
  | cons descriptor descriptors ih =>
      rw [nestedSteps, List.zipIdx_cons, List.flatMap_cons, ih]

/-- The steps of a message run like those of its checks. -/
theorem messageSteps_alike (message : Declaration .message) :
    RunAlike
      (messageSteps (message.source.scope extensions) (message.enclosing.map Declaration.id)
        message.path message.descriptor)
      (message.messageChecks.flatMap (Check.steps extensions filesToGenerate)) := by
  induction message using Declaration.message_induction with
  | step message ih =>
      have hid : Ident.ofType (message.source.scope extensions).package
          (message.enclosing.map Declaration.id).head? message.descriptor.name = message.id :=
        message.ofType_message
      rw [messageSteps_eq _ _ _ _ hid, Declaration.messageChecks_eq, nestedSteps_eq]
      simp only [List.flatMap_cons, List.flatMap_append, List.append_assoc]
      refine RunAlike.append (RunAlike.refl _) (RunAlike.append ?_ (RunAlike.append ?_
        (RunAlike.append ?_ ?_)))
      · -- The oneofs have no metadata.
        rw [Declaration.oneofs, List.flatMap_map, List.flatMap_map, List.map_eq_flatMap]
        exact RunAlike.refl _
      · -- A field is registered with the oneof that it names.
        rw [List.flatMap_assoc, Declaration.fields, List.flatMap_map, ← message.map_id_oneofs]
        exact RunAlike.flatMap fun field _ =>
          Declaration.fieldSteps_alike extensions filesToGenerate message field.2 field.1
      · -- What is nested has this message in front of those around it.
        rw [List.flatMap_assoc, Declaration.messages, List.flatMap_map]
        refine RunAlike.flatMap fun inner hinner => ?_
        exact ih (.nested message inner.2 inner.1) (List.mem_map.mpr ⟨inner, hinner, rfl⟩)
      · rw [List.flatMap_assoc, Declaration.enums, List.flatMap_map]
        refine RunAlike.flatMap fun enum _ => ?_
        rw [← Declaration.enumSteps_eq]
        exact RunAlike.refl _

/-- The steps of a file run like those of its checks, with the message that the file is registered
behind them. -/
theorem FileDescriptor.steps_alike (file : FileDescriptor) (known : List (Declaration .message)) :
    RunAlike (file.steps extensions filesToGenerate)
      ((file.checks known).flatMap (Check.steps extensions filesToGenerate) ++
        [.log (.registeredFile file.name file.package (filesToGenerate.contains file.name)
          file.messages.length file.enums.length file.services.length)]) := by
  rw [FileDescriptor.steps, checks]
  simp only [List.flatMap_cons, List.flatMap_append, List.append_assoc]
  refine RunAlike.append (RunAlike.refl _) (RunAlike.append ?_ (RunAlike.append ?_
    (RunAlike.append ?_ (RunAlike.refl _))))
  · rw [List.flatMap_assoc, topMessages, List.flatMap_map]
    exact RunAlike.flatMap fun message _ =>
      messageSteps_alike extensions filesToGenerate (.message file message.2 message.1)
  · rw [List.flatMap_assoc, topEnums, List.flatMap_map]
    refine RunAlike.flatMap fun enum _ => ?_
    rw [← Declaration.enumSteps_eq]
    exact RunAlike.refl _
  · rw [List.flatMap_assoc, topServices, List.flatMap_map]
    refine RunAlike.flatMap fun service _ => ?_
    rw [← Declaration.serviceSteps_eq]
    exact RunAlike.refl _

/-- The steps of a request end like those of its checks. -/
theorem Request.steps_endAlike (request : Request) :
    EndAlike
      (request.files.flatMap (·.steps extensions filesToGenerate))
      (request.checks.flatMap (Check.steps extensions filesToGenerate)) := by
  rw [checks, List.flatMap_assoc]
  have hfiles : request.files.flatMap (·.steps extensions filesToGenerate) =
      request.files.zipIdx.flatMap (·.1.steps extensions filesToGenerate) := by
    conv_lhs => rw [← List.zipIdx_map_fst 0 request.files, List.flatMap_map]
  rw [hfiles]
  refine EndAlike.flatMap fun file _ => ?_
  have hsteps := file.1.steps_alike extensions filesToGenerate (request.messagesUpTo file.2)
  exact hsteps.endAlike.trans (EndAlike.append_log _ _)

end

end LinkedSchema
