import LinkedSchema.Proofs.Arena
import LinkedSchema.Registry
import Mathlib.Logic.Function.Basic

/-!
# Runs of registration steps

What a registry holds is a list of entities for each kind. The first half of this module says what a
single step does to these lists and when it fails; the second half takes runs of steps apart.

* `Registry.Holds` — a registry holds exactly the entities of given lists;
* `Registry.Holds.perform_declare_free`, `perform_declare_taken`, `perform_require` — single steps;
* `Registry.run_append` — a run of steps behind others;
* `RunAlike`, `EndAlike` — lists of steps that log the same and end alike, or at least end alike.
-/

namespace LinkedSchema

namespace Registry

/-- The registry holds exactly these entities, each under its own identifier and in this order. -/
def Holds (registry : Registry) (entities : (kind : Kind) → List (Entity kind)) : Prop :=
  ∀ kind, (registry.arena kind).Holds ((entities kind).map fun entity => (entity.id, entity))

/-- The new registry holds nothing. -/
theorem holds_empty : ({} : Registry).Holds fun _ => [] := by
  intro kind
  cases kind <;> exact Arena.holds_empty

namespace Holds

variable {registry : Registry} {entities : (kind : Kind) → List (Entity kind)} {kind : Kind}

theorem toList_eq (h : registry.Holds entities) (kind : Kind) :
    (registry.arena kind).toList = entities kind := by
  rw [(h kind).toList_eq, List.map_map]
  exact List.map_id _

theorem size_eq (h : registry.Holds entities) (kind : Kind) :
    (registry.arena kind).size = (entities kind).length := by
  rw [(h kind).size_eq, List.length_map]

theorem contains_iff (h : registry.Holds entities) (id : Ident kind) :
    (registry.arena kind).contains id = true ↔ id ∈ (entities kind).map Entity.id := by
  rw [(h kind).contains_iff, List.map_map]
  exact Iff.rfl

theorem get?_iff (h : registry.Holds entities) (id : Ident kind) (entity : Entity kind) :
    (registry.arena kind).get? id = some entity ↔ entity ∈ entities kind ∧ entity.id = id := by
  rw [(h kind).get?_iff, List.mem_map]
  constructor
  · intro hall
    obtain ⟨found, hmem, heq⟩ := hall
    cases heq
    exact ⟨hmem, rfl⟩
  · intro hall
    obtain ⟨hmem, rfl⟩ := hall
    exact ⟨entity, hmem, rfl⟩

/-! ## Single steps -/

/-- A declaration under a taken identifier is refused. -/
theorem perform_declare_taken (h : registry.Holds entities) {entity : Entity kind}
    (hid : entity.id ∈ (entities kind).map Entity.id) :
    registry.perform (.declare kind entity) =
      .error (.duplicateIdentifier kind entity.id.text) := by
  have htaken : entity.id ∈
      ((entities kind).map fun entity => (entity.id, entity)).map Prod.fst := by
    rw [List.map_map]
    exact hid
  simp only [perform, (h kind).insert_taken entity htaken]

/-- A declaration under a free identifier is added behind the entities of its kind, and those of the
other kinds stay as they are. -/
theorem perform_declare_free (h : registry.Holds entities) {entity : Entity kind}
    (hid : entity.id ∉ (entities kind).map Entity.id) :
    ∃ next, registry.perform (.declare kind entity) = .ok next ∧
      next.Holds (Function.update entities kind (entities kind ++ [entity])) := by
  have hfree : entity.id ∉
      ((entities kind).map fun entity => (entity.id, entity)).map Prod.fst := by
    rw [List.map_map]
    exact hid
  obtain ⟨arena, harena, hholds⟩ := (h kind).insert_free entity hfree
  refine ⟨registry.setArena kind arena, by simp only [perform, harena], ?_⟩
  -- Only the arena of the kind has changed.
  intro other
  by_cases hkind : other = kind
  · subst hkind
    rw [arena_setArena_self, Function.update_self, List.map_append]
    exact hholds
  · rw [arena_setArena_of_ne _ _ hkind, Function.update_of_ne hkind]
    exact h other

/-- The type of a method is found exactly if it is the identifier of a message. -/
theorem perform_require (h : registry.Holds entities) (method : Ident .method) (role : Role)
    (typeName : Ident .message) :
    registry.perform (.require method role typeName) =
      if typeName ∈ (entities .message).map Entity.id then .ok registry
      else .error (.unresolvedMethodType method role typeName.text (entities .message).length) := by
  have hcontains := h.contains_iff typeName
  have hsize : registry.messages.size = (entities .message).length := h.size_eq .message
  change registry.messages.contains typeName = true ↔ _ at hcontains
  simp only [perform, hcontains, hsize]

end Holds

/-! ## Runs -/

/-- A run goes on behind a run that did not fail, and a run that failed stays as it is. -/
theorem run_append (registry : Registry) (steps more : List Step) :
    registry.run (steps ++ more) =
      match registry.run steps with
      | (events, .ok next) => (events ++ (next.run more).1, (next.run more).2)
      | (events, .error error) => (events, .error error) := by
  induction steps generalizing registry with
  | nil => rfl
  | cons step steps ih =>
      -- A log entry cannot fail, and no other step adds to the events.
      cases step with
      | log event =>
          simp only [List.cons_append, run, ih]
          rcases registry.run steps with ⟨events, outcome⟩
          cases outcome <;> rfl
      | refuse error => rfl
      | require method role typeName =>
          simp only [List.cons_append, run]
          cases registry.perform (.require method role typeName) with
          | ok next => exact ih next
          | error error => rfl
      | declare kind entity =>
          simp only [List.cons_append, run]
          cases registry.perform (.declare kind entity) with
          | ok next => exact ih next
          | error error => rfl

/-- A step that is not logged and goes well hands the registry on. -/
theorem run_cons_of_ok {registry next : Registry} {step : Step} (steps : List Step)
    (hlog : ∀ event, step ≠ .log event) (h : registry.perform step = .ok next) :
    registry.run (step :: steps) = next.run steps := by
  cases step with
  | log event => exact absurd rfl (hlog event)
  | refuse error => simp only [run, h]
  | require method role typeName => simp only [run, h]
  | declare kind entity => simp only [run, h]

/-- A step that fails ends the run. -/
theorem run_cons_of_error {registry : Registry} {step : Step} {error : LinkError}
    (steps : List Step) (h : registry.perform step = .error error) :
    registry.run (step :: steps) = ([], .error error) := by
  cases step with
  | log event => exact absurd h (by simp [perform])
  | refuse other => simp only [run, h]
  | require method role typeName => simp only [run, h]
  | declare kind entity => simp only [run, h]

/-- The outcome of a run behind another depends on the outcome of that one only. -/
theorem run_append_snd (registry : Registry) (steps more : List Step) :
    (registry.run (steps ++ more)).2 =
      match (registry.run steps).2 with
      | .ok next => (next.run more).2
      | .error error => .error error := by
  rw [run_append]
  rcases registry.run steps with ⟨events, outcome⟩
  cases outcome <;> rfl

/-- A run behind another adds what it logs, unless the other one failed. -/
theorem run_append_fst (registry : Registry) (steps more : List Step) :
    (registry.run (steps ++ more)).1 =
      match (registry.run steps).2 with
      | .ok next => (registry.run steps).1 ++ (next.run more).1
      | .error _ => (registry.run steps).1 := by
  rw [run_append]
  rcases registry.run steps with ⟨events, outcome⟩
  cases outcome <;> rfl

end Registry

/-! ## Steps that run alike -/

/-- Two lists of steps log the same and end alike, whatever registry they start from. -/
def RunAlike (steps other : List Step) : Prop :=
  ∀ registry : Registry, registry.run steps = registry.run other

namespace RunAlike

theorem refl (steps : List Step) : RunAlike steps steps := fun _ => rfl

theorem append {steps other more rest : List Step} (h : RunAlike steps other)
    (hmore : RunAlike more rest) : RunAlike (steps ++ more) (other ++ rest) := by
  intro registry
  rw [Registry.run_append, Registry.run_append, h registry]
  rcases registry.run other with ⟨events, outcome⟩
  cases outcome with
  | ok next => simp only [hmore next]
  | error error => rfl

theorem flatMap {α : Type} {items : List α} {f g : α → List Step}
    (h : ∀ item ∈ items, RunAlike (f item) (g item)) :
    RunAlike (items.flatMap f) (items.flatMap g) := by
  induction items with
  | nil => exact refl []
  | cons item items ih =>
      rw [List.flatMap_cons, List.flatMap_cons]
      exact (h item List.mem_cons_self).append
        (ih fun other hother => h other (List.mem_cons_of_mem _ hother))

/-- Nothing runs behind a refusal. -/
theorem refuse (error : LinkError) (steps other : List Step) :
    RunAlike (.refuse error :: steps) (.refuse error :: other) := fun _ => rfl

end RunAlike

/-- Two lists of steps end alike, whatever registry they start from and whatever they log. -/
def EndAlike (steps other : List Step) : Prop :=
  ∀ registry : Registry, (registry.run steps).2 = (registry.run other).2

theorem RunAlike.endAlike {steps other : List Step} (h : RunAlike steps other) :
    EndAlike steps other := by
  intro registry
  rw [h registry]

namespace EndAlike

theorem trans {steps other rest : List Step} (h : EndAlike steps other)
    (hrest : EndAlike other rest) : EndAlike steps rest :=
  fun registry => (h registry).trans (hrest registry)

theorem append {steps other more rest : List Step} (h : EndAlike steps other)
    (hmore : EndAlike more rest) : EndAlike (steps ++ more) (other ++ rest) := by
  intro registry
  rw [Registry.run_append_snd, Registry.run_append_snd, h registry]
  cases (registry.run other).2 with
  | ok next => exact hmore next
  | error error => rfl

theorem flatMap {α : Type} {items : List α} {f g : α → List Step}
    (h : ∀ item ∈ items, EndAlike (f item) (g item)) :
    EndAlike (items.flatMap f) (items.flatMap g) := by
  induction items with
  | nil => exact fun _ => rfl
  | cons item items ih =>
      rw [List.flatMap_cons, List.flatMap_cons]
      exact (h item List.mem_cons_self).append
        (ih fun other hother => h other (List.mem_cons_of_mem _ hother))

/-- A last step that only logs has no influence on how a run ends. -/
theorem append_log (steps : List Step) (event : Event) :
    EndAlike (steps ++ [.log event]) steps := by
  intro registry
  rw [Registry.run_append_snd]
  cases (registry.run steps).2 <;> rfl

end EndAlike

end LinkedSchema
