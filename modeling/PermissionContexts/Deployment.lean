import PermissionContexts.Engine.Registry
import PermissionContexts.Settings.Load

/-! # Deployments

    A deployment has one settings document and at most one manager. Both are set once
    and stay: the settings by whoever is first to set or to ask for them, the manager
    by the one who installs it.
-/

namespace PermissionContexts

/-- A place that is filled at most once. -/
structure Once (α : Type) where
  /-- What the place was filled with. -/
  value? : Option α
deriving DecidableEq, Repr

namespace Once

variable {α : Type}

/-- The place that is not filled yet. -/
def empty : Once α := ⟨none⟩

/-- Fills the place, or hands `a` back when it is filled already. -/
def set (o : Once α) (a : α) : Except α Unit × Once α :=
  match o.value? with
  | some _ => (.error a, o)
  | none => (.ok (), ⟨some a⟩)

/-- What the place was filled with, which is `a` if it was not filled yet. -/
def getOrFill (o : Once α) (a : α) : α × Once α :=
  match o.value? with
  | some b => (b, o)
  | none => (a, ⟨some a⟩)

end Once

/-- What a deployment has once; `μ` stands for managers. -/
structure Deployment (μ : Type) where
  /-- The settings. -/
  settings : Once Settings
  /-- The manager. -/
  manager : Once μ
deriving DecidableEq, Repr

namespace Deployment

variable {μ : Type}

/-- A deployment that has nothing yet. -/
def new : Deployment μ := ⟨.empty, .empty⟩

/-- The settings of the deployment. They are loaded when they are not there, and are
    the defaults when that fails. -/
def getSettings (d : Deployment μ) (file : SettingsFile) (overrides : Overrides) :
    Settings × Deployment μ :=
  let loaded :=
    match Settings.load file overrides with
    | .ok s => s
    | .error _ => .default
  let r := d.settings.getOrFill loaded
  (r.1, { d with settings := r.2 })

/-- Sets the settings of the deployment, or hands them back when it has some. -/
def initSettings (d : Deployment μ) (s : Settings) : Except Settings Unit × Deployment μ :=
  let r := d.settings.set s
  (r.1, { d with settings := r.2 })

/-- Installs the manager of the deployment, or refuses to when there is one. -/
def initManager (d : Deployment μ) (m : μ) : Except EngineError Unit × Deployment μ :=
  let r := d.manager.set m
  (r.1.mapError fun _ => .alreadyInitialized, { d with manager := r.2 })

end Deployment

end PermissionContexts
