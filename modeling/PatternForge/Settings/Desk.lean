import PatternForge.Settings.Basic

/-!
# The settings desk

The desk reads the settings when they are first asked for and hands out the same ones until it is
cleared. Settings that cannot be read are not kept, so the next request reads again.
-/

namespace PatternForge

/-- Where settings come from, and the ones in use. -/
structure Desk where
  environment : Environment := []
  files : FileStore := {}
  kept : Option Settings := none

namespace Desk

def load (desk : Desk) : Except SettingsFault Settings :=
  Settings.load desk.environment desk.files

/-- The settings in use, which are read if there are none. -/
def settings (desk : Desk) : Except SettingsFault Settings × Desk :=
  match desk.kept with
  | some settings => (.ok settings, desk)
  | none =>
    match desk.load with
    | .ok settings => (.ok settings, { desk with kept := some settings })
    | .error fault => (.error fault, desk)

def clear (desk : Desk) : Desk :=
  { desk with kept := none }

/-- The desk with a name of the environment bound, or unbound if there is no value. -/
def bind (desk : Desk) (name : Text) (value : Option Text) : Desk :=
  { desk with
    environment :=
      match value with
      | some value => Environment.insert desk.environment name value
      | none => desk.environment.erase name }

/-- Settings in use stay in use. -/
theorem settings_eq_of_kept {desk : Desk} {settings : Settings}
    (kept : desk.kept = some settings) : desk.settings = (.ok settings, desk) := by
  simp [Desk.settings, kept]

/-- Settings that are handed out are in use from then on. -/
theorem settings_of_ok {desk : Desk} {settings : Settings} (told : desk.settings.1 = .ok settings) :
    desk.settings = (.ok settings, { desk with kept := some settings }) := by
  cases kept : desk.kept with
  | some current =>
    have stays := settings_eq_of_kept kept
    rw [stays] at told ⊢
    obtain rfl := Except.ok.inj told
    rw [← kept]
  | none =>
    cases loads : desk.load with
    | ok current =>
      simp only [Desk.settings, kept, loads, Except.ok.injEq] at told ⊢
      rw [told]
    | error fault => simp only [Desk.settings, kept, loads, reduceCtorEq] at told

/-- Where there are none to hand out the desk stays as it is. -/
theorem settings_of_error {desk : Desk} {fault : SettingsFault}
    (told : desk.settings.1 = .error fault) : desk.settings = (.error fault, desk) := by
  cases kept : desk.kept with
  | some current => simp only [Desk.settings, kept, reduceCtorEq] at told
  | none =>
    cases loads : desk.load with
    | ok current => simp only [Desk.settings, kept, loads, reduceCtorEq] at told
    | error found =>
      simp only [Desk.settings, kept, loads, Except.error.injEq] at told ⊢
      rw [told]

end Desk

end PatternForge
