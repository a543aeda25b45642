import TableDdl.Settings.Source

/-!
# Cached settings

Model of `get_settings` and of clearing its cache.

The first settings that load are kept and given out from then on, until the cache is cleared.
Settings that do not load are not remembered. Each load that succeeds makes a new instance; the
instances are numbered.
-/

namespace TableDdl

structure SettingsInstance where
  number : Nat
  settings : Settings
  deriving DecidableEq, Repr

structure SettingsCache where
  held : Option SettingsInstance := none
  /-- How many instances have been made. -/
  made : Nat := 0
  deriving DecidableEq, Repr

namespace SettingsCache

/-- The settings under the given sources, which only matter when none are held. -/
def get (c : SettingsCache) (sources : Sources) :
    SettingsCache × Except (List SettingError) SettingsInstance :=
  match c.held with
  | some i => (c, .ok i)
  | none =>
    match Settings.load sources with
    | .error problems => (c, .error problems)
    | .ok settings =>
      let i : SettingsInstance := ⟨c.made, settings⟩
      ({ held := some i, made := c.made + 1 }, .ok i)

def clear (c : SettingsCache) : SettingsCache := { c with held := none }

inductive Step where
  | get (sources : Sources)
  | clear

def step (c : SettingsCache) : Step → SettingsCache × Option (Except (List SettingError) SettingsInstance)
  | .get sources => ((c.get sources).1, some (c.get sources).2)
  | .clear => (c.clear, none)

/-- The answers to a list of steps; clearing has none. -/
def run (c : SettingsCache) :
    List Step → SettingsCache × List (Option (Except (List SettingError) SettingsInstance))
  | [] => (c, [])
  | st :: rest =>
    let (d, answer) := c.step st
    let (e, answers) := d.run rest
    (e, answer :: answers)

theorem get_of_held {c : SettingsCache} {i : SettingsInstance} (h : c.held = some i)
    (sources : Sources) : c.get sources = (c, .ok i) := by
  simp [get, h]

end SettingsCache

end TableDdl
