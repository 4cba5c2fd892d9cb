import ManagedHost.Bridge.Loader
import ManagedHost.Settings.Basic

/-!
What a bridge is told to load, as the settings have it.
-/

namespace ManagedHost.Settings

/-- The loader for the bootstrap assembly, in an environment. -/
def loader (settings : Settings) (base : Environment) : Except Refusal Loader := do
  let minVersion ← settings.minVersion
  return {
    assembly := settings.bootstrap.assemblyPath
    identity := settings.bootstrap.assemblyIdentity
    entryType := settings.bootstrap.entryType
    minVersion
    loadMethod := settings.bootstrap.loadMethod
    unloadMethod := settings.bootstrap.unloadMethod
    environment := settings.environment base }

end ManagedHost.Settings
