import ManagedHost.Bridge.World

/-!
The end of the process. At most one bridge waits to be torn down then, the one that was registered
last; a bridge that is torn down before gives up that place.
-/

namespace ManagedHost.Action

/-- Makes a bridge the one to be torn down at the end of the process. -/
def registerExit (b : BridgeId) : Action Unit := do
  updateProcess fun p => { p with exitTarget := some b }
  unless (← process).hasExitHook do
    updateProcess fun p => { p with hasExitHook := true }
    log .debug .exit "Registered process exit hook"

/-- Gives up the place of a bridge, if it has it. -/
def releaseExit (b : BridgeId) : Action Unit := do
  if (← process).exitTarget = some b then
    updateProcess fun p => { p with exitTarget := none }
    log .debug .exit "Released process exit target"

end ManagedHost.Action
