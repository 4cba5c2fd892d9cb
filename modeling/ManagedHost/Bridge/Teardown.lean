import ManagedHost.Bridge.Exit
import ManagedHost.Bridge.Inbound

/-!
Tearing a bridge down. The bridge stops being live first and gives up its runtime, then the unload
method is called and the runtime is shut down, whatever comes of either, and then everything that
the bridge kept for the runtime is removed and the place for a runtime is free again. A bridge that
is not live is left as it is.
-/

namespace ManagedHost.Action

def callUnload (foreign : Foreign) (b : BridgeId) (live : LiveHost) : Action Unit := do
  if let some (name, address) := live.unload then
    match ← callAddress foreign (.unload b) name ⟨.void, []⟩ address [] with
    | .ok _ => log .debug .bridge ("Called " ++ name)
    | .error e => log .warn .bridge ("Unload hook " ++ name ++ " failed: " ++ e.message)

def shutDown (foreign : Foreign) (live : LiveHost) : Action Unit := do
  match ← foreign (.shutDown live.host live.started) with
  | .ok () => log .info .bridge "Core CLR shut down"
  | .error status =>
    log .warn .bridge ("Core CLR shutdown (code=" ++ Text.statusCode status ++ ")")

/-- Removes everything that a bridge kept for its runtime and frees the place of the runtime. -/
def forget (b : BridgeId) : Action Unit := do
  clearRegistry (.bridge b)
  updateBridge b fun bridge =>
    { bridge with bindingsJson := none, imports := [], objects := {} }
  updateProcess fun p => { p with isClaimed := false }
  releaseExit b

/-- Tears a bridge down. Tells whether it was live. -/
def teardown (foreign : Foreign) (b : BridgeId) : Action Bool := do
  let found ← bridge b
  if !found.isLive then return false
  else
    updateBridge b fun bridge => { bridge with isLive := false, host := none }
    if let some live := found.host then
      callUnload foreign b live
      shutDown foreign live
    forget b
    return true

/-- Tears down the bridge that waits for the end of the process. Tells whether it was live. -/
def runExitTeardown (foreign : Foreign) : Action Bool := do
  match (← process).exitTarget with
  | none => return false
  | some b =>
    updateProcess fun p => { p with exitTarget := none }
    teardown foreign b

end ManagedHost.Action
