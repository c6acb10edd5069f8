import WasmDeploy.Fault.Defect
import WasmDeploy.Fault.Failure

/-!
# Faults

This file joins the ways an operation ends without a value. A failure is what a deployment reports; it names
the network of the deployment once that is known. A defect passes through the deployment untouched. An
operation is unfinished if it polled to the horizon of its world without an end in sight.
-/

namespace WasmDeploy

/-- The ways an operation ends without a value. -/
inductive Fault where
  | failure (cause : Failure) (network : Option Network)
  | defect (cause : Defect)
  | unfinished

namespace Fault

/-- A failure before its network is known. -/
def of (cause : Failure) : Fault :=
  .failure cause none

/-- The fault with the network noted on it, if it is a failure. -/
def onNetwork (network : Network) : Fault → Fault
  | .failure cause _ => .failure cause (some network)
  | fault => fault

end Fault

/-- Ends with a failure whose network is not known yet. -/
def fail {α : Type} (cause : Failure) : Except Fault α :=
  .error (.of cause)

/-- Ends with a defect. -/
def reject {α : Type} (cause : Defect) : Except Fault α :=
  .error (.defect cause)

end WasmDeploy
