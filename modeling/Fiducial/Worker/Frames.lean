import Fiducial.Localizer.Basic
import Fiducial.Worker.Basic

/-!
# A worker for frames

A localizer can handle the frames of a camera in a worker, so that whoever sees a frame only hands
it in.  Each frame is a cycle of the localizer.  Its report goes to a receiver, if there is one, and
so does the lack of a report before the first calibration.
-/

namespace Fiducial

/-- What a worker for frames works on: the localizer, what was logged, and what the receiver has. -/
structure FrameDesk (σ α τ : Type) where
  localizer : Localizer σ α
  log : List Log.Entry
  received : τ

/-- Takes a report, and may fail. -/
def ReportReceiver (σ α τ : Type) : Type :=
  FrameDesk σ α τ → Option (Report α) → FrameDesk σ α τ × Option Fault

variable {σ α τ : Type} [Scalar α] [Numerics α]

def Setup.frameHandler (s : Setup σ α) (receiver : Option (ReportReceiver σ α τ)) :
    Handler (FrameDesk σ α τ) MarkerFrame (Option (Report α)) where
  handle desk frame :=
    let reply := Localizer.processFrame s desk.localizer frame
    ({ desk with localizer := reply.state, log := desk.log ++ reply.log }, reply.result)
  deliver desk report :=
    match receiver with
    | none => (desk, none)
    | some receive => receive desk report

end Fiducial
