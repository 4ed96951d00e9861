/-!
# Setting a replay up

What a replay has to be given before it can start.
-/

namespace TrafficReplay

/-- Why a replay cannot be set up. -/
inductive SetupFault
  | noTargets
  | badRepeat (count : Int)
  | badPoolSize (size : Int)
  | noWork
  deriving DecidableEq, Repr

/-- The wording of a fault. -/
def SetupFault.message : SetupFault → String
  | .noTargets => "Both target lists need at least one endpoint"
  | .badRepeat n => "Repeat count must be at least 1, got " ++ toString n
  | .badPoolSize n => "Worker pool size must be at least 1, got " ++ toString n
  | .noWork => "Worker pool needs a run function"

end TrafficReplay
