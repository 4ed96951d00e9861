import TrafficReplay.Report
import TrafficReplay.Text.Lower

/-!
# Verbosity

A verbosity is the name of the least severity that is logged. The log has one handler, which is
made when the first verbosity is set and follows the later ones.
-/

namespace TrafficReplay

/-- The verbosities and their severities. -/
def verbosities : List (String × Severity) :=
  [("error", .error), ("warn", .warn), ("info", .info), ("diag", .diag)]

/-- The severity of a verbosity, its name in any case. -/
def verbosity? (name : String) : Option Severity :=
  (verbosities.find? fun v => v.1 = Text.lowerText name).map Prod.snd

/-- How the log is set up. -/
structure LogSetup where
  /-- The least severity that is logged; there is none before the first set-up. -/
  threshold : Option Severity
  /-- The least severities that the handlers pass on. -/
  handlers : List Severity
  deriving DecidableEq, Repr

namespace LogSetup

/-- The channel above all others. -/
def channel : String := "proxyreplay"

/-- The log before its set-up. -/
def initial : LogSetup := ⟨none, []⟩

/-- Set a verbosity; `none` if it is not known. -/
def configure? (l : LogSetup) (name : String) : Option LogSetup :=
  (verbosity? name).map fun v =>
    ⟨some v, (if l.handlers.isEmpty then [v] else l.handlers).map fun _ => v⟩

end LogSetup

/-- The records of a severity not below a threshold. -/
def passing (threshold : Severity) (log : List LogRecord) : List LogRecord :=
  log.filter fun r => threshold.rank ≤ r.severity.rank

end TrafficReplay
