/-!
# Logging

Where log records go and which of them are kept. Records go to the console and, if asked for, to a
file. Debugging lowers the threshold and adds the place in the source to each line.
-/

namespace SentenceGraph

/-- The thresholds of log records; a greater number is more severe. -/
abbrev LogLevel := Int

namespace LogLevel

/-- The threshold of debugging. -/
def debug : LogLevel := 10

/-- The threshold of warnings. -/
def warning : LogLevel := 30

end LogLevel

/-- Where the records of a handler go. -/
inductive LogTarget where
  | console
  | file
deriving DecidableEq, Repr

/-- A destination of log records. -/
structure LogHandler where
  target : LogTarget
  level : LogLevel
  format : String
deriving DecidableEq, Repr

/-- The set-up of logging. -/
structure LogSetup where
  rootLevel : LogLevel
  /-- The threshold for records about single web requests, which are too many below warnings. -/
  requestLevel : LogLevel
  handlers : List LogHandler
deriving DecidableEq, Repr

namespace LogSetup

/-- The form of a line. -/
def plainFormat : String := "%(asctime)s - %(levelname)s - %(message)s"

/-- The form of a line when debugging. -/
def debugFormat : String :=
  "%(asctime)s - %(name)s - %(levelname)s - [%(filename)s:%(lineno)d] - %(message)s"

/-- The set-up for a threshold, with or without debugging and a log file. -/
def make (level : LogLevel) (debug withFile : Bool) : LogSetup :=
  let threshold := if debug then LogLevel.debug else level
  let format := if debug then debugFormat else plainFormat
  let file : List LogHandler := if withFile then [⟨.file, threshold, format⟩] else []
  { rootLevel := threshold
    requestLevel := max threshold LogLevel.warning
    handlers := ⟨.console, threshold, format⟩ :: file }

end LogSetup

end SentenceGraph
