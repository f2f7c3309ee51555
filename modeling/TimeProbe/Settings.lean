import TimeProbe.Binary64.Basic

/-!
# Settings

The values that the environment may change: defaults for a target, bounds on what
a server may send, and logging.
-/

namespace TimeProbe

/-- The prober's settings with their defaults. -/
structure Settings where
  defaultPort : Int := 123
  defaultKePort : Int := 4460
  defaultTimeoutMs : Int := 100
  /-- The upper bound for a single case. -/
  caseTimeoutSec : Binary64 := Binary64.ofInt 10
  maxDatagramBytes : Int := 9000
  /-- The number of records accepted in one answer. -/
  maxKeRecords : Int := 1024
  keReadSize : Int := 16384
  /-- One cookie for the body of a case and one for the probe behind it. -/
  ntsSessionCookies : Int := 2
  logDir : Option String := none
  logLevel : String := "WARNING"
deriving Inhabited

end TimeProbe
