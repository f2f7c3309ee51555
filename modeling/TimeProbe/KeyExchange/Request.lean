import TimeProbe.KeyExchange.Record

/-!
# Key establishment requests

A request proposes protocols and algorithms and may ask for a server and a port.
Its records stand in a fixed order with an End of Message behind them.
-/

namespace TimeProbe

/-- What a client proposes. -/
structure KeRequest where
  nextProtocol : List Int := [0]
  aead : List Int := [15]
  criticalAead : Bool := false
  server : Option String := none
  port : Option Int := none
  /-- Records sent right before End of Message. -/
  extra : List Record := []
deriving DecidableEq, Inhabited

namespace KeRequest

/-- The records of a request. -/
def records (q : KeRequest) : Except RecordBuildError (List Record) := do
  let server ← match q.server with
    | some name => do pure [← Record.server name false]
    | none => pure []
  let port ← match q.port with
    | some value => do pure [← Record.port value false]
    | none => pure []
  return [Record.nextProtocol q.nextProtocol, Record.aeadAlgorithm q.aead q.criticalAead] ++
    server ++ port ++ q.extra ++ [Record.endOfMessage]

end KeRequest

end TimeProbe
