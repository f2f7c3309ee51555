import TimeProbe.Fault

/-!
# Chunks

A stream arrives in chunks: octets as they come, time that passes, and faults. Octets
that are none are the end of the stream.
-/

namespace TimeProbe

/-- What one receive on a stream meets. -/
inductive Chunk
  | octets (data : Bytes)
  /-- Time passes, then the next chunk is met in the same receive. -/
  | pause (ticks : Nat)
  | fault (cause : Fault)

end TimeProbe
