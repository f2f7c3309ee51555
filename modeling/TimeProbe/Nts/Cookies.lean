import TimeProbe.Network.World

/-!
# Cookie pools

A pool is never changed: taking a cookie and adding cookies make new pools. Cookies
are used in the order in which they came.
-/

namespace TimeProbe.CookiePool

/-- The fault of an empty pool. -/
def exhausted : Fault := { kind := .cookiePoolExhausted, message := "No NTS cookie left" }

/-- The first cookie and the pool without it. -/
def take (p : CookiePool) : Except Fault (Bytes × CookiePool) :=
  match p.cookies with
  | [] => .error exhausted
  | c :: cs => .ok (c, ⟨cs⟩)

/-- The pool with more cookies behind its own. -/
def add (p : CookiePool) (cookies : List Bytes) : CookiePool := ⟨p.cookies ++ cookies⟩

end TimeProbe.CookiePool
