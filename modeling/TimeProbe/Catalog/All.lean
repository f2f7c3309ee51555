import TimeProbe.Case.Registry
import TimeProbe.Catalog.Basic
import TimeProbe.Catalog.Extensions
import TimeProbe.Catalog.KeyExchange
import TimeProbe.Catalog.Nts

/-!
# The catalog

All cases, in the order in which they run: plain polls, extension fields, protected
polls, and key establishment.
-/

namespace TimeProbe.Catalog

/-- The cases of the catalog. -/
def cases : List TestCase := Basic.all ++ Extensions.all ++ Nts.all ++ KeyExchange.all

/-- The registry of the catalog. -/
def all : Registry := ⟨cases⟩

example : Registry.ofList cases = .ok all := by rfl

end TimeProbe.Catalog
