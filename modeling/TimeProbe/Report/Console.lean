import TimeProbe.Report.Basic

/-!
# Printed reports

On a terminal the status lines and the lines of the summary are coloured by the
kind of outcome; the details below a status line never are.
-/

namespace TimeProbe

namespace OutcomeKind

/-- The control sequence that starts the colour of a kind. -/
def colour : OutcomeKind → String
  | passed => "\x1b[92m"
  | failed => "\x1b[91m"
  | errored => "\x1b[93m"
  | skipped => "\x1b[94m"

end OutcomeKind

namespace Console

/-- The control sequence that ends a colour. -/
def reset : String := "\x1b[0m"

/-- A line in the colour of a kind, if colours are on. -/
def paint (colours : Bool) (kind : OutcomeKind) (line : String) : String :=
  if colours then kind.colour ++ line ++ reset else line

/-- The printed lines of an entry. -/
def entryLines (colours : Bool) (e : Entry) : List String :=
  paint colours e.outcome.kind e.statusLine :: e.detailLines

/-- The printed lines of the summary. -/
def summaryLines (colours : Bool) (r : Report) : List String :=
  "" :: OutcomeKind.all.map fun kind => paint colours kind (r.summaryLine kind)

/-- Whether colours are on: a choice made beforehand wins over the kind of stream. -/
def useColours (choice : Option Bool) (terminal : Bool) : Bool := choice.getD terminal

end Console

end TimeProbe
