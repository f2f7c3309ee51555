import TimeProbe.Text.Blank
import TimeProbe.Text.Split

/-!
# Summaries

The summary of a case is the first line of its description. Tabs count as the
blanks up to the next multiple of eight columns, blank lines around the description
do not count, and neither do the blanks before its first line.
-/

namespace TimeProbe.Summary

open TimeProbe.Text

/-- A text with its tabs replaced; `column` is the number of characters since the
last line break. -/
def expandTabs : Nat → List Char → List Char
  | _, [] => []
  | column, '\t' :: rest =>
    let width := 8 - column % 8
    List.replicate width ' ' ++ expandTabs (column + width) rest
  | column, c :: rest =>
    c :: expandTabs (if c = '\n' || c = '\r' then 0 else column + 1) rest

/-- The number of blanks that a line starts with. -/
def indentation (line : List Char) : Nat := line.length - (trimLeft isBlank line).length

/-- The least indentation of the lines that are not blank. -/
def commonIndentation (lines : List (List Char)) : Nat :=
  let widths := (lines.filter fun l => !(trimLeft isBlank l).isEmpty).map indentation
  match widths with
  | [] => 0
  | w :: ws => ws.foldl min w

/-- The description without its indentation and without empty lines around it. -/
def clean (doc : List Char) : List (List Char) :=
  match split '\n' (expandTabs 0 doc) with
  | [] => []
  | first :: rest =>
    let margin := commonIndentation rest
    let lines := trimLeft isBlank first :: rest.map (·.drop margin)
    ((lines.reverse.dropWhile List.isEmpty).reverse).dropWhile List.isEmpty

/-- The first line of a description, ended by any kind of line end. -/
def ofDoc (doc : String) : String :=
  match clean doc.toList with
  | [] => ""
  | first :: _ => String.ofList (first.takeWhile (!isLineEnd ·))

end TimeProbe.Summary
