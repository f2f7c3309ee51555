import TimeProbe.Text.Split

/-!
# Paths

A path is written without empty parts and without parts that only say "here"; parts
that lead upwards stay. The empty path is written as a dot.
-/

namespace TimeProbe.Path

/-- The root of a path. Exactly two leading slashes are a root of their own. -/
def root (cs : List Char) : String :=
  match (cs.takeWhile (· == '/')).length with
  | 0 => ""
  | 2 => "//"
  | _ => "/"

/-- Whether a part says where to go. -/
def leads (part : List Char) : Bool := !part.isEmpty && part != ['.']

/-- The path as it is written. -/
def normal (path : String) : String :=
  let cs := path.toList
  let parts := (Text.split '/' cs).filter leads
  let text := root cs ++ String.intercalate "/" (parts.map String.ofList)
  if text.isEmpty then "." else text

/-- The parts of a path, where a part that leads upwards takes the one before it away. -/
def climbed (path : String) : List (List Char) :=
  let step (above : List (List Char)) (part : List Char) : List (List Char) :=
    if part = ['.', '.'] then above.dropLast else above ++ [part]
  ((Text.split '/' path.toList).filter leads).foldl step []

/-- The directory and the name that a path leads to from a directory. -/
def place (directory path : String) : List (List Char) × List Char :=
  let parts := climbed (if path.startsWith "/" then path else directory ++ "/" ++ path)
  (parts.dropLast, parts.getLastD [])

end TimeProbe.Path
