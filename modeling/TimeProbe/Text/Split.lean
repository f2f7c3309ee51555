/-!
# Splitting text

The parts of a text between the places where one character stands. There is always
at least one part, and the parts joined by the character give the text back.
-/

namespace TimeProbe.Text

/-- The parts of a text between the occurrences of a character. -/
def split (sep : Char) : List Char → List (List Char)
  | [] => [[]]
  | c :: rest =>
    if c = sep then [] :: split sep rest
    else
      match split sep rest with
      | part :: parts => (c :: part) :: parts
      | [] => [[c]]

/-- Whether a text occurs in another one. -/
def occursIn (part : List Char) : List Char → Bool
  | [] => part.isEmpty
  | c :: rest => part.isPrefixOf (c :: rest) || occursIn part rest

end TimeProbe.Text
