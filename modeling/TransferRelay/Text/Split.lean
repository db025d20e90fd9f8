/-!
# Splitting text

`Text.splitOn` divides a text at each occurrence of a character. There is always one part more than
there are occurrences.
-/

namespace TransferRelay.Text

/-- The parts of a text between separators. -/
def splitOn (separator : Char) : List Char → List (List Char)
  | [] => [[]]
  | c :: cs =>
    if c = separator then [] :: splitOn separator cs
    else
      match splitOn separator cs with
      | [] => [[c]]
      | part :: rest => (c :: part) :: rest

end TransferRelay.Text
