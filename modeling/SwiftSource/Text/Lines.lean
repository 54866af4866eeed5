/-!
The lines of a text. A line ends at a line feed, with or without a carriage return before it; what
follows the last line feed is a line only if it is not empty.
-/
namespace SwiftSource.Text

def lines : List Char → List (List Char)
  | [] => []
  | '\n' :: rest => [] :: lines rest
  | '\r' :: '\n' :: rest => [] :: lines rest
  | c :: rest =>
    match lines rest with
    | [] => [[c]]
    | line :: others => (c :: line) :: others

end SwiftSource.Text
