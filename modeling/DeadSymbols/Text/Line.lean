/-!
Contract: the lines of a text, in two views.

`pieces` cuts a text after every newline and loses nothing: its parts concatenate to the text.
`lines` gives what the lines say: the newline that ends a line is dropped, and with it one
carriage return just before it. A carriage return elsewhere belongs to its line.
-/

namespace DeadSymbols.Text

/-- The text cut after every newline. No piece is empty. -/
def pieces : List Char → List (List Char)
  | [] => []
  | c :: rest =>
    if c = '\n' then [c] :: pieces rest
    else
      match pieces rest with
      | [] => [[c]]
      | piece :: more => (c :: piece) :: more

/-- What a piece says as a line: its newline is dropped, with one carriage return before it. -/
def lineOfPiece (piece : List Char) : List Char :=
  match piece.reverse with
  | '\n' :: '\r' :: rest => rest.reverse
  | '\n' :: rest => rest.reverse
  | _ => piece

/-- The lines of a text. A newline ends a line, so a final newline opens no further one. -/
def lines (cs : List Char) : List (List Char) :=
  (pieces cs).map lineOfPiece

/-- The piece without any carriage returns and newlines at its end. -/
def dropLineEnd (piece : List Char) : List Char :=
  piece.reverse.dropWhile (fun c => c = '\n' || c = '\r') |>.reverse

end DeadSymbols.Text
