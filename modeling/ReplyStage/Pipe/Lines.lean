import ReplyStage.Text.Utf8
/-!
# Lines of input

The input of the pipe is text in lines. A line ends with a line feed, and a carriage return right
before it belongs to the end; the last line may lack its end. Each line has to be UTF-8.
-/

namespace ReplyStage.Lines

/-- Cuts bytes after each line feed. -/
def cut : Bytes → List Bytes
  | [] => []
  | b :: rest =>
    if b = 0x0A then [b] :: cut rest
    else
      match cut rest with
      | [] => [[b]]
      | line :: lines => (b :: line) :: lines

/-- A line without its end. -/
def stripEnd (line : Bytes) : Bytes :=
  match line.reverse with
  | 0x0A :: 0x0D :: rest => rest.reverse
  | 0x0A :: rest => rest.reverse
  | _ => line

/-- The content of a line with its end. -/
def read (line : Bytes) : Except Text.Utf8.Malformed Bytes :=
  (Text.Utf8.decode line).map fun _ => stripEnd line

end ReplyStage.Lines
