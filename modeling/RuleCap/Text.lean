/-!
# Texts and bytes

A text is a list of characters and a file is a list of bytes, so that every rule of the library is a recursion on
a list. `String` appears only where messages are put together for a reader.
-/

namespace RuleCap

/-- A text, character by character. -/
abbrev Text := List Char

/-- The bytes of a file, of a path or of a word of the command line. -/
abbrev Bytes := List UInt8

/-- The pieces of a list between its marks, empty ones as well. -/
def pieces {α : Type} [DecidableEq α] (mark : α) : List α → List (List α)
  | [] => [[]]
  | a :: rest =>
    if a = mark then [] :: pieces mark rest
    else
      match pieces mark rest with
      | [] => [[a]]
      | piece :: more => (a :: piece) :: more

/-- The lines put one after the other, each closed by a newline. -/
def unlines (lines : List Text) : Text :=
  lines.flatMap fun line => line ++ ['\n']

end RuleCap
