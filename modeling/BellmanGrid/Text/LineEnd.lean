/-!
The end of a line after a text.
-/

namespace BellmanGrid.Text

/-- A text without the line feed that may stand at its end; one is dropped at most. -/
def withoutLineEnd (characters : List Char) : List Char :=
  if characters.getLast? = some '\n' then characters.dropLast else characters

end BellmanGrid.Text
