namespace DartModels.Text

/-- Texts in a row, with a separator between each two. -/
def joined (separator : String) : List String → String
  | [] => ""
  | [s] => s
  | s :: rest => s ++ separator ++ joined separator rest

/-- Texts in a row, with a line feed between each two. -/
def lines (texts : List String) : String :=
  joined "\n" texts

end DartModels.Text
