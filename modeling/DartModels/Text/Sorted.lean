namespace DartModels.Text

/-- Texts in the order of their code points. -/
def sorted (texts : List String) : List String :=
  texts.mergeSort fun first second => !decide (second < first)

end DartModels.Text
