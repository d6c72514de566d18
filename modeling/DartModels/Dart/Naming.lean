namespace DartModels.Dart

/-- The words that are no names in Dart. -/
def reservedWords : List String :=
  ["assert", "break", "case", "catch", "class", "const", "continue", "default",
    "do", "else", "enum", "extends", "false", "final", "finally", "for", "if",
    "in", "is", "new", "null", "rethrow", "return", "super", "switch", "this",
    "throw", "true", "try", "var", "void", "while", "with"]

/-- The letters and digits of a name. One that starts a word, which is whatever
    follows another character or stands first, is made a capital. -/
def capitalizeWords : (startsWord : Bool) → List Char → List Char
  | _, [] => []
  | startsWord, c :: rest =>
    if c.isAlphanum then
      (if startsWord then c.toUpper else c) :: capitalizeWords false rest
    else capitalizeWords true rest

/-- A leading digit is no start of a name and gets a letter in front. -/
def guardDigit : List Char → List Char
  | [] => []
  | c :: rest => if c.isDigit then 'T' :: c :: rest else c :: rest

/-- The class name of a database name: its words in a row, each with a capital. -/
def className (name : String) : String :=
  String.ofList (guardDigit (capitalizeWords true name.toList))

/-- The name with a small first letter. -/
def uncapitalize : List Char → List Char
  | [] => []
  | c :: rest => c.toLower :: rest

/-- The property name of a database name: its class name with a small first
    letter, and an underscore behind a word that is no name. -/
def propertyName (name : String) : String :=
  let property := String.ofList (uncapitalize (className name).toList)
  if reservedWords.contains property then property ++ "_" else property

end DartModels.Dart
