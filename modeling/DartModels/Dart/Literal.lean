namespace DartModels.Dart

/-- The spelling of a character inside a single-quoted literal. -/
def escape (c : Char) : List Char :=
  if c = '\\' ∨ c = '\'' ∨ c = '$' then ['\\', c]
  else if c = '\n' then ['\\', 'n']
  else [c]

/-- A single-quoted literal of a text. A dollar sign is escaped, so that nothing
    in it is evaluated. -/
def literal (value : String) : String :=
  String.ofList ('\'' :: (value.toList.flatMap escape ++ ['\'']))

end DartModels.Dart
