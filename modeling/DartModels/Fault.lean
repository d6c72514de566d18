namespace DartModels

/-- How a value of the wrong kind stops a run. Snapshots are read without checking
    the kinds of their leaves, so a run stops only where it needs the right one. -/
inductive Fault where
  /-- A type name or a column format that is asked for the array mark is no text. -/
  | markOfNonText
  /-- An enum comment that is to be read is no text. -/
  | commentNotText
  /-- An entry of an attribute list has no members to look up. -/
  | attributeNotObject
  /-- An entry of an attribute list is asked for members that it cannot have. -/
  | attributeNotIndexed
  /-- A value that has no items is to be gone through. -/
  | notIterable
  /-- An array or an object is to name an entry of a table. -/
  | notKey
  /-- Two column names are of kinds that have no common order. -/
  | namesNotOrdered
  /-- A name that is to be written as an identifier is no text. -/
  | nameNotText
  /-- A check constraint that is to be read is no text. -/
  | checkNotText
  /-- A type that is no class is to be declared. -/
  | noDeclaration (kind : String)
  /-- A path holds a character that no path can hold. -/
  | notPath
  /-- The bytes of a file are not the encoding of a text. -/
  | notUtf8
  /-- A text that is to be read holds a whole number of more digits than numbers are made of. -/
  | tooManyDigits
  /-- A text that is to be written holds half of a character. -/
  | notEncodable
deriving DecidableEq, Repr

/-- What is said about a run that a value of the wrong kind stops. -/
def Fault.message : Fault → String
  | .markOfNonText => "the name of a type or the format of a column is not a text"
  | .commentNotText => "the comment of an enum is not a text"
  | .attributeNotObject | .attributeNotIndexed => "an attribute is not an object"
  | .notIterable => "a value that should be a list has no items"
  | .notKey => "an array or an object cannot name anything"
  | .namesNotOrdered => "the names of columns cannot be put in order"
  | .nameNotText => "a name is not a text"
  | .checkNotText => "a check constraint is not a text"
  | .noDeclaration kind => kind ++ " has no declaration"
  | .notPath => "a path cannot hold a character of code zero"
  | .notUtf8 => "the file is not encoded as UTF-8"
  | .tooManyDigits => "a whole number has too many digits"
  | .notEncodable => "a text holds half of a character and cannot be encoded"

end DartModels
