import DartModels.Json.Key

namespace DartModels

/-- A value that names an entry of a table: the key that tells entries apart,
    and the spelling under which the entry was first made. -/
structure Label where
  key : Json.Key
  spelling : Json

/-- The label that a value makes; arrays and objects make none. -/
def Label.of? (spelling : Json) : Option Label :=
  spelling.key?.map fun key => { key, spelling }

/-- Entries under labels, in the order in which their keys first came. -/
structure Table (α : Type) where
  entries : List (Label × α) := []

namespace Table

variable {α : Type}

/-- The value under a key. -/
def find? (table : Table α) (key : Json.Key) : Option α :=
  (table.entries.find? fun entry => entry.1.key == key).map Prod.snd

/-- Whether there is an entry under a key. -/
def contains (table : Table α) (key : Json.Key) : Bool :=
  table.entries.any fun entry => entry.1.key == key

/-- Replaces the value under the label's key in a list of entries, or adds an
    entry at the end. -/
def put (label : Label) (value : α) : List (Label × α) → List (Label × α)
  | [] => [(label, value)]
  | entry :: rest =>
    if entry.1.key = label.key then (entry.1, value) :: rest
    else entry :: put label value rest

/-- Sets the value under a label. An entry that is there already keeps its place
    and its spelling. -/
def insert (table : Table α) (label : Label) (value : α) : Table α :=
  ⟨put label value table.entries⟩

/-- The entries that a sequence of insertions leaves. -/
def ofList (assignments : List (Label × α)) : Table α :=
  assignments.foldl (fun table (label, value) => table.insert label value) ⟨[]⟩

/-- The labels, in order. -/
def labels (table : Table α) : List Label :=
  table.entries.map Prod.fst

/-- The values, in order. -/
def values (table : Table α) : List α :=
  table.entries.map Prod.snd

/-- The number of entries. -/
def size (table : Table α) : Nat :=
  table.entries.length

end Table
end DartModels
