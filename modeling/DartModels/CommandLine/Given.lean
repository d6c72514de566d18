import DartModels.CommandLine.Usage
import DartModels.Text.Similar

namespace DartModels.CommandLine

/-- Switches with their values, in the order in which they are given. A switch that
    takes none has the empty value. -/
abbrev Settings := List (Switch × String)

/-- What some words give: switches, and the words that are no part of one. -/
structure Given where
  settings : Settings := []
  operands : List String := []

/-- What a single word is. -/
inductive Reading where
  | operand
  /-- The settings that the word makes. -/
  | complete (settings : Settings)
  /-- The settings that the word makes, and a last switch whose value is the word
      after it. -/
  | awaiting (settings : Settings) (switch : Switch) (spelling : String)

/-- Reads the letters behind a single dash. What follows the letter of a switch
    that takes a value is the value. -/
def readLetters (known : List Switch) : List Char → Except UsageFault Reading
  | [] => .ok (.complete [])
  | letter :: rest =>
    let spelling := String.ofList ['-', letter]
    match known.find? fun switch => switch.letter? == some letter with
    | none => .error (.switchUnknown spelling [])
    | some switch =>
      if switch.takesValue then
        if rest.isEmpty then .ok (.awaiting [] switch spelling)
        else .ok (.complete [(switch, String.ofList rest)])
      else
        match readLetters known rest with
        | .ok (.awaiting settings last spelling) =>
          .ok (.awaiting ((switch, "") :: settings) last spelling)
        | .ok (.complete settings) => .ok (.complete ((switch, "") :: settings))
        | other => other

/-- Reads the word of a switch with the value, if any, that an equals sign
    separates from it. -/
def readLong (switch : Switch) (spelling : String) :
    (value : List Char) → Except UsageFault Reading
  | '=' :: value =>
    if switch.takesValue then .ok (.complete [(switch, String.ofList value)])
    else .error (.valueNotTaken spelling)
  | _ =>
    if switch.takesValue then .ok (.awaiting [] switch spelling)
    else .ok (.complete [(switch, "")])

/-- Reads one word. A dash makes a switch of it unless it stands alone. -/
def readWord (known : List Switch) (word : String) : Except UsageFault Reading :=
  match word.toList with
  | '-' :: second :: rest =>
    let characters := '-' :: second :: rest
    let spelling := String.ofList (characters.takeWhile (· != '='))
    match known.find? fun switch => switch.long == spelling with
    | some switch => readLong switch spelling (characters.dropWhile (· != '='))
    | none =>
      if second = '-' then
        .error (.switchUnknown spelling (Text.similarTo spelling (known.map Switch.long)))
      else readLetters known (second :: rest)
  | _ => .ok .operand

/-- Reads the words in order. Two dashes make operands of all words behind them; so
    does the first operand, unless switches may stand between operands. -/
def readWords (known : List Switch) (isMixed : Bool) : List String → Except UsageFault Given
  | [] => .ok {}
  | word :: rest =>
    if word = "--" then .ok { operands := rest }
    else
      match readWord known word with
      | .error fault => .error fault
      | .ok .operand =>
        if isMixed then
          (readWords known isMixed rest).map fun given =>
            { given with operands := word :: given.operands }
        else .ok { operands := word :: rest }
      | .ok (.complete settings) =>
        (readWords known isMixed rest).map fun given =>
          { given with settings := settings ++ given.settings }
      | .ok (.awaiting settings switch spelling) =>
        match rest with
        | [] => .error (.valueMissing spelling)
        | value :: rest =>
          (readWords known isMixed rest).map fun given =>
            { given with settings := settings ++ (switch, value) :: given.settings }

namespace Given

/-- Whether a switch is given. -/
def has (given : Given) (switch : Switch) : Bool :=
  given.settings.any fun setting => setting.1 == switch

/-- All values of a switch. -/
def values (given : Given) (switch : Switch) : List String :=
  (given.settings.filter fun setting => setting.1 == switch).map Prod.snd

/-- The value of a switch that counts if it is given more than once. -/
def last? (given : Given) (switch : Switch) : Option String :=
  (given.values switch).getLast?

end Given
end DartModels.CommandLine
