namespace DartModels

/-- A result together with what was noted on the way to it. A failure keeps the
    notes that were made before it. -/
structure Traced (ω ε α : Type) where
  trace : List ω
  outcome : Except ε α

namespace Traced

variable {ω ε α β : Type}

/-- Goes on with a result; the notes of the second step follow those of the
    first. -/
def andThen (first : Traced ω ε α) (next : α → Traced ω ε β) : Traced ω ε β :=
  match first.outcome with
  | .error failure => { trace := first.trace, outcome := .error failure }
  | .ok value =>
    let second := next value
    { trace := first.trace ++ second.trace, outcome := second.outcome }

instance : Monad (Traced ω ε) where
  pure value := { trace := [], outcome := .ok value }
  bind := andThen

/-- Makes a note. -/
def tell (note : ω) : Traced ω ε Unit :=
  { trace := [note], outcome := .ok () }

/-- A result that needs no notes. -/
def lift (outcome : Except ε α) : Traced ω ε α :=
  { trace := [], outcome }

/-- The same result with every note replaced. -/
def mapTrace {ω' : Type} (f : ω → ω') (traced : Traced ω ε α) : Traced ω' ε α :=
  { trace := traced.trace.map f, outcome := traced.outcome }

/-- The same notes with a failure replaced. -/
def mapError {ε' : Type} (f : ε → ε') (traced : Traced ω ε α) : Traced ω ε' α :=
  { trace := traced.trace, outcome := traced.outcome.mapError f }

end Traced
end DartModels
