import RevealGates.Sink

/-!
Text outputs: where finished pieces of text are written.

An output takes pieces one after the other. The buffer takes everything; a limited output counts
bytes and takes exactly as many as it has room for, even if that splits a piece.
-/

set_option autoImplicit false

namespace RevealGates

/-- A destination for text, with states `State` and failures `Fault`. -/
structure Output (State Fault : Type) where
  write : State → String → Except Fault Unit × State

namespace Output

variable {State Fault : Type}

/-- Writes pieces in turn and stops at the first failure. -/
def writeAll (output : Output State Fault) : State → List String → Except Fault Unit × State
  | state, [] => (.ok (), state)
  | state, piece :: rest =>
      match output.write state piece with
      | (.ok (), next) => output.writeAll next rest
      | (.error fault, next) => (.error fault, next)

def buffer : Output String Empty where
  write written piece := (.ok (), written ++ piece)

/-- Failure of a write that does not fit. -/
inductive Full where
  | full
  deriving DecidableEq, Repr

/-- Takes as many bytes as `capacity` allows over all writes together, and fails a write of which
something is left over. Without a capacity it takes everything. The state holds the bytes taken. -/
def limited (capacity : Option Nat) : Output (List UInt8) Full where
  write written piece :=
    let bytes := piece.toUTF8.toList
    match capacity with
    | none => (.ok (), written ++ bytes)
    | some limit =>
        let room := limit - written.length
        if bytes.length ≤ room then (.ok (), written ++ bytes)
        else (.error .full, written ++ bytes.take room)

/-- The sink that writes each line as the pieces which a layout makes of it. -/
def toSink (output : Output State Fault) (layout : String → List String) : Sink State Fault where
  emit state line := output.writeAll state (layout line)

end Output

end RevealGates
