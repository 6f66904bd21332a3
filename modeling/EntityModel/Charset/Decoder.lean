/-!
# Decoders

A decoder goes through bytes from a state. A step looks at the next byte and at what follows it; it gives
characters, says how many of the bytes that follow belong to them, and leaves a state. A step that cannot be
taken is the end of all of them.
-/

namespace EntityModel.Charset

/-- What a step of a decoder gives. -/
structure Step (σ : Type) where
  characters : List Char
  /-- How many bytes belong to the step besides the first one. -/
  more : Nat
  /-- The state behind it. -/
  state : σ

/-- How bytes are read, by steps. -/
structure Decoder (σ : Type) where
  /-- The state at the front. -/
  start : σ
  /-- The step at a byte, given what follows it. -/
  step? : σ → UInt8 → List UInt8 → Option (Step σ)

namespace Decoder

/-- The characters of bytes from a state; `acc` holds the ones before, in reverse. -/
def run {σ : Type} (d : Decoder σ) (state : σ) (acc : List Char) : List UInt8 → Option (List Char)
  | [] => some acc.reverse
  | b :: rest =>
      match d.step? state b rest with
      | none => none
      | some s => run d s.state (s.characters.reverse ++ acc) (rest.drop s.more)
termination_by bytes => bytes.length

def decode? {σ : Type} (d : Decoder σ) (bytes : List UInt8) : Option (List Char) := d.run d.start [] bytes

/-- A decoder without a memory, given by the characters at a byte and the number of bytes that follow. -/
def plain (piece? : UInt8 → List UInt8 → Option (List Char × Nat)) : Decoder Unit where
  start := ()
  step? _ b rest := (piece? b rest).map fun p => ⟨p.1, p.2, ()⟩

end Decoder

end EntityModel.Charset
