import CellRunner.Text.Utf8

/-!
# Strict decoding of a stream cut into pieces

A decoder holds back the bytes of an unfinished character until the rest of it arrives. An
ill-formed sequence is a fault at once; an unfinished character is one when the stream ends.
After a fault, and after the end of the stream, the decoder holds nothing.
-/

set_option autoImplicit false

namespace CellRunner

structure Decoder where
  held : List UInt8 := []
  deriving DecidableEq, Repr

namespace Decoder

/-- The complete characters of the held bytes and `bytes`. -/
def decode (d : Decoder) (bytes : List UInt8) : Except Utf8.Fault String × Decoder :=
  let s := Utf8.scan (d.held ++ bytes)
  match s.ending with
  | .complete => (.ok (String.ofList s.text), ⟨[]⟩)
  | .incomplete rest => (.ok (String.ofList s.text), ⟨rest⟩)
  | .invalid n => (.error ⟨s.validUpTo, some n⟩, ⟨[]⟩)

/-- The end of the stream. -/
def finish (d : Decoder) : Except Utf8.Fault Unit × Decoder :=
  match Utf8.text d.held with
  | .ok _ => (.ok (), ⟨[]⟩)
  | .error f => (.error f, ⟨[]⟩)

end Decoder

end CellRunner
