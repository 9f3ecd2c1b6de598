import CellRunner.Fault.Basic

/-!
# Decoding for a stream

A fault that is met in decoding names the stream that was decoded.
-/

set_option autoImplicit false

namespace CellRunner

structure StreamDecoder where
  stream : Stream
  decoder : Decoder := {}
  deriving DecidableEq, Repr

namespace StreamDecoder

def decode (d : StreamDecoder) (bytes : List UInt8) : Except Fault String × StreamDecoder :=
  let (r, decoder) := d.decoder.decode bytes
  (r.mapError (.decode d.stream), { d with decoder })

def finish (d : StreamDecoder) : Except Fault Unit × StreamDecoder :=
  let (r, decoder) := d.decoder.finish
  (r.mapError (.decode d.stream), { d with decoder })

end StreamDecoder

end CellRunner
