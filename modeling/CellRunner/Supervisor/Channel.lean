import CellRunner.Supervisor.Decoder

/-!
# One output stream on its way to the owner

Bytes go from the pipe to a queue of chunks, moved there by a drain, and from the queue
through a decoder to the owner. The drain tells the owner of each chunk, and of its own end,
by a notice that it gives right after. The owner holds on to the drain until it has ended,
or lets go of it while it still reads.
-/

set_option autoImplicit false

namespace CellRunner

/-- The output streams of a process. -/
inductive Stream where
  | stdout
  | stderr
  deriving DecidableEq, Repr

def Stream.name : Stream → String
  | .stdout => "stdout"
  | .stderr => "stderr"

end CellRunner

namespace CellRunner.Supervisor

/-- The greatest number of bytes in a chunk. -/
def chunkSize : Nat := 4096

inductive Drain where
  | reading
  /-- a chunk is queued and its notice not yet given -/
  | sent
  /-- the pipe has ended and the last notice is not yet given -/
  | ended
  | finished
  | stopped
  deriving DecidableEq, Repr

/-- What the owner has done with the drain. -/
inductive Hold where
  | held
  /-- seen to finish -/
  | reaped
  /-- let go while it was reading -/
  | abandoned
  deriving DecidableEq, Repr

structure Channel where
  /-- bytes written and not yet read -/
  pipe : List UInt8 := []
  /-- no writer is left -/
  closed : Bool := false
  /-- chunks for the owner, oldest first -/
  queue : List (List UInt8) := []
  drain : Drain := .reading
  hold : Hold := .held
  decoder : Decoder := {}
  deriving DecidableEq, Repr

namespace Channel

/-- The owner no longer holds the drain. -/
def isReleased (c : Channel) : Bool := c.hold != .held

/-- The drain goes back to reading, unless it was let go. -/
def resumed (c : Channel) : Drain := if c.hold = .abandoned then .stopped else .reading

def write (c : Channel) (bytes : List UInt8) : Channel :=
  if c.closed then c else { c with pipe := c.pipe ++ bytes }

def close (c : Channel) : Channel := { c with closed := true }

/-- The drain moves `n` bytes, or as many as there are, in one chunk. -/
def read (c : Channel) (n : Nat) : Channel :=
  let chunk := c.pipe.take (min n chunkSize)
  if c.drain = .reading && !chunk.isEmpty then
    { c with pipe := c.pipe.drop chunk.length, queue := c.queue ++ [chunk], drain := .sent }
  else c

/-- The drain meets the end of the stream. -/
def finishReading (c : Channel) : Channel :=
  if c.drain = .reading && c.pipe.isEmpty && c.closed then { c with drain := .ended } else c

/-- Whether a notice is due. -/
def owesNotice (c : Channel) : Bool := c.drain = .sent || c.drain = .ended

def giveNotice (c : Channel) : Channel :=
  match c.drain with
  | .sent => { c with drain := c.resumed }
  | .ended => { c with drain := .finished }
  | _ => c

/-- The owner sees that the drain has finished. -/
def reap (c : Channel) : Channel := { c with hold := .reaped }

def isReapable (c : Channel) : Bool := c.hold = .held && c.drain = .finished

/-- The owner lets go of a drain it still holds. -/
def abandon (c : Channel) : Channel :=
  if c.hold = .held then
    { c with hold := .abandoned, drain := if c.drain = .reading then .stopped else c.drain }
  else c

/-- The owner takes and decodes all chunks of this moment. -/
def look (c : Channel) : Except Utf8.Fault String × Channel :=
  let bytes := c.queue.flatten
  if bytes.isEmpty then (.ok "", { c with queue := [] })
  else
    let (r, d) := c.decoder.decode bytes
    (r, { c with queue := [], decoder := d })

/-- The check for an unfinished character at the end, left out for a drain that was let go. -/
def finish (c : Channel) : Except Utf8.Fault Unit × Channel :=
  if c.hold = .abandoned then (.ok (), c)
  else
    let (r, d) := c.decoder.finish
    (r, { c with decoder := d })

end Channel

end CellRunner.Supervisor
