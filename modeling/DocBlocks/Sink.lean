/-!
Writing to something that may accept a part at a time, may run full and may
fail when it is flushed. What is left over is offered again until all of it is
accepted or nothing more is.
-/
namespace DocBlocks

/-- A limit that is absent does not limit. -/
structure Sink where
  room : Option Nat
  chunk : Option Nat
  flushFails : Bool

inductive SinkFault
  | full
  | stalled
  | jammed
  deriving DecidableEq

def SinkFault.message : SinkFault → String
  | .full => "sink full"
  | .stalled => "failed to write whole buffer"
  | .jammed => "sink jammed"

/-- What was being done when a fault occurred. -/
inductive SinkError
  | writing (fault : SinkFault)
  | flushing (fault : SinkFault)
  deriving DecidableEq

namespace SinkError

def context : SinkError → String
  | .writing _ => "Failed to write output"
  | .flushing _ => "Failed to flush output"

def fault : SinkError → SinkFault
  | .writing fault | .flushing fault => fault

end SinkError

structure Delivery where
  kept : List UInt8
  error : Option SinkError
  deriving DecidableEq

namespace Sink

/-- The most bytes that are taken from an offer when some are kept already. -/
def allowance (sink : Sink) (kept : Nat) : Option Nat :=
  match sink.chunk, sink.room.map (· - kept) with
  | none, left => left
  | some chunk, none => some chunk
  | some chunk, some left => some (min chunk left)

/-- Why nothing was taken from an offer. -/
def refusal (sink : Sink) : SinkFault := if sink.chunk = some 0 then .stalled else .full

/-- Offers the bytes, and what is left of them, to a sink that keeps some already. -/
def offer (sink : Sink) (kept : Nat) (bytes : List UInt8) : List UInt8 × Option SinkFault :=
  if _ : bytes = [] then ([], none)
  else
    match sink.allowance kept with
    | none => (bytes, none)
    | some 0 => ([], some sink.refusal)
    | some (n + 1) =>
        let taken := bytes.take (n + 1)
        let (later, fault) := sink.offer (kept + taken.length) (bytes.drop (n + 1))
        (taken ++ later, fault)
termination_by bytes.length
decreasing_by
  have := List.length_pos_iff.mpr ‹¬bytes = []›
  simp only [List.length_drop]
  omega

/-- Flushes only what was accepted completely. -/
def write (sink : Sink) (text : String) : Delivery :=
  let (kept, fault) := sink.offer 0 text.toUTF8.data.toList
  ⟨kept,
    match fault with
    | some fault => some (.writing fault)
    | none => if sink.flushFails then some (.flushing .jammed) else none⟩

end Sink
end DocBlocks
