import BrokerWire.Bytes

/-!
# Streams and their deliveries

A connection delivers its bytes in chunks of any size, and between them reads may be interrupted,
return nothing, or fail. Filling a buffer takes bytes chunk after chunk until it is full: an
interrupted read is repeated, a read that returns nothing ends the attempt, and a failed one loses
what the buffer held. When the deliveries run out before the buffer is full, the attempt waits
with what it has, and can be taken up again once there is more.
-/
namespace BrokerWire

/-- What one or several reads of a connection give. -/
inductive Delivery where
  /-- Bytes, given out by as many reads as it takes. -/
  | chunk (bytes : Bytes)
  /-- One read that returns nothing. -/
  | nothing
  /-- One read that is interrupted. -/
  | interruption
  /-- One read that fails. -/
  | failure (reason : String)
  deriving DecidableEq, Repr

/-- The bytes of a delivery. -/
def Delivery.bytes : Delivery → Bytes
  | chunk bytes => bytes
  | _ => []

/-- The deliveries not read yet, and how many bytes have been taken before them. -/
structure Stream where
  /-- What further reads give. -/
  deliveries : List Delivery
  /-- Bytes taken so far. -/
  consumed : Nat
  deriving DecidableEq, Repr

/-- How an attempt to fill a buffer ended. -/
inductive Fill where
  /-- The buffer is full. -/
  | full (bytes : Bytes)
  /-- A read returned nothing. -/
  | ended (received : Bytes)
  /-- A read failed. -/
  | failed (reason : String)
  /-- The deliveries ran out. -/
  | waiting (received : Bytes)
  deriving DecidableEq, Repr

namespace Stream

/-- A stream of which nothing has been read. -/
def ofDeliveries (deliveries : List Delivery) : Stream := ⟨deliveries, 0⟩

/-- A stream that delivers more, behind everything else. -/
def feed (stream : Stream) (delivery : Delivery) : Stream :=
  { stream with deliveries := stream.deliveries ++ [delivery] }

/-- The bytes not taken yet. -/
def remaining (stream : Stream) : Bytes := stream.deliveries.flatMap Delivery.bytes

/-- Take up to that many missing bytes behind those received. -/
def fillFrom (missing : Nat) (received : Bytes) (consumed : Nat) : List Delivery → Fill × Stream
  | [] =>
    if missing = 0 then (.full received, ⟨[], consumed⟩) else (.waiting received, ⟨[], consumed⟩)
  | delivery :: deliveries =>
    if missing = 0 then (.full received, ⟨delivery :: deliveries, consumed⟩)
    else match delivery with
      | .chunk bytes =>
        match Bytes.split? missing bytes with
        | some (taken, left) =>
          (.full (received ++ taken), ⟨.chunk left :: deliveries, consumed + missing⟩)
        | none =>
          fillFrom (missing - bytes.length) (received ++ bytes) (consumed + bytes.length) deliveries
      | .nothing => (.ended received, ⟨deliveries, consumed⟩)
      | .interruption => fillFrom missing received consumed deliveries
      | .failure reason => (.failed reason, ⟨deliveries, consumed⟩)

/-- Fill a buffer of a given size that holds some bytes already. -/
def fill (stream : Stream) (size : Nat) (received : Bytes) : Fill × Stream :=
  fillFrom (size - received.length) received stream.consumed stream.deliveries

end Stream

end BrokerWire
