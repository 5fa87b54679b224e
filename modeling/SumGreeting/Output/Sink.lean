import SumGreeting.Output.Fault
import SumGreeting.Text.Utf8

/-!
# Sinks

A sink takes bytes through write calls.  One call may take fewer bytes than it is given, may be
interrupted before it takes any, and fails once the sink is full.  A text is written in pieces, and
each piece by calls until all of its bytes are taken; an interrupted call is made again.

## Main definitions

* `Device` : how the calls of a sink behave.
* `Sink` : a device with what was written to it so far.
* `Sink.call` : one write call.
* `Sink.writeAll` : the calls that write a whole sequence of bytes.
* `Sink.writeEach` : the pieces of a text, one after the other.
* `Sink.flush` : one flush call.
* `Sink.deliver` : the pieces of a text, followed by a flush.
-/

namespace SumGreeting

/-- How the calls of a sink behave. -/
structure Device where
  /-- How many bytes the sink takes in all, where there is a limit. -/
  limit : Option Nat := none
  /-- At the limit a call takes no byte instead of failing. -/
  stalls : Bool := false
  /-- The most bytes that one call takes, where there is a bound; at least one is taken. -/
  chunk : Option Nat := none
  /-- Every other call is interrupted. -/
  interrupts : Bool := false
  /-- Each flush fails. -/
  flushFails : Bool := false
  /-- The fault of a call that fails; an interrupted call does not count as failed. -/
  fault : FatalFault
  deriving DecidableEq

/-- A device and what was written to it. -/
structure Sink where
  /-- How the calls behave. -/
  device : Device
  /-- The bytes taken so far. -/
  held : List UInt8 := []
  /-- The number of flush calls so far. -/
  flushes : Nat := 0
  /-- Whether the next call is the one of two that an interrupting device interrupts. -/
  interruptNext : Bool := false
  deriving DecidableEq

namespace Sink

/-- What one write call answers. -/
inductive Reply where
  /-- The call took this many of the first bytes. -/
  | took (count : Nat)
  /-- The call was interrupted and took nothing. -/
  | interrupted
  /-- The call failed and took nothing. -/
  | failed (fault : FatalFault)
  deriving DecidableEq

/-- How many of `count` bytes a call takes when it is not interrupted. -/
def capacity (sink : Sink) (count : Nat) : Nat :=
  let bounded := match sink.device.chunk with
    | none => count
    | some chunk => min count (max 1 chunk)
  match sink.device.limit with
  | none => bounded
  | some limit => min bounded (limit - sink.held.length)

/-- One write call with the given bytes. -/
def call (sink : Sink) (bytes : List UInt8) : Reply × Sink :=
  if sink.device.interrupts && sink.interruptNext then
    (.interrupted, { sink with interruptNext := false })
  else
    let count := sink.capacity bytes.length
    if count = 0 && !sink.device.stalls then
      (.failed sink.device.fault, { sink with interruptNext := true })
    else
      (.took count,
        { sink with held := sink.held ++ bytes.take count, interruptNext := true })

theorem interruptNext_of_call {sink after : Sink} {bytes : List UInt8}
    (h : sink.call bytes = (.interrupted, after)) :
    sink.interruptNext = true ∧ after.interruptNext = false := by
  unfold call at h
  split at h
  · rename_i hnext
    simp only [Prod.mk.injEq, true_and] at h
    subst h
    exact ⟨by simp_all, rfl⟩
  · dsimp only at h
    split at h <;> simp at h

/-- The calls that write the bytes: after an interruption the same bytes again, and otherwise what
the last call left.  A call that takes nothing ends the writing with a fault. -/
def writeAll (sink : Sink) (bytes : List UInt8) : Except IoFault Unit × Sink :=
  match bytes with
  | [] => (.ok (), sink)
  | byte :: rest =>
    match _h : sink.call (byte :: rest) with
    | (.interrupted, after) => writeAll after (byte :: rest)
    | (.failed fault, after) => (.error fault, after)
    | (.took 0, after) => (.error .nothingAccepted, after)
    | (.took (count + 1), after) => writeAll after (rest.drop count)
termination_by (bytes.length, sink.interruptNext.toNat)
decreasing_by
  · have ⟨hbefore, hafter⟩ := interruptNext_of_call _h
    rw [hbefore, hafter]
    exact Prod.Lex.right _ (by decide)
  · exact Prod.Lex.left _ _ (by simp only [List.length_drop, List.length_cons]; omega)

/-- Writes the pieces in order, up to the first one that cannot be written as a whole. -/
def writeEach (sink : Sink) : List (List UInt8) → Except IoFault Unit × Sink
  | [] => (.ok (), sink)
  | piece :: rest =>
    match sink.writeAll piece with
    | (.error fault, after) => (.error fault, after)
    | (.ok (), after) => after.writeEach rest

/-- One flush call. -/
def flush (sink : Sink) : Except IoFault Unit × Sink :=
  let after := { sink with flushes := sink.flushes + 1 }
  if sink.device.flushFails then (.error sink.device.fault, after) else (.ok (), after)

/-- Writes the pieces of a text and then flushes; the flush call is made only once all is
written. -/
def deliver (sink : Sink) (pieces : List String) : Except IoFault Unit × Sink :=
  match sink.writeEach (pieces.map Utf8.encode) with
  | (.error fault, after) => (.error fault, after)
  | (.ok (), after) => after.flush

end Sink

end SumGreeting
