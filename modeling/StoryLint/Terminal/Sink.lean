import StoryLint.Terminal.Device

/-!
# Output streams

A sink is an output stream as a value: what has been stored so far, how often it was flushed, and
the ways in which it can fail. A sink of limited capacity stores the part of a text that fits and
then fails; it stays full. Writing nothing never fails.

`Sink.device` is the device that a sink is, and the operations on devices are those on sinks.
-/

namespace StoryLint

/-- An output stream. `terminal` is absent if the stream cannot tell whether it is one, and
`onFull` is the fault of a write beyond the capacity. -/
structure Sink where
  terminal : Option Bool := none
  capacity : Option Nat := none
  onFull : StreamFault := .noSpace
  failsFlush : Bool := false
  output : String := ""
  flushes : Nat := 0
deriving DecidableEq, Repr

namespace Sink

/-- An action on a sink. -/
abbrev Action := Device.Action Sink

/-- Store a text at the end of the output. -/
def store (sink : Sink) (text : String) : Sink :=
  { sink with output := sink.output ++ text }

/-- Write a text. -/
def write (text : String) : Action := fun sink =>
  match sink.capacity with
  | none => (none, sink.store text)
  | some capacity =>
      let room := capacity - sink.output.length
      if text.length ≤ room then (none, sink.store text)
      else (some sink.onFull, sink.store (String.ofList (text.toList.take room)))

/-- Flush the stream. -/
def flush : Action := fun sink =>
  (if sink.failsFlush then some .inputOutput else none, { sink with flushes := sink.flushes + 1 })

/-- Sinks as the states of a device. -/
def device : Device Sink where
  terminal := terminal
  write := write
  flush := flush

/-- As a device, a sink tells whether it is a terminal. -/
@[simp] theorem device_terminal : device.terminal = terminal := rfl

/-- As a device, a sink takes what is written to the sink. -/
@[simp] theorem device_write : device.write = write := rfl

/-- As a device, a sink is flushed as the sink is. -/
@[simp] theorem device_flush : device.flush = flush := rfl

/-- Write texts one after the other, up to the first fault. -/
abbrev writeAll (texts : List String) : Action :=
  device.writeAll texts

/-- Put the colour back where colour is on. -/
abbrev reset (colored : Bool) : Action :=
  device.reset colored

/-- Run an action and close the sink behind it. -/
abbrev guarded {ε : Type} (colored : Bool) (ofFault : StreamFault → ε)
    (action : Sink → Option ε × Sink) : Sink → Option ε × Sink :=
  device.guarded colored ofFault action

end Sink

end StoryLint
