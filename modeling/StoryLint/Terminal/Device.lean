import StoryLint.Terminal.Style

/-!
# Output devices

A device is what a report goes to, seen from the report: it takes texts, it can be flushed, and
either may fail. What a device stores and when it fails is its own affair, and is kept in a state
of any type.

`Device.guarded` runs an action and closes the device behind it on every way out: the colour is
reset where colour is on, the device is flushed whatever the reset did, and a failure of closing
takes the place of what went before.
-/

namespace StoryLint

/-- Why an output stream failed. -/
inductive StreamFault where
  | noSpace
  | inputOutput
  | interrupted
deriving DecidableEq, Repr

/-- The error text; an interrupt has none. -/
def StreamFault.message : StreamFault → String
  | .noSpace => "[Errno 28] No space left on device"
  | .inputOutput => "[Errno 5] Input/output error"
  | .interrupted => ""

/-- What an output device does in a state. `terminal` is absent if the device cannot tell whether
it is one; a write and a flush give the fault with which they failed, if any. -/
structure Device (σ : Type) where
  terminal : σ → Option Bool
  write : String → σ → Option StreamFault × σ
  flush : σ → Option StreamFault × σ

namespace Device

variable {σ ε : Type}

/-- An action on a device: the fault that stopped it, if any, and the state afterwards. -/
abbrev Action (σ : Type) := σ → Option StreamFault × σ

/-- Write texts one after the other, up to the first fault. -/
def writeAll (device : Device σ) : List String → Action σ
  | [] => fun s => (none, s)
  | text :: rest => fun s =>
      match device.write text s with
      | (none, s) => device.writeAll rest s
      | (some fault, s) => (some fault, s)

/-- Put the colour back where colour is on. -/
def reset (device : Device σ) (colored : Bool) : Action σ :=
  device.writeAll (if colored then [resetSequence] else [])

/-- Reset and flush. The flush comes whatever the reset did, and the last fault counts. -/
def close (device : Device σ) (colored : Bool) : Action σ := fun s =>
  let (resetFault, s) := device.reset colored s
  let (flushFault, s) := device.flush s
  (flushFault <|> resetFault, s)

/-- Run an action and close the device behind it. A fault of closing takes the place of the
action's own error. -/
def guarded (device : Device σ) (colored : Bool) (ofFault : StreamFault → ε)
    (action : σ → Option ε × σ) : σ → Option ε × σ := fun s =>
  let (error, s) := action s
  let (fault, s) := device.close colored s
  (fault.map ofFault <|> error, s)

end Device

end StoryLint
