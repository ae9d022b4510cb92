import StoryLint.Terminal.Device
import Mathlib.Data.List.Basic

/-!
# What a device is asked for

A device may fail at any call and in any way, so nothing can be said of what it stores. What can
be said is which calls are made of it. `Device.logged` is the device that keeps account of its
calls, each with the fault that came of it.

`Accounted` says which calls an action makes, and that keeping account changes nothing else. It
carries over from actions to what is built of them, up to `accounted_guarded`: a report in a guard
asks for its texts up to the first fault, for the reset where colour is on, and for one flush.
-/

namespace StoryLint.Device

/-- What a device can be asked for. -/
inductive Request where
  | write (text : String)
  | flush
deriving DecidableEq

/-- A request with the fault that came of it, if any. -/
structure Call where
  request : Request
  fault? : Option StreamFault
deriving DecidableEq

/-- The fault of the last call that failed. -/
def lastFault? (calls : List Call) : Option StreamFault :=
  (calls.filterMap Call.fault?).getLast?

/-- The device that keeps account of its calls, the latest one last. -/
def logged {σ : Type} (device : Device σ) : Device (σ × List Call) where
  terminal s := device.terminal s.1
  write text s :=
    let (fault, after) := device.write text s.1
    (fault, after, s.2 ++ [⟨.write text, fault⟩])
  flush s :=
    let (fault, after) := device.flush s.1
    (fault, after, s.2 ++ [⟨.flush, fault⟩])

/-- The calls that write texts: one for each text, in order, up to the first fault. -/
inductive Writes : List String → List Call → Prop
  | done : Writes [] []
  | failed {text rest fault} : Writes (text :: rest) [⟨.write text, some fault⟩]
  | written {text rest calls} :
      Writes rest calls → Writes (text :: rest) (⟨.write text, none⟩ :: calls)

/-- The requests that put the colour back. -/
def closing (colored : Bool) : List Request :=
  if colored then [.write resetSequence] else []

/-- The calls of a report in a guard: those that write its texts, the reset where colour is on, and
one flush. -/
inductive Guarded (texts : List String) (colored : Bool) : List Call → Prop
  | intro {report resets fault?} :
      Writes texts report → resets.map Call.request = closing colored →
      Guarded texts colored (report ++ (resets ++ [⟨.flush, fault?⟩]))

/-- Do one action after another, whatever came of the first; the last fault counts. -/
def both {σ : Type} (first second : Action σ) : Action σ := fun s =>
  let (firstFault, s) := first s
  let (secondFault, s) := second s
  (secondFault <|> firstFault, s)

/-- An action makes these calls in a state. On the device that keeps account it does what it does
on the device itself, and its fault is that of the last call that failed. -/
structure Accounted {σ : Type} (action : Action σ) (action' : Action (σ × List Call)) (s : σ)
    (calls : List Call) : Prop where
  logged_eq : ∀ log, action' (s, log) = ((action s).1, (action s).2, log ++ calls)
  fault_eq : (action s).1 = lastFault? calls

variable {σ : Type} {device : Device σ} {s : σ} {text : String} {texts : List String}
  {calls calls' : List Call} {first second : Action σ} {first' second' : Action (σ × List Call)}

/-! ## Faults of calls -/

/-- No calls, no fault. -/
@[simp] theorem lastFault?_nil : lastFault? [] = none := rfl

/-- The last fault is from the later calls if they have one. -/
@[simp] theorem lastFault?_append :
    lastFault? (calls ++ calls') = (lastFault? calls' <|> lastFault? calls) := by
  simp [lastFault?, List.getLast?_append]

/-- The first call counts only if no other one has a fault. -/
@[simp] theorem lastFault?_cons (call : Call) :
    lastFault? (call :: calls) = (lastFault? calls <|> call.fault?) := by
  have hsingle : lastFault? [call] = call.fault? := by
    cases h : call.fault? <;> simp [lastFault?, h]
  rw [← List.singleton_append, lastFault?_append, hsingle]

/-- There is no last fault exactly if no call has one. -/
theorem lastFault?_eq_none_iff :
    lastFault? calls = none ↔ ∀ call ∈ calls, call.fault? = none := by
  simp [lastFault?]

/-- Texts whose calls all succeed are all written. -/
theorem Writes.requests_eq (h : Writes texts calls) (hnone : ∀ call ∈ calls, call.fault? = none) :
    calls.map Call.request = texts.map .write := by
  induction h with
  | done => rfl
  | failed => simp at hnone
  | written hrest ih => simp_all

/-- Among writes there is no flush. -/
theorem Writes.flush_notMem (h : Writes texts calls) : .flush ∉ calls.map Call.request := by
  induction h with
  | done => simp
  | failed => simp
  | written hrest ih => simpa using ih

/-- Neither the texts nor the reset ask for a flush. -/
theorem Guarded.count_flush {colored : Bool} (h : Guarded texts colored calls) :
    (calls.map Call.request).count .flush = 1 := by
  obtain ⟨hwrites, hresets⟩ := h
  have hclosing : .flush ∉ closing colored := by
    cases colored <;> simp [closing]
  simp [List.count_eq_zero.2 hwrites.flush_notMem, hresets, List.count_eq_zero.2 hclosing]

/-- A report in a guard in which every call succeeds is complete. -/
theorem Guarded.requests_eq {colored : Bool} (h : Guarded texts colored calls)
    (hnone : ∀ call ∈ calls, call.fault? = none) :
    calls.map Call.request = texts.map .write ++ (closing colored ++ [.flush]) := by
  obtain ⟨hwrites, hresets⟩ := h
  have hreport := hwrites.requests_eq fun call hcall => hnone call (List.mem_append_left _ hcall)
  simp only [List.map_append, hreport, hresets, List.map_cons, List.map_nil]

/-! ## Calls of actions -/

/-- A write is accounted for by one call. -/
theorem accounted_write (device : Device σ) (text : String) (s : σ) :
    Accounted (device.write text) (device.logged.write text) s
      [⟨.write text, (device.write text s).1⟩] where
  logged_eq _ := rfl
  fault_eq := by simp

/-- A flush is accounted for by one call. -/
theorem accounted_flush (device : Device σ) (s : σ) :
    Accounted device.flush device.logged.flush s [⟨.flush, (device.flush s).1⟩] where
  logged_eq _ := rfl
  fault_eq := by simp

/-- The calls of two actions are those of the first and then those of the second. -/
theorem Accounted.both (hfirst : Accounted first first' s calls)
    (hsecond : Accounted second second' (first s).2 calls') :
    Accounted (both first second) (Device.both first' second') s (calls ++ calls') where
  logged_eq log := by
    simp [Device.both, hfirst.logged_eq, hsecond.logged_eq]
  fault_eq := by
    simp [Device.both, hfirst.fault_eq, hsecond.fault_eq]

/-- Texts that are written one after the other are accounted for by the writes that were made. -/
theorem accounted_writeAll (device : Device σ) (texts : List String) (s : σ) :
    ∃ calls, Accounted (device.writeAll texts) (device.logged.writeAll texts) s calls ∧
      Writes texts calls := by
  induction texts generalizing s with
  | nil => exact ⟨[], ⟨fun log => by simp [writeAll], rfl⟩, .done⟩
  | cons text rest ih =>
      have hwrite := accounted_write device text s
      cases h : device.write text s with
      | mk fault after =>
          cases fault with
          | some fault =>
              refine ⟨[⟨.write text, some fault⟩], ⟨fun log => ?_, ?_⟩, .failed⟩
              · simp [writeAll, hwrite.logged_eq, h]
              · simp [writeAll, h]
          | none =>
              obtain ⟨calls, hrest, hwrites⟩ := ih after
              refine ⟨⟨.write text, none⟩ :: calls, ⟨fun log => ?_, ?_⟩, .written hwrites⟩
              · simp [writeAll, hwrite.logged_eq, h, hrest.logged_eq]
              · simp [writeAll, h, hrest.fault_eq]

/-- The reset is asked for wherever colour is on. -/
theorem accounted_reset (device : Device σ) (colored : Bool) (s : σ) :
    ∃ calls, Accounted (device.reset colored) (device.logged.reset colored) s calls ∧
      calls.map Call.request = closing colored := by
  obtain ⟨calls, haccount, hwrites⟩ :=
    accounted_writeAll device (if colored then [resetSequence] else []) s
  refine ⟨calls, haccount, ?_⟩
  cases colored with
  | false =>
      cases hwrites
      rfl
  | true =>
      cases hwrites with
      | failed => rfl
      | written hrest =>
          cases hrest
          rfl

/-- Closing a device is a reset and a flush, and a guard is its action and the closing: the fault
of the last one that failed counts. -/
theorem guarded_eq_both (device : Device σ) (colored : Bool) (action : Action σ) :
    device.guarded colored id action =
      both action (both (device.reset colored) device.flush) := by
  funext s
  simp [guarded, close, both]

/-- What a report in a guard asks for. -/
theorem accounted_guarded (device : Device σ) (colored : Bool) (texts : List String) (s : σ) :
    ∃ calls, Accounted (device.guarded colored id (device.writeAll texts))
        (device.logged.guarded colored id (device.logged.writeAll texts)) s calls ∧
      Guarded texts colored calls := by
  obtain ⟨report, hreport, hwrites⟩ := accounted_writeAll device texts s
  obtain ⟨resets, hresets, hclosing⟩ :=
    accounted_reset device colored (device.writeAll texts s).2
  have hflush := accounted_flush device
    (device.reset colored (device.writeAll texts s).2).2
  rw [guarded_eq_both, guarded_eq_both]
  exact ⟨_, hreport.both (hresets.both hflush), .intro hwrites hclosing⟩

end StoryLint.Device
