import StoryLint.Terminal.Sink

/-!
# What a sink stores

A text fits a sink if there is room for all of it. Whether a text fits is all that decides about a
write: `writeAll_eq_write` says that texts written one after the other are as good as one text,
and `guarded_writeAll` that a guarded report is one write, the reset included, with a flush
behind it.

A sink that took every write differs from what it was by the text at its end and the number of
flushes, which is what `advance` says.
-/

namespace StoryLint.Sink

variable {sink : Sink} {first second text : String} {texts : List String} {flushes : Nat}

/-- Everything of the text can still be stored. -/
def Fits (sink : Sink) (text : String) : Prop :=
  ∀ capacity ∈ sink.capacity, text.length ≤ capacity - sink.output.length

/-- The sink after a text was stored and the stream was flushed a number of times. -/
def advance (sink : Sink) (text : String) (flushes : Nat) : Sink :=
  { sink with output := sink.output ++ text, flushes := sink.flushes + flushes }

/-- The text is behind what the sink held. -/
@[simp] theorem advance_output : (sink.advance text flushes).output = sink.output ++ text := rfl

/-- The room of a sink is not changed by a text. -/
@[simp] theorem advance_capacity : (sink.advance text flushes).capacity = sink.capacity := rfl

/-- Whether a flush fails is not changed by a text. -/
@[simp] theorem advance_failsFlush :
    (sink.advance text flushes).failsFlush = sink.failsFlush := rfl

/-- The fault of a full sink is not changed by a text. -/
@[simp] theorem advance_onFull : (sink.advance text flushes).onFull = sink.onFull := rfl

/-- Whether a sink is a terminal is not changed by a text. -/
@[simp] theorem advance_terminal : (sink.advance text flushes).terminal = sink.terminal := rfl

/-- Two texts, one behind the other, are one text. -/
@[simp] theorem advance_advance {flushes' : Nat} :
    (sink.advance first flushes).advance second flushes' =
      sink.advance (first ++ second) (flushes + flushes') := by
  simp [advance, String.append_assoc, Nat.add_assoc]

/-- No text and no flush change nothing. -/
@[simp] theorem advance_empty : sink.advance "" 0 = sink := by
  simp [advance]

/-! ## Room -/

/-- A sink without a capacity has room for every text. -/
theorem fits_of_unlimited (h : sink.capacity = none) : sink.Fits text := by
  simp [Fits, h]

/-- An empty text always fits. -/
@[simp] theorem fits_empty : sink.Fits "" := by
  simp [Fits]

/-- Two texts fit if the second still fits behind the first. -/
theorem fits_append (flushes : Nat) :
    sink.Fits (first ++ second) ↔ sink.Fits first ∧ (sink.advance first flushes).Fits second := by
  cases h : sink.capacity with
  | none => simp [Fits, h]
  | some capacity =>
      simp only [Fits, advance_capacity, advance_output, h, Option.mem_some_iff, forall_eq',
        String.length_append]
      omega

/-! ## Writing -/

/-- A sink without a bound takes every text. -/
theorem write_of_unlimited (h : sink.capacity = none) :
    write text sink = (none, sink.advance text 0) := by
  simp [write, h, store, advance]

/-- A sink of limited capacity stores as much of a text as there is room for. -/
theorem write_of_capacity {capacity : Nat} (h : sink.capacity = some capacity) :
    write text sink =
      (if text.length ≤ capacity - sink.output.length then none else some sink.onFull,
        sink.advance (String.ofList (text.toList.take (capacity - sink.output.length))) 0) := by
  simp only [write, h]
  split
  · rename_i hroom
    rw [List.take_of_length_le (by rwa [String.length_toList])]
    simp [store, advance]
  · simp [store, advance]

/-- A write changes nothing but the output. -/
theorem exists_write_eq_advance (text : String) (sink : Sink) :
    ∃ stored, (write text sink).2 = sink.advance stored 0 := by
  cases hcapacity : sink.capacity with
  | none => exact ⟨text, by rw [write_of_unlimited hcapacity]⟩
  | some capacity => exact ⟨_, by rw [write_of_capacity hcapacity]⟩

/-- A text that fits is stored. -/
theorem write_of_fits (h : sink.Fits text) : write text sink = (none, sink.advance text 0) := by
  cases hcapacity : sink.capacity with
  | none => exact write_of_unlimited hcapacity
  | some capacity =>
      have hroom : text.length ≤ capacity - sink.output.length := h capacity hcapacity
      rw [write_of_capacity hcapacity, if_pos hroom,
        List.take_of_length_le (by rwa [String.length_toList]), String.ofList_toList]

/-- A text that does not fit makes the write fail. -/
theorem write_of_not_fits (h : ¬ sink.Fits text) : (write text sink).1 = some sink.onFull := by
  cases hcapacity : sink.capacity with
  | none => exact (h (fits_of_unlimited hcapacity)).elim
  | some capacity =>
      have hroom : ¬ text.length ≤ capacity - sink.output.length := by
        intro hle
        exact h (by simpa [Fits, hcapacity] using hle)
      rw [write_of_capacity hcapacity, if_neg hroom]

/-- The fault of a write is that of the full sink, and it stays the fault of the sink. -/
theorem onFull_of_write_fault {fault : StreamFault} {after : Sink}
    (h : write text sink = (some fault, after)) :
    fault = sink.onFull ∧ after.onFull = sink.onFull := by
  cases hcapacity : sink.capacity with
  | none => simp [write_of_unlimited hcapacity] at h
  | some capacity =>
      rw [write_of_capacity hcapacity] at h
      obtain ⟨hfault, rfl⟩ := Prod.mk.inj h
      split at hfault
      · cases hfault
      · exact ⟨(Option.some.inj hfault).symm, rfl⟩

/-- Behind a write that fails nothing is stored. -/
theorem write_behind_fault {fault : StreamFault} {after : Sink}
    (h : write first sink = (some fault, after)) : (write second after).2 = after := by
  cases hcapacity : sink.capacity with
  | none => simp [write_of_unlimited hcapacity] at h
  | some capacity =>
      rw [write_of_capacity hcapacity] at h
      obtain ⟨hfault, rfl⟩ := Prod.mk.inj h
      have hroom : capacity - sink.output.length < first.length := by
        refine Nat.not_le.1 fun hle => ?_
        simp [hle] at hfault
      have hfull : capacity -
          (sink.output.length + min (capacity - sink.output.length) first.length) = 0 := by
        omega
      rw [write_of_capacity (by simpa using hcapacity)]
      simp [String.length_toList, hfull]

/-- Two texts are written as one. -/
theorem write_append (first second : String) (sink : Sink) :
    write (first ++ second) sink =
      ((write first sink).1 <|> (write second (write first sink).2).1,
        (write second (write first sink).2).2) := by
  cases h : sink.capacity with
  | none => simp [write_of_unlimited, h]
  | some capacity =>
      -- What is left of the room behind the first text.
      have hrest :
          capacity - (sink.output.length + min (capacity - sink.output.length) first.length) =
            capacity - sink.output.length - first.length := by
        omega
      have hafter : ∀ stored, (sink.advance stored 0).capacity = some capacity := fun _ => h
      simp only [write_of_capacity h, write_of_capacity (hafter _),
        advance_output, advance_onFull, advance_advance, String.length_append, String.length_ofList,
        List.length_take, String.length_toList, String.toList_append, List.take_append, hrest,
        String.ofList_append]
      congr 1
      by_cases hfirst : first.length ≤ capacity - sink.output.length
      · have hiff : first.length + second.length ≤ capacity - sink.output.length ↔
            second.length ≤ capacity - sink.output.length - first.length := by
          omega
        simp [hfirst, hiff]
      · have hboth : ¬ first.length + second.length ≤ capacity - sink.output.length := by
          omega
        simp [hfirst, hboth]

/-- Of two texts nothing is stored behind a first one that does not fit. -/
theorem write_append_of_not_fits (h : ¬ sink.Fits first) :
    (write (first ++ second) sink).2 = (write first sink).2 := by
  rw [write_append]
  exact write_behind_fault (Prod.ext (write_of_not_fits h) rfl)

/-- What a write stores depends on the room that there is, and not on flushes. -/
theorem output_write_advance (flushes : Nat) :
    (write second (sink.advance first flushes)).2.output =
      (write second (sink.advance first 0)).2.output := by
  cases h : sink.capacity with
  | none => simp [write_of_unlimited, h]
  | some capacity =>
      have hafter : ∀ flushes, (sink.advance first flushes).capacity = some capacity := fun _ => h
      simp [write_of_capacity (hafter _)]

/-- Behind a first text that fits, the second of two texts is stored as on its own. -/
theorem output_write_append_of_fits (flushes : Nat) (h : sink.Fits first) :
    (write (first ++ second) sink).2.output =
      (write second (sink.advance first flushes)).2.output := by
  rw [write_append, write_of_fits h, output_write_advance flushes]

/-- Texts written one after the other are written as one text. -/
theorem writeAll_eq_write (texts : List String) (sink : Sink) :
    writeAll texts sink = write (String.join texts) sink := by
  induction texts generalizing sink with
  | nil => simp [Device.writeAll, write_of_fits]
  | cons text rest ih =>
      rw [String.join_cons, write_append, writeAll, Device.writeAll]
      cases hwrite : write text sink with
      | mk fault after =>
          cases fault with
          | none => simp [hwrite, ih]
          | some fault => simp [hwrite, write_behind_fault hwrite]

/-! ## Reports -/

/-- The text that puts the colour back. -/
def closing (colored : Bool) : String :=
  if colored then resetSequence else ""

/-- A reset is a write of what closes the colours. -/
theorem reset_eq_write (colored : Bool) : reset colored = write (closing colored) := by
  funext sink
  cases colored <;> simp [Device.reset, writeAll_eq_write, closing]

/-- Write a text and flush whatever came of it; the last fault counts. -/
def writeFlushed (text : String) : Action := fun sink =>
  let (writeFault, sink) := write text sink
  let (flushFault, sink) := flush sink
  (flushFault <|> writeFault, sink)

/-- Texts in a guard are written as one text with the reset at its end, and flushed. -/
theorem guarded_writeAll (colored : Bool) (texts : List String) (sink : Sink) :
    guarded colored id (writeAll texts) sink =
      writeFlushed (String.join texts ++ closing colored) sink := by
  simp only [Device.guarded, Device.close, writeAll_eq_write, reset_eq_write, writeFlushed,
    write_append, device_flush]
  cases hreport : write (String.join texts) sink with
  | mk fault after =>
      cases fault with
      | none => simp
      | some fault =>
          -- The reset finds the sink full too, so that both faults are the same.
          cases hreset : write (closing colored) after with
          | mk resetFault after' =>
              cases resetFault with
              | none => simp
              | some resetFault =>
                  have := onFull_of_write_fault hreport
                  have := onFull_of_write_fault hreset
                  simp_all

/-- A fault of the flush takes the place of a fault of the write. -/
theorem writeFlushed_fault (text : String) (sink : Sink) :
    (writeFlushed text sink).1 =
      if sink.failsFlush then some .inputOutput else (write text sink).1 := by
  obtain ⟨stored, hstored⟩ := exists_write_eq_advance text sink
  simp only [writeFlushed, flush, hstored, advance_failsFlush]
  split <;> simp

/-- A flush adds no output. -/
@[simp] theorem output_writeFlushed (text : String) (sink : Sink) :
    (writeFlushed text sink).2.output = (write text sink).2.output := rfl

/-- A text that fits is taken and flushed. -/
theorem writeFlushed_of_fits (h : sink.Fits text) (hflush : sink.failsFlush = false) :
    writeFlushed text sink = (none, sink.advance text 1) := by
  simp [writeFlushed, write_of_fits h, flush, advance, hflush]

end StoryLint.Sink
