import StoryLint.Proofs.Dump.Format
import StoryLint.Proofs.Run.Step
import StoryLint.Proofs.Text.Utf8

/-!
# Dumps in files

A file that can be read has bytes, and these hold a text if they are UTF-8 (`HoldsText`), and a
document if the text is JSON that is read (`HoldsDocument`). Loading goes through these layers from
the outside: bytes that hold no text, a text that goes beyond a limit of reading, a text that is no
JSON, a document that is not read.

`load_answered_iff` is the main result, for every file and every path: a dump is loaded, or
answered with its source and the place of a fault, exactly if its bytes hold a text within the
limits and reading the document in it meets no obstacle. Only a fault with a place is reported by
a run; bytes that hold no text end it without a status, as `load_no_text` shows.

Texts with a lone surrogate are outside this library, and left out here (`NoLoneSurrogate`).
-/

namespace StoryLint.Dump

/-- Bytes hold a text if they are its encoding, with line ends of any kind. -/
def HoldsText (bytes : List UInt8) (text : String) : Prop :=
  ∃ chars, bytes = Text.Utf8.encode chars ∧ text = String.ofList (Text.unifyNewlines chars)

/-- Bytes hold a document if they hold a text that is the document in JSON. -/
def HoldsDocument (nesting : Nat) (bytes : List UInt8) (document : Json) : Prop :=
  ∃ text, HoldsText bytes text ∧ Json.parse nesting text = .ok document

/-- The text in bytes has no lone surrogate. -/
def NoLoneSurrogate (nesting : Nat) (bytes : List UInt8) : Prop :=
  ∀ text, HoldsText bytes text → Json.parse nesting text ≠ .error .loneSurrogate

variable {host : Host} {name text : String} {path : Path} {bytes : List UInt8}
  {document : Json} {nesting : Nat}

/-- Bytes hold one text at most. -/
theorem HoldsText.eq {other : String} (h : HoldsText bytes text) (hother : HoldsText bytes other) :
    other = text := by
  obtain ⟨chars, hchars, rfl⟩ := h
  obtain ⟨otherChars, hotherChars, rfl⟩ := hother
  have hdecode := Text.Utf8.decode_eq_ok_iff.2 hchars
  rw [Text.Utf8.decode_eq_ok_iff.2 hotherChars] at hdecode
  cases hdecode
  rfl

/-- Bytes hold the document of their text. -/
theorem holdsDocument_iff (h : HoldsText bytes text) :
    HoldsDocument nesting bytes document ↔ Json.parse nesting text = .ok document := by
  constructor
  · rintro ⟨other, hother, hparse⟩
    rwa [h.eq hother] at hparse
  · exact fun hparse => ⟨text, h, hparse⟩

/-- What is said of a text in bytes is said of the one that they hold. -/
theorem exists_holdsText_iff (h : HoldsText bytes text) {p : String → Prop} :
    (∃ other, HoldsText bytes other ∧ p other) ↔ p text := by
  constructor
  · rintro ⟨other, hother, hp⟩
    rwa [h.eq hother] at hp
  · exact fun hp => ⟨text, h, hp⟩

/-- The bytes of a file are decoded. -/
theorem loadText_eq_decode (hnull : '\x00' ∉ path.text.toList)
    (hfile : host.files path = .ok bytes) :
    loadText host path = ((Text.Utf8.decode bytes).map fun chars =>
      String.ofList (Text.unifyNewlines chars)).mapError LoadError.notUtf8 := by
  have hpath : path.text.toList.contains '\x00' = false := by simpa using hnull
  simp only [loadText, hpath, hfile, Bool.false_eq_true, if_false]
  cases Text.Utf8.decode bytes <;> rfl

/-- The text of a file is the one that its bytes hold. -/
theorem loadText_eq_ok_iff (hnull : '\x00' ∉ path.text.toList)
    (hfile : host.files path = .ok bytes) :
    loadText host path = .ok text ↔ HoldsText bytes text := by
  simp only [loadText_eq_decode hnull hfile, HoldsText, ← Text.Utf8.decode_eq_ok_iff]
  cases Text.Utf8.decode bytes <;> simp [Except.map, Except.mapError, eq_comm]

/-- Without a text in the bytes the decoder has found a fault. -/
theorem exists_loadText_eq_notUtf8_iff (hnull : '\x00' ∉ path.text.toList)
    (hfile : host.files path = .ok bytes) :
    (∃ fault, loadText host path = .error (.notUtf8 fault)) ↔ ¬ ∃ text, HoldsText bytes text := by
  simp only [loadText_eq_decode hnull hfile, HoldsText, ← Text.Utf8.decode_eq_ok_iff]
  cases Text.Utf8.decode bytes <;> simp [Except.map, Except.mapError]

/-- Loading the text of a file reads its JSON, and then what the document states. -/
theorem load_of_text (htext : loadText host (.ofString name) = .ok text) :
    load host name =
      match Json.parse host.nesting text with
      | .ok document => (read (some (Path.ofString name).text) document).mapError LoadError.failure
      | .error (.limit l) => .error (.limit l)
      | .error .loneSurrogate => .error .loneSurrogate
      | .error (.noJson e) => .error (.failure (.malformed
          ⟨some (Path.ofString name).text, .document, .invalidJson e⟩)) := by
  simp only [load, loadDocument, htext, bind, Except.bind]
  cases Json.parse host.nesting text with
  | ok document =>
      simp only [pure, Except.pure]
      cases read (some (Path.ofString name).text) document <;> rfl
  | error e => cases e <;> rfl

/-- Loading ends at the first layer that is not there: no text, a text beyond a limit, no document,
or else as reading the document ends. -/
theorem load_cases (hnull : '\x00' ∉ (Path.ofString name).text.toList)
    (hfile : host.files (.ofString name) = .ok bytes)
    (hsurrogate : NoLoneSurrogate host.nesting bytes) :
    (¬ ∃ text, HoldsText bytes text) ∧ (∃ fault, load host name = .error (.notUtf8 fault)) ∨
      (∃ text l, HoldsText bytes text ∧ Json.parse host.nesting text = .error (.limit l) ∧
        load host name = .error (.limit l)) ∨
      (∃ text e, HoldsText bytes text ∧ Json.parse host.nesting text = .error (.noJson e) ∧
        load host name = .error (.failure (.malformed
          ⟨some (Path.ofString name).text, .document, .invalidJson e⟩))) ∨
      ∃ text document, HoldsText bytes text ∧ Json.parse host.nesting text = .ok document ∧
        load host name =
          (read (some (Path.ofString name).text) document).mapError LoadError.failure := by
  by_cases htexts : ∃ text, HoldsText bytes text
  · obtain ⟨text, htext⟩ := htexts
    have hload := load_of_text ((loadText_eq_ok_iff hnull hfile).2 htext)
    cases hparse : Json.parse host.nesting text with
    | ok document =>
        rw [hparse] at hload
        exact .inr (.inr (.inr ⟨text, document, htext, hparse, hload⟩))
    | error e =>
        rw [hparse] at hload
        cases e with
        | noJson e => exact .inr (.inr (.inl ⟨text, e, htext, hparse, hload⟩))
        | limit l => exact .inr (.inl ⟨text, l, htext, hparse, hload⟩)
        | loneSurrogate => exact absurd hparse (hsurrogate text htext)
  · obtain ⟨fault, hfault⟩ := (exists_loadText_eq_notUtf8_iff hnull hfile).2 htexts
    refine .inl ⟨htexts, fault, ?_⟩
    simp only [load, loadDocument, hfault, bind, Except.bind]

section Layers

variable (hnull : '\x00' ∉ (Path.ofString name).text.toList)
  (hfile : host.files (.ofString name) = .ok bytes)
  (hsurrogate : NoLoneSurrogate host.nesting bytes)

include hnull hfile hsurrogate

/-- A dump is loaded as what the document in its bytes states. -/
theorem load_eq_ok_iff {output : StoryOutput} :
    load host name = .ok output ↔
      ∃ document, HoldsDocument host.nesting bytes document ∧ States document output := by
  rcases load_cases hnull hfile hsurrogate with ⟨hnone, fault, hload⟩ |
    ⟨text, l, htext, hparse, hload⟩ | ⟨text, e, htext, hparse, hload⟩ |
    ⟨text, document, htext, hparse, hload⟩
  · have hdocument : ∀ document, ¬ HoldsDocument host.nesting bytes document :=
      fun _ ⟨text, htext, _⟩ => hnone ⟨text, htext⟩
    simp [hload, hdocument]
  · simp [hload, holdsDocument_iff htext, hparse]
  · simp [hload, holdsDocument_iff htext, hparse]
  · have hread : read (some (Path.ofString name).text) document = .ok output ↔
        States document output := read_eq_ok_iff
    simp only [hload, holdsDocument_iff htext, hparse, Except.ok.injEq, exists_eq_left', ← hread]
    cases read (some (Path.ofString name).text) document <;> simp [Except.mapError]

/-- A dump is loaded, or answered with its source and the place of a fault, exactly if its bytes
hold a text within the limits and no document in it leads to an obstacle. -/
theorem load_ok_or_malformed_iff :
    ((∃ output, load host name = .ok output) ∨
        ∃ place reason, load host name = .error (.failure (.malformed
          ⟨some (Path.ofString name).text, place, reason⟩))) ↔
      (∃ text, HoldsText bytes text ∧
        ∀ l, Json.parse host.nesting text ≠ .error (.limit l)) ∧
      ∀ document, HoldsDocument host.nesting bytes document →
        ∀ spot, Reached document spot → ∀ obstacle, ¬ spot.Meets obstacle := by
  rcases load_cases hnull hfile hsurrogate with ⟨hnone, fault, hload⟩ |
    ⟨text, l, htext, hparse, hload⟩ | ⟨text, e, htext, hparse, hload⟩ |
    ⟨text, document, htext, hparse, hload⟩
  · have hnone' : ∀ text, ¬ HoldsText bytes text := fun text htext => hnone ⟨text, htext⟩
    simp [hload, hnone']
  · simp [hload, exists_holdsText_iff htext, hparse]
  · simp [hload, exists_holdsText_iff htext, holdsDocument_iff htext, hparse]
  · simp only [exists_holdsText_iff htext, holdsDocument_iff htext, hparse, Except.ok.injEq,
      forall_eq', ne_eq, reduceCtorEq, not_false_eq_true, implies_true, true_and, hload,
      ← (read_ok_or_malformed_iff (some (Path.ofString name).text) document).1]
    cases read (some (Path.ofString name).text) document <;> simp [Except.mapError]

/-- The decoder finds a fault exactly in bytes that hold no text. -/
theorem load_notUtf8_iff :
    (∃ fault, load host name = .error (.notUtf8 fault)) ↔ ¬ ∃ text, HoldsText bytes text := by
  rcases load_cases hnull hfile hsurrogate with ⟨hnone, fault, hload⟩ |
    ⟨text, l, htext, hparse, hload⟩ | ⟨text, e, htext, hparse, hload⟩ |
    ⟨text, document, htext, hparse, hload⟩
  · exact iff_of_true ⟨fault, hload⟩ hnone
  · have htexts : ∃ text, HoldsText bytes text := ⟨text, htext⟩
    simp [hload, htexts]
  · have htexts : ∃ text, HoldsText bytes text := ⟨text, htext⟩
    simp [hload, htexts]
  · have htexts : ∃ text, HoldsText bytes text := ⟨text, htext⟩
    simp only [hload, htexts, not_true_eq_false, iff_false]
    cases read (some (Path.ofString name).text) document <;> simp [Except.mapError]

/-- A limit is the answer exactly if the text in the bytes goes beyond it. -/
theorem load_limit_iff {l : Json.Limit} :
    load host name = .error (.limit l) ↔
      ∃ text, HoldsText bytes text ∧ Json.parse host.nesting text = .error (.limit l) := by
  rcases load_cases hnull hfile hsurrogate with ⟨hnone, fault, hload⟩ |
    ⟨text, l', htext, hparse, hload⟩ | ⟨text, e, htext, hparse, hload⟩ |
    ⟨text, document, htext, hparse, hload⟩
  · have hnone' : ∀ text, ¬ HoldsText bytes text := fun text htext => hnone ⟨text, htext⟩
    simp [hload, hnone']
  · simp [hload, exists_holdsText_iff htext, hparse]
  · simp [hload, exists_holdsText_iff htext, hparse]
  · simp only [hload, exists_holdsText_iff htext, hparse, reduceCtorEq, iff_false]
    cases read (some (Path.ofString name).text) document <;> simp [Except.mapError]

/-- A run that comes to a dump that does not load is broken by a fault with a place, and ended
without a status by any other fault. -/
theorem outcome_inputs_of_load_error {e : LoadError} (hload : load host name = .error e)
    (config : Config) (status : Status) (sink : Sink) (inputs : List String) :
    let outcome := (Run.inputs host config status sink (name :: inputs)).outcome
    let placed := ∃ place reason,
      e = .failure (.malformed ⟨some (Path.ofString name).text, place, reason⟩)
    placed ∧ outcome = .ok .broken ∨ ¬ placed ∧ outcome = .error (.load e) := by
  rw [Run.inputs_of_error config status sink inputs hload]
  rcases load_cases hnull hfile hsurrogate with ⟨-, fault, h⟩ | ⟨text, l, -, -, h⟩ |
    ⟨text, fault, -, -, h⟩ | ⟨text, document, -, -, h⟩
  · obtain rfl := Except.error.inj (hload.symm.trans h)
    exact .inr ⟨by simp, rfl⟩
  · obtain rfl := Except.error.inj (hload.symm.trans h)
    exact .inr ⟨by simp, rfl⟩
  · obtain rfl := Except.error.inj (hload.symm.trans h)
    exact .inl ⟨⟨_, _, rfl⟩, rfl⟩
  · cases hread : read (some (Path.ofString name).text) document with
    | ok output =>
        rw [hload, hread] at h
        cases h
    | error failure =>
        rw [hload, hread] at h
        obtain rfl := Except.error.inj h
        cases failure with
        | malformed fault =>
            obtain ⟨source, place, reason⟩ := fault
            obtain rfl : source = _ := (read_eq_malformed_iff.1 hread).1
            exact .inl ⟨⟨place, reason, rfl⟩, rfl⟩
        | obstacle obstacle => exact .inr ⟨by simp, rfl⟩

end Layers

/-- For every file with any bytes: its dump is loaded, or answered with the path as the source and
the place of a fault, exactly if the bytes hold a text within the limits of reading and reading the
document in it meets no obstacle. It is loaded as what the document states, and a text that is no
JSON is malformed. Bytes that hold no text, and a text beyond a limit, are answered with an error
without a place. A run that comes to a dump that does not load is broken if the fault has a place,
and else ends without a status. -/
theorem load_answered_iff (hnull : '\x00' ∉ (Path.ofString name).text.toList)
    (hfile : host.files (.ofString name) = .ok bytes)
    (hsurrogate : NoLoneSurrogate host.nesting bytes) :
    let source := (Path.ofString name).text
    (((∃ output, load host name = .ok output) ∨
        ∃ place reason,
          load host name = .error (.failure (.malformed ⟨some source, place, reason⟩))) ↔
      (∃ text, HoldsText bytes text ∧
        ∀ l, Json.parse host.nesting text ≠ .error (.limit l)) ∧
      ∀ document, HoldsDocument host.nesting bytes document →
        ∀ spot, Reached document spot → ∀ obstacle, ¬ spot.Meets obstacle) ∧
    (∀ output, load host name = .ok output ↔
      ∃ document, HoldsDocument host.nesting bytes document ∧ States document output) ∧
    (∀ text e, HoldsText bytes text → Json.parse host.nesting text = .error (.noJson e) →
      load host name =
        .error (.failure (.malformed ⟨some source, .document, .invalidJson e⟩))) ∧
    ((∃ fault, load host name = .error (.notUtf8 fault)) ↔ ¬ ∃ text, HoldsText bytes text) ∧
    (∀ l, load host name = .error (.limit l) ↔
      ∃ text, HoldsText bytes text ∧ Json.parse host.nesting text = .error (.limit l)) ∧
    ∀ e, load host name = .error e → ∀ config status sink inputs,
      let outcome := (Run.inputs host config status sink (name :: inputs)).outcome
      let placed := ∃ place reason, e = .failure (.malformed ⟨some source, place, reason⟩)
      placed ∧ outcome = .ok .broken ∨ ¬ placed ∧ outcome = .error (.load e) := by
  refine ⟨load_ok_or_malformed_iff hnull hfile hsurrogate,
    fun _ => load_eq_ok_iff hnull hfile hsurrogate, fun text e htext hparse => ?_,
    load_notUtf8_iff hnull hfile hsurrogate, fun _ => load_limit_iff hnull hfile hsurrogate,
    fun e hload => outcome_inputs_of_load_error hnull hfile hsurrogate hload⟩
  rw [load_of_text ((loadText_eq_ok_iff hnull hfile).2 htext), hparse]

/-- Two bytes that are a character, and no JSON. -/
def accentedBytes : List UInt8 :=
  [0xC3, 0xA9]

/-- A host with a file with these bytes at every path. -/
def accentedHost : Host :=
  .ofFiles fun _ => .ok accentedBytes

/-- A dump that holds a text and no document is malformed, and breaks the run. -/
theorem load_answered_accented :
    '\x00' ∉ (Path.ofString "./a.json").text.toList ∧
      accentedHost.files (.ofString "./a.json") = .ok accentedBytes ∧
      NoLoneSurrogate accentedHost.nesting accentedBytes ∧
      (∃ place reason, load accentedHost "./a.json" =
        .error (.failure (.malformed ⟨some "a.json", place, reason⟩))) ∧
      (Run.inputs accentedHost {} .passed {} ["./a.json"]).outcome = .ok .broken := by
  have hpath : (Path.ofString "./a.json").text = "a.json" := by decide
  have hnull : '\x00' ∉ (Path.ofString "./a.json").text.toList := by
    rw [hpath]
    decide
  have hfile : accentedHost.files (.ofString "./a.json") = .ok accentedBytes := rfl
  have htext : HoldsText accentedBytes "é" := ⟨['é'], by decide, rfl⟩
  let e : Json.SyntaxError := { fault := .expectedValue, offset := 0, position := {} }
  -- A document has no decidable equality, so only that there is one is compared.
  have hread : (fun _ => ()) <$> Json.parse accentedHost.nesting "é" = .error (.noJson e) := by
    decide +kernel
  have hparse := map_eq_error_iff.1 hread
  have hsurrogate : NoLoneSurrogate accentedHost.nesting accentedBytes := by
    intro text hother
    rw [htext.eq hother, hparse]
    simp
  obtain ⟨-, -, hmalformed, -, -, hrun⟩ := load_answered_iff hnull hfile hsurrogate
  have hload := hmalformed "é" e htext hparse
  rw [hpath] at hload
  refine ⟨hnull, hfile, hsurrogate, ⟨_, _, hload⟩, ?_⟩
  obtain ⟨-, houtcome⟩ | ⟨hplaceless, -⟩ := hrun _ hload {} .passed {} []
  · exact houtcome
  · exact absurd ⟨_, _, by rw [hpath]⟩ hplaceless

/-- A byte that starts no character keeps a dump from being answered. -/
theorem load_no_text :
    ¬ ∀ (host : Host) (name : String) (bytes : List UInt8),
      '\x00' ∉ (Path.ofString name).text.toList → host.files (.ofString name) = .ok bytes →
        (∃ output, load host name = .ok output) ∨
          ∃ place reason, load host name =
            .error (.failure (.malformed ⟨some (Path.ofString name).text, place, reason⟩)) := by
  intro h
  have hpath : (Path.ofString "a.json").text = "a.json" := by decide
  have hnull : '\x00' ∉ (Path.ofString "a.json").text.toList := by
    rw [hpath]
    decide
  have htext : ¬ ∃ text, HoldsText [0xFF] text := by
    rintro ⟨text, chars, hbytes, -⟩
    have hdecode := Text.Utf8.decode_eq_ok_iff.2 hbytes
    rw [Text.Utf8.decode, Text.Utf8.decodeFrom] at hdecode
    cases hdecode
  let host : Host := { accentedHost with files _ := .ok [0xFF] }
  have hsurrogate : NoLoneSurrogate host.nesting [0xFF] :=
    fun text hholds => absurd ⟨text, hholds⟩ htext
  obtain ⟨⟨text, hholds, -⟩, -⟩ :=
    (load_ok_or_malformed_iff hnull rfl hsurrogate).1 (h host "a.json" [0xFF] hnull rfl)
  exact htext ⟨text, hholds⟩

end StoryLint.Dump
