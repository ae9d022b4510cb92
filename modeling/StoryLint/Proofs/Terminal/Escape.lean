import StoryLint.Terminal.Style
import StoryLint.Proofs.Text.Digits

/-!
# What a terminal makes of a text

A terminal reads a text as characters to show and as sequences that set colours and attributes:
an escape character, a bracket, digits and an `m`. `symbols` splits a text that way, `erase` keeps
the characters, and `codesAfter` is what is in force at the end, where the number zero puts
everything back.

`Shows painted plain` says that a text was made of plain pieces by painting some of them. Erasing
the sequences of such a text gives the plain one (`Shows.erase_eq`), and nothing is in force behind
it (`Shows.codesAfter_eq`).
-/

namespace StoryLint.Terminal

/-- What a terminal reads: a character, or a sequence with a number. -/
inductive Symbol where
  | shown (c : Char)
  | sgr (code : Nat)
deriving DecidableEq, Repr

/-- The number of the sequence in front of a text, with the text behind it. A sequence without
digits has the number zero. -/
def sequence? : List Char → Option (Nat × List Char)
  | '\x1b' :: '[' :: rest =>
      match rest.dropWhile Char.isDigit with
      | 'm' :: after => some (Nat.ofDigitChars 10 (rest.takeWhile Char.isDigit) 0, after)
      | _ => none
  | _ => none

/-- Behind a sequence the text is shorter. -/
theorem length_of_sequence? {text after : List Char} {code : Nat}
    (h : sequence? text = some (code, after)) : after.length < text.length := by
  unfold sequence? at h
  split at h
  · rename_i rest
    split at h
    · rename_i after' hdrop
      obtain ⟨-, rfl⟩ := Prod.mk.inj (Option.some.inj h)
      have hlength := (List.dropWhile_sublist Char.isDigit (l := rest)).length_le
      rw [hdrop, List.length_cons] at hlength
      simp only [List.length_cons]
      omega
    · cases h
  · cases h

/-- A text as a terminal reads it. -/
def symbols : List Char → List Symbol
  | [] => []
  | c :: rest =>
      match h : sequence? (c :: rest) with
      | some (code, after) =>
          have := length_of_sequence? h
          .sgr code :: symbols after
      | none => .shown c :: symbols rest
termination_by text => text.length
decreasing_by
  · exact this
  · exact Nat.lt_succ_self rest.length

/-- The character that a symbol shows. -/
def Symbol.char? : Symbol → Option Char
  | shown c => some c
  | sgr _ => none

/-- The numbers in force after a symbol. -/
def Symbol.apply (codes : List Nat) : Symbol → List Nat
  | shown _ => codes
  | sgr 0 => []
  | sgr code => codes ++ [code]

/-- A text without its sequences. -/
def erase (text : String) : String :=
  String.ofList ((symbols text.toList).filterMap Symbol.char?)

/-- The numbers that are in force after a text. -/
def codesAfter (text : String) : List Nat :=
  (symbols text.toList).foldl Symbol.apply []

/-! ## Sequences -/

/-- A sequence in front of a text is its first symbol. -/
theorem symbols_of_sequence? {text after : List Char} {code : Nat}
    (h : sequence? text = some (code, after)) : symbols text = .sgr code :: symbols after := by
  cases text with
  | nil => cases h
  | cons c rest =>
      rw [symbols]
      split
      · rename_i h'
        cases h.symm.trans h'
        rfl
      · rename_i h'
        cases h.symm.trans h'

/-- A character that starts no sequence is shown. -/
theorem symbols_cons_of_ne {c : Char} (h : c ≠ '\x1b') (rest : List Char) :
    symbols (c :: rest) = .shown c :: symbols rest := by
  have hnone : sequence? (c :: rest) = none := by
    unfold sequence?
    split
    · rename_i hc
      exact absurd (List.cons.inj hc).1 h
    · rfl
  rw [symbols]
  split
  · rename_i h'
    cases hnone.symm.trans h'
  · rfl

/-- A sequence, character by character. -/
theorem toList_escapeSequence (code : Nat) :
    (escapeSequence code).toList = '\x1b' :: '[' :: (Nat.toDigits 10 code ++ ['m']) := by
  simp [escapeSequence]

/-- A sequence is read back. -/
theorem sequence?_escapeSequence (code : Nat) (after : List Char) :
    sequence? ((escapeSequence code).toList ++ after) = some (code, after) := by
  have hdigits : ∀ c ∈ Nat.toDigits 10 code, c.isDigit = true := fun c hc =>
    Nat.isDigit_of_mem_toDigits (by decide) (by decide) hc
  have htake : (Nat.toDigits 10 code ++ 'm' :: after).takeWhile Char.isDigit =
      Nat.toDigits 10 code := by
    rw [List.takeWhile_append_of_pos hdigits, List.takeWhile_cons_of_neg (by decide),
      List.append_nil]
  have hdrop : (Nat.toDigits 10 code ++ 'm' :: after).dropWhile Char.isDigit = 'm' :: after := by
    rw [List.dropWhile_append_of_pos hdigits, List.dropWhile_cons_of_neg (by decide)]
  simp only [toList_escapeSequence, List.cons_append, List.append_assoc, List.nil_append,
    sequence?, htake, hdrop, Nat.ofDigitChars_ten_toDigits]

/-- A sequence that is written is read as its number. -/
theorem symbols_escapeSequence (code : Nat) (after : List Char) :
    symbols ((escapeSequence code).toList ++ after) = .sgr code :: symbols after :=
  symbols_of_sequence? (sequence?_escapeSequence code after)

/-- Sequences one after the other are read as their numbers. -/
theorem symbols_join_escapeSequence (codes : List Nat) (after : List Char) :
    symbols ((String.join (codes.map escapeSequence)).toList ++ after) =
      codes.map .sgr ++ symbols after := by
  induction codes with
  | nil => rfl
  | cons code rest ih =>
      rw [List.map_cons, String.join_cons, String.toList_append, List.append_assoc,
        symbols_escapeSequence, ih]
      rfl

/-! ## Texts without sequences -/

/-- A text without an escape character. -/
def Unescaped (text : String) : Prop :=
  '\x1b' ∉ text.toList

/-- Whether a text has an escape character can be computed. -/
instance (text : String) : Decidable (Unescaped text) :=
  inferInstanceAs (Decidable (_ ∉ _))

/-- A text without escape characters is shown as it is. -/
theorem symbols_append_of_unescaped {text : String} (h : Unescaped text) (after : List Char) :
    symbols (text.toList ++ after) = text.toList.map .shown ++ symbols after := by
  unfold Unescaped at h
  generalize text.toList = chars at h
  induction chars with
  | nil => rfl
  | cons c rest ih =>
      simp only [List.mem_cons, not_or] at h
      rw [List.cons_append, symbols_cons_of_ne (Ne.symm h.1), ih h.2]
      rfl

section Unescaped

variable {first second : String}

/-- Two texts have no escape character exactly if neither has one. -/
@[simp] theorem unescaped_append :
    Unescaped (first ++ second) ↔ Unescaped first ∧ Unescaped second := by
  simp [Unescaped]

/-- A text that is written out has no escape character if none of its characters is one. -/
theorem unescaped_literal {chars : List Char} (h : '\x1b' ∉ chars) :
    Unescaped (String.ofList chars) := by
  rwa [Unescaped, String.toList_ofList]

/-- Part of a text without an escape character has none either. -/
theorem unescaped_ofList {chars : List Char} (h : Unescaped first) (hpart : chars ⊆ first.toList) :
    Unescaped (String.ofList chars) :=
  unescaped_literal fun hmem => h (hpart hmem)

/-- A character again and again is no escape character if it is none once. -/
theorem unescaped_replicate {c : Char} (h : c ≠ '\x1b') (n : Nat) :
    Unescaped (String.ofList (List.replicate n c)) :=
  unescaped_literal (by simp [Ne.symm h])

/-- The digits of a natural number are no escape characters. -/
theorem unescaped_toString_nat (n : Nat) : Unescaped (toString n) :=
  Text.notMem_toString (by decide) n

/-- The sign and the digits of an integer are no escape characters. -/
theorem unescaped_toString_int (n : Int) : Unescaped (toString n) := by
  cases n with
  | ofNat n => exact unescaped_toString_nat n
  | negSucc n => exact unescaped_append.2 ⟨by decide, unescaped_toString_nat (n + 1)⟩

end Unescaped

/-! ## Painted texts -/

/-- A painted text shows a plain one: both are made of the same pieces without escape characters,
some of them painted. -/
inductive Shows : String → String → Prop where
  | plain {text} : Unescaped text → Shows text text
  | painted {style text} : Unescaped text → Shows (Style.paint style text) text
  | append {painted plain painted' plain'} : Shows painted plain → Shows painted' plain' →
      Shows (painted ++ painted') (plain ++ plain')

/-- The numbers that a style sets. -/
def styleCodes (style : Style) : List Nat :=
  style.attributes.reverse.map (·.code) ++ style.color.toList.map (·.code)

/-- A style opens with the sequences of its codes. -/
theorem opening_eq (style : Style) :
    style.opening = String.join ((styleCodes style).map escapeSequence) := by
  cases hcolor : style.color <;> simp [Style.opening, styleCodes, hcolor, Function.comp_def]

/-- The characters that are shown are the text. -/
theorem filterMap_char?_map_shown (chars : List Char) :
    (chars.map Symbol.shown).filterMap Symbol.char? = chars := by
  rw [List.filterMap_map]
  exact List.filterMap_some

/-- Codes show no character. -/
theorem filterMap_char?_map_sgr (codes : List Nat) :
    (codes.map Symbol.sgr).filterMap Symbol.char? = [] := by
  induction codes with
  | nil => rfl
  | cons code rest ih => exact ih

/-- Characters change no code in force. -/
theorem foldl_apply_map_shown (codes : List Nat) (chars : List Char) :
    (chars.map Symbol.shown).foldl Symbol.apply codes = codes := by
  induction chars with
  | nil => rfl
  | cons c rest ih => exact ih

namespace Shows

variable {painted plain : String}

/-- A painted text is read apart from what follows. It shows the plain text and puts everything
back at its end. -/
theorem symbols_append (h : Shows painted plain) :
    ∃ read, (∀ after, symbols (painted.toList ++ after) = read ++ symbols after) ∧
      read.filterMap Symbol.char? = plain.toList ∧ read.foldl Symbol.apply [] = [] := by
  induction h with
  | @plain text htext =>
      exact ⟨text.toList.map .shown, symbols_append_of_unescaped htext,
        filterMap_char?_map_shown _, foldl_apply_map_shown _ _⟩
  | @painted style text htext =>
      -- Whatever was set, the sequence at the end has the number zero.
      refine ⟨(styleCodes style).map .sgr ++ text.toList.map .shown ++ [.sgr 0], ?_, ?_, ?_⟩
      · intro after
        simp only [Style.paint, opening_eq, resetSequence, String.toList_append,
          List.append_assoc, symbols_join_escapeSequence, symbols_append_of_unescaped htext,
          symbols_escapeSequence, List.singleton_append]
      · have hreset : [Symbol.sgr 0].filterMap Symbol.char? = [] := rfl
        simp only [List.filterMap_append, filterMap_char?_map_sgr, filterMap_char?_map_shown,
          hreset, List.nil_append, List.append_nil]
      · rw [List.foldl_append]
        rfl
  | append _ _ ih ih' =>
      obtain ⟨read, hread, hchars, hcodes⟩ := ih
      obtain ⟨read', hread', hchars', hcodes'⟩ := ih'
      refine ⟨read ++ read', ?_, ?_, ?_⟩
      · intro after
        rw [String.toList_append, List.append_assoc, hread, hread', List.append_assoc]
      · rw [List.filterMap_append, hchars, hchars', String.toList_append]
      · rw [List.foldl_append, hcodes, hcodes']

/-- Erasing the sequences leaves the plain text. -/
theorem erase_eq (h : Shows painted plain) : erase painted = plain := by
  obtain ⟨read, hread, hchars, -⟩ := h.symbols_append
  have hsymbols := hread []
  simp only [List.append_nil, symbols] at hsymbols
  rw [erase, hsymbols, hchars, String.ofList_toList]

/-- Nothing is in force behind the text. -/
theorem codesAfter_eq (h : Shows painted plain) : codesAfter painted = [] := by
  obtain ⟨read, hread, -, hcodes⟩ := h.symbols_append
  have hsymbols := hread []
  simp only [List.append_nil, symbols] at hsymbols
  rw [codesAfter, hsymbols, hcodes]

/-- Nothing shows nothing. -/
theorem empty : Shows "" "" :=
  .plain (by decide)

/-- Painted texts joined together show the plain texts joined together. -/
theorem join_map {α : Type} {painted plain : α → String} {items : List α}
    (h : ∀ item ∈ items, Shows (painted item) (plain item)) :
    Shows (String.join (items.map painted)) (String.join (items.map plain)) := by
  induction items with
  | nil => exact empty
  | cons item rest ih =>
      simp only [List.map_cons, String.join_cons]
      exact (h item List.mem_cons_self).append (ih fun other hother => h other (.tail _ hother))

/-- A reset shows nothing. -/
theorem reset : Shows resetSequence "" :=
  (painted (by decide) : Shows (Style.paint {} "") "")

end Shows

/-! ## Spans -/

/-- A span without an escape character shows the same with colour as without. -/
theorem shows_render {span : Span} (h : Unescaped span.text) :
    Shows (span.render true) (span.render false) := by
  cases hstyle : span.style with
  | none => simpa [Span.render, hstyle] using Shows.plain h
  | some style => simpa [Span.render, hstyle] using Shows.painted h

/-- Spans in colour show their text without it, if no text has an escape character. -/
theorem shows_renderAll {spans : List Span} (h : ∀ span ∈ spans, Unescaped span.text) :
    Shows (Span.renderAll true spans) (Span.renderAll false spans) :=
  Shows.join_map fun span hspan => shows_render (h span hspan)

end StoryLint.Terminal
