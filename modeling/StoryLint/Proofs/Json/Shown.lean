import StoryLint.Json.Basic
import StoryLint.Proofs.Except

/-!
# Values that can be written

A value is written in a message, or stands for a text, unless an integer in it has too many digits
(`Json.HoldsLongInteger`). The induction is on the value together with its items and its fields.
-/

namespace StoryLint.Json

open Number (TooManyDigits)

/-- An integer with too many digits to be written stands in a value, at any depth. -/
inductive HoldsLongInteger : Json → Prop where
  | integer {n : Int} :
      Number.mostDigits < Number.decimalLength n.natAbs → HoldsLongInteger (.integer n)
  | item {items : List Json} {item : Json} :
      item ∈ items → HoldsLongInteger item → HoldsLongInteger (.array items)
  | field {fields : List (String × Json)} {name : String} {value : Json} :
      (name, value) ∈ fields → HoldsLongInteger value → HoldsLongInteger (.object fields)

variable {items : List Json} {fields : List (String × Json)} {e : TooManyDigits}

/-- An integer holds itself only. -/
@[simp] theorem holdsLongInteger_integer {n : Int} :
    HoldsLongInteger (.integer n) ↔ Number.mostDigits < Number.decimalLength n.natAbs :=
  ⟨fun | .integer h => h, .integer⟩

/-- An array holds what its items hold. -/
@[simp] theorem holdsLongInteger_array :
    HoldsLongInteger (.array items) ↔ ∃ item ∈ items, HoldsLongInteger item :=
  ⟨fun | .item hitem h => ⟨_, hitem, h⟩, fun ⟨_, hitem, h⟩ => .item hitem h⟩

/-- An object holds what its fields hold. -/
@[simp] theorem holdsLongInteger_object :
    HoldsLongInteger (.object fields) ↔ ∃ field ∈ fields, HoldsLongInteger field.2 :=
  ⟨fun | .field hfield h => ⟨_, hfield, h⟩, fun ⟨_, hfield, h⟩ => .field hfield h⟩

/-- What is neither an integer nor holds other values holds no integer. -/
@[simp] theorem not_holdsLongInteger_null : ¬ HoldsLongInteger .null :=
  nofun

/-- A truth value holds no integer. -/
@[simp] theorem not_holdsLongInteger_bool {b : Bool} : ¬ HoldsLongInteger (.bool b) :=
  nofun

/-- A floating-point number holds no integer. -/
@[simp] theorem not_holdsLongInteger_real {x : Number.Binary64} : ¬ HoldsLongInteger (.real x) :=
  nofun

/-- A text holds no integer. -/
@[simp] theorem not_holdsLongInteger_text {s : String} : ¬ HoldsLongInteger (.text s) :=
  nofun

/-- An integer is written up to the limit. -/
theorem integerText_eq_error_iff {n : Int} :
    Number.integerText n = .error e ↔ e = .written ∧ HoldsLongInteger (.integer n) := by
  rw [Number.integerText]
  split <;> simp [*, eq_comm]

/-- Two parts are written if each of them is. -/
theorem bind_eq_long_iff {α β γ : Type} {x : Except TooManyDigits α} {y : Except TooManyDigits β}
    {f : α → β → γ} {p q : Prop} (hx : ∀ e, x = .error e ↔ e = .written ∧ p)
    (hy : ∀ e, y = .error e ↔ e = .written ∧ q) :
    (do let a ← x; let b ← y; return f a b) = .error e ↔ e = .written ∧ (p ∨ q) := by
  cases hfirst : x with
  | error e' =>
      obtain ⟨rfl, hp⟩ := (hx e').1 hfirst
      simp [bind, Except.bind, hp, eq_comm]
  | ok a =>
      have hp : ¬ p := by
        intro hp
        have herror := (hx .written).2 ⟨rfl, hp⟩
        rw [hfirst] at herror
        cases herror
      rw [← hfirst, or_iff_right hp, ← hy]
      simp [hfirst, bind_eq_error_iff, map_eq_error_iff]

mutual

/-- A value is not written exactly if it holds an integer with too many digits. -/
theorem shown_eq_error_iff (value : Json) (e : TooManyDigits) :
    value.shown = .error e ↔ e = .written ∧ HoldsLongInteger value := by
  match value with
  | .null | .bool _ | .real _ | .text _ => simp [shown]
  | .integer n => exact integerText_eq_error_iff
  | .array items => simp [shown, map_eq_error_iff, shownItems_eq_error_iff items]
  | .object fields => simp [shown, map_eq_error_iff, shownFields_eq_error_iff fields]

/-- Items are not written exactly if one of them is not. -/
theorem shownItems_eq_error_iff (items : List Json) (e : TooManyDigits) :
    shownItems items = .error e ↔ e = .written ∧ ∃ item ∈ items, HoldsLongInteger item := by
  match items with
  | [] => simp [shownItems]
  | item :: rest =>
      simp only [shownItems, List.mem_cons, exists_eq_or_imp]
      exact bind_eq_long_iff (shown_eq_error_iff item) (shownItems_eq_error_iff rest)

/-- Fields are not written exactly if the value of one of them is not. -/
theorem shownFields_eq_error_iff (fields : List (String × Json)) (e : TooManyDigits) :
    shownFields fields = .error e ↔
      e = .written ∧ ∃ field ∈ fields, HoldsLongInteger field.2 := by
  match fields with
  | [] => simp [shownFields]
  | (name, value) :: rest =>
      simp only [shownFields, List.mem_cons, exists_eq_or_imp]
      exact bind_eq_long_iff (shown_eq_error_iff value) (shownFields_eq_error_iff rest)

end

/-- A value stands for no text exactly if it holds an integer with too many digits. -/
theorem asText_eq_error_iff {value : Json} :
    value.asText = .error e ↔ e = .written ∧ HoldsLongInteger value := by
  cases value with
  | text s => simp [asText]
  | _ => exact shown_eq_error_iff _ e

end StoryLint.Json
