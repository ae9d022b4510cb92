import StoryLint.Text.Utf8
import Mathlib.Tactic.SplitIfs

/-!
# Decoding and encoding

Bytes are decoded exactly if they are the encoding of characters, and these are the result
(`Utf8.decode_eq_ok_iff`). A character has one encoding of up to four bytes; `encode_one_iff` to
`encode_four_iff` say which bytes it is made of, and they are read in both directions: from the
bytes of a character to what its first byte announces, and back.
-/

namespace StoryLint.Text.Utf8

/-- The bytes of characters. -/
def encode (chars : List Char) : List UInt8 :=
  chars.flatMap String.utf8EncodeChar

variable {c : Char} {b b₁ b₂ b₃ : UInt8}

/-! ## One character -/

/-- The codes of characters leave out the surrogates. -/
theorem toNat_bounds (c : Char) :
    c.toNat < 0xD800 ∨ 0xDFFF < c.toNat ∧ c.toNat < 0x110000 :=
  c.valid

/-- A character of one byte is below 0x80. -/
theorem encode_one_iff :
    String.utf8EncodeChar c = [b] ↔ b.toNat < 0x80 ∧ c.toNat = b.toNat := by
  have hc := toNat_bounds c
  have hb := b.toNat_lt
  simp only [String.utf8EncodeChar, Char.toNat_val]
  split_ifs <;> simp [← UInt8.toNat_inj] <;> omega

/-- A character of two bytes has five bits in the first and six in the second. -/
theorem encode_two_iff :
    String.utf8EncodeChar c = [b, b₁] ↔
      (0xC2 ≤ b.toNat ∧ b.toNat < 0xE0) ∧ (0x80 ≤ b₁.toNat ∧ b₁.toNat ≤ 0xBF) ∧
        c.toNat = (b.toNat - 0xC0) * 64 + (b₁.toNat - 0x80) := by
  have hc := toNat_bounds c
  have hb := b.toNat_lt
  simp only [String.utf8EncodeChar, Char.toNat_val]
  split_ifs <;> simp [← UInt8.toNat_inj] <;> omega

/-- A character of three bytes has four bits in the first. The second byte leaves out shorter forms
and surrogates. -/
theorem encode_three_iff :
    String.utf8EncodeChar c = [b, b₁, b₂] ↔
      (0xE0 ≤ b.toNat ∧ b.toNat < 0xF0) ∧
        ((if b.toNat = 0xE0 then 0xA0 else 0x80) ≤ b₁.toNat ∧
          b₁.toNat ≤ if b.toNat = 0xED then 0x9F else 0xBF) ∧
        (0x80 ≤ b₂.toNat ∧ b₂.toNat ≤ 0xBF) ∧
        c.toNat = ((b.toNat - 0xE0) * 64 + (b₁.toNat - 0x80)) * 64 + (b₂.toNat - 0x80) := by
  have hc := toNat_bounds c
  constructor
  · intro h
    simp only [String.utf8EncodeChar, Char.toNat_val] at h
    split_ifs at h
    all_goals simp only [List.cons.injEq, ← UInt8.toNat_inj, UInt8.toNat_ofNat', reduceCtorEq,
      and_false, and_true] at h
    obtain ⟨hb, hb₁, hb₂⟩ := h
    -- A small code has a greater second byte, and the codes of surrogates are left out.
    refine ⟨by omega, ?_, by omega, by omega⟩
    split_ifs <;> omega
  · rintro ⟨hb, h₁, h₂, hcode⟩
    have hsize : 0x7FF < c.toNat ∧ c.toNat ≤ 0xFFFF := by split_ifs at h₁ <;> omega
    have h₁ : 0x80 ≤ b₁.toNat ∧ b₁.toNat ≤ 0xBF := by split_ifs at h₁ <;> omega
    simp only [String.utf8EncodeChar, Char.toNat_val]
    rw [if_neg (by omega), if_neg (by omega), if_pos hsize.2]
    simp only [List.cons.injEq, ← UInt8.toNat_inj, UInt8.toNat_ofNat', and_true]
    exact ⟨by omega, by omega, by omega⟩

/-- A character of four bytes has three bits in the first. The second byte leaves out shorter forms
and codes that are too large. -/
theorem encode_four_iff :
    String.utf8EncodeChar c = [b, b₁, b₂, b₃] ↔
      (0xF0 ≤ b.toNat ∧ b.toNat < 0xF5) ∧
        ((if b.toNat = 0xF0 then 0x90 else 0x80) ≤ b₁.toNat ∧
          b₁.toNat ≤ if b.toNat = 0xF4 then 0x8F else 0xBF) ∧
        (0x80 ≤ b₂.toNat ∧ b₂.toNat ≤ 0xBF) ∧ (0x80 ≤ b₃.toNat ∧ b₃.toNat ≤ 0xBF) ∧
        c.toNat = (((b.toNat - 0xF0) * 64 + (b₁.toNat - 0x80)) * 64 + (b₂.toNat - 0x80)) * 64 +
          (b₃.toNat - 0x80) := by
  have hc : c.toNat < 0x110000 := by
    have hc := toNat_bounds c
    omega
  constructor
  · intro h
    simp only [String.utf8EncodeChar, Char.toNat_val] at h
    split_ifs at h
    all_goals simp only [List.cons.injEq, ← UInt8.toNat_inj, UInt8.toNat_ofNat', reduceCtorEq,
      and_false, and_true] at h
    obtain ⟨hb, hb₁, hb₂, hb₃⟩ := h
    refine ⟨by omega, ?_, by omega, by omega, by omega⟩
    split_ifs <;> omega
  · rintro ⟨hb, h₁, h₂, h₃, hcode⟩
    have hsize : 0xFFFF < c.toNat := by split_ifs at h₁ <;> omega
    have h₁ : 0x80 ≤ b₁.toNat ∧ b₁.toNat ≤ 0xBF := by split_ifs at h₁ <;> omega
    simp only [String.utf8EncodeChar, Char.toNat_val]
    rw [if_neg (by omega), if_neg (by omega), if_neg (by omega)]
    simp only [List.cons.injEq, ← UInt8.toNat_inj, UInt8.toNat_ofNat', and_true]
    exact ⟨by omega, by omega, by omega, by omega⟩

/-- A character has between one and four bytes. -/
theorem encode_cases (c : Char) :
    (∃ b, String.utf8EncodeChar c = [b]) ∨ (∃ b b₁, String.utf8EncodeChar c = [b, b₁]) ∨
      (∃ b b₁ b₂, String.utf8EncodeChar c = [b, b₁, b₂]) ∨
      ∃ b b₁ b₂ b₃, String.utf8EncodeChar c = [b, b₁, b₂, b₃] := by
  simp only [String.utf8EncodeChar]
  split_ifs
  · exact .inl ⟨_, rfl⟩
  · exact .inr (.inl ⟨_, _, rfl⟩)
  · exact .inr (.inr (.inl ⟨_, _, _, rfl⟩))
  · exact .inr (.inr (.inr ⟨_, _, _, _, rfl⟩))

/-- A code that is a code point and no surrogate is that of a character. -/
theorem exists_char (code : Nat) (h : code < 0xD800 ∨ 0xDFFF < code ∧ code < 0x110000) :
    ∃ c : Char, c.toNat = code :=
  ⟨Char.ofNat code, by rw [Char.ofNat, dif_pos h]; rfl⟩

/-! ## Bytes of a character -/

variable {first code low high value read : Nat} {lead : Lead} {bytes rest : List UInt8}

/-- What a first byte announces, by the number of bytes of the character. -/
theorem lead?_eq_some_iff :
    lead? first = some lead ↔
      first < 0x80 ∧ lead = ⟨0, 0x80, 0xBF, first⟩ ∨
      (0xC2 ≤ first ∧ first < 0xE0) ∧ lead = ⟨1, 0x80, 0xBF, first - 0xC0⟩ ∨
      (0xE0 ≤ first ∧ first < 0xF0) ∧ lead = ⟨2, if first = 0xE0 then 0xA0 else 0x80,
        if first = 0xED then 0x9F else 0xBF, first - 0xE0⟩ ∨
      (0xF0 ≤ first ∧ first < 0xF5) ∧ lead = ⟨3, if first = 0xF0 then 0x90 else 0x80,
        if first = 0xF4 then 0x8F else 0xBF, first - 0xF0⟩ := by
  unfold lead?
  constructor
  · intro h
    by_cases hone : first < 0x80
    · rw [if_pos hone] at h
      exact .inl ⟨hone, (Option.some.inj h).symm⟩
    rw [if_neg hone] at h
    by_cases hnone : first < 0xC2
    · rw [if_pos hnone] at h
      cases h
    rw [if_neg hnone] at h
    by_cases htwo : first < 0xE0
    · rw [if_pos htwo] at h
      exact .inr (.inl ⟨by omega, (Option.some.inj h).symm⟩)
    rw [if_neg htwo] at h
    by_cases hthree : first < 0xF0
    · rw [if_pos hthree] at h
      exact .inr (.inr (.inl ⟨by omega, (Option.some.inj h).symm⟩))
    rw [if_neg hthree] at h
    by_cases hfour : first < 0xF5
    · rw [if_pos hfour] at h
      exact .inr (.inr (.inr ⟨by omega, (Option.some.inj h).symm⟩))
    rw [if_neg hfour] at h
    cases h
  · rintro (⟨hfirst, rfl⟩ | ⟨hfirst, rfl⟩ | ⟨hfirst, rfl⟩ | ⟨hfirst, rfl⟩)
    · rw [if_pos hfirst]
    · rw [if_neg (by omega), if_neg (by omega), if_pos hfirst.2]
    · rw [if_neg (by omega), if_neg (by omega), if_neg (by omega), if_pos hfirst.2]
    · rw [if_neg (by omega), if_neg (by omega), if_neg (by omega), if_neg (by omega),
        if_pos hfirst.2]

/-- When no byte is owed, the value is the code. -/
theorem follow_zero_eq_ok_iff :
    follow 0 low high value read bytes = .ok code ↔ value = code := by
  simp [follow]

/-- A further byte is there, lies in its bounds, and adds six bits. -/
theorem follow_succ_eq_ok_iff {owed : Nat} :
    follow (owed + 1) low high value read bytes = .ok code ↔
      ∃ b rest, bytes = b :: rest ∧ (low ≤ b.toNat ∧ b.toNat ≤ high) ∧
        follow owed 0x80 0xBF (value * 64 + (b.toNat - 0x80)) (read + 1) rest = .ok code := by
  cases bytes with
  | nil => simp [follow]
  | cons b rest =>
      rw [follow]
      constructor
      · intro h
        split at h
        · rename_i hb
          exact ⟨b, rest, rfl, hb, h⟩
        · cases h
      · rintro ⟨_, _, ⟨⟩, hb, h⟩
        rw [if_pos hb, h]

/-- Bytes that complete what the first byte announces are the encoding of a character. -/
theorem exists_encode_of_follow (hlead : lead? b.toNat = some lead)
    (hfollow : follow lead.owed lead.low lead.high lead.bits 1 rest = .ok code) :
    ∃ c : Char, c.toNat = code ∧ b :: rest = String.utf8EncodeChar c ++ rest.drop lead.owed := by
  rcases lead?_eq_some_iff.1 hlead with ⟨hb, rfl⟩ | ⟨hb, rfl⟩ | ⟨hb, rfl⟩ | ⟨hb, rfl⟩
  · have hcode : b.toNat = code := follow_zero_eq_ok_iff.1 hfollow
    obtain ⟨c, hc⟩ := exists_char code (by omega)
    refine ⟨c, hc, ?_⟩
    rw [encode_one_iff.2 ⟨hb, by omega⟩]
    rfl
  · simp only [follow_succ_eq_ok_iff, follow_zero_eq_ok_iff] at hfollow
    obtain ⟨b₁, rest, rfl, h₁, hcode⟩ := hfollow
    obtain ⟨c, hc⟩ := exists_char code (by omega)
    refine ⟨c, hc, ?_⟩
    rw [encode_two_iff.2 ⟨hb, h₁, by omega⟩]
    rfl
  · simp only [follow_succ_eq_ok_iff, follow_zero_eq_ok_iff] at hfollow
    obtain ⟨b₁, _, rfl, h₁, b₂, rest, rfl, h₂, hcode⟩ := hfollow
    obtain ⟨c, hc⟩ := exists_char code (by split_ifs at h₁ <;> omega)
    refine ⟨c, hc, ?_⟩
    rw [encode_three_iff.2 ⟨hb, h₁, h₂, by omega⟩]
    rfl
  · simp only [follow_succ_eq_ok_iff, follow_zero_eq_ok_iff] at hfollow
    obtain ⟨b₁, _, rfl, h₁, b₂, _, rfl, h₂, b₃, rest, rfl, h₃, hcode⟩ := hfollow
    obtain ⟨c, hc⟩ := exists_char code (by split_ifs at h₁ <;> omega)
    refine ⟨c, hc, ?_⟩
    rw [encode_four_iff.2 ⟨hb, h₁, h₂, h₃, by omega⟩]
    rfl

/-- The first byte of a character announces the others, and they complete it. -/
theorem exists_lead_of_encode (c : Char) (rest : List UInt8) :
    ∃ b others lead, String.utf8EncodeChar c = b :: others ∧ lead? b.toNat = some lead ∧
      follow lead.owed lead.low lead.high lead.bits 1 (others ++ rest) = .ok c.toNat ∧
      (others ++ rest).drop lead.owed = rest := by
  rcases encode_cases c with ⟨b, h⟩ | ⟨b, b₁, h⟩ | ⟨b, b₁, b₂, h⟩ | ⟨b, b₁, b₂, b₃, h⟩
  · obtain ⟨hb, hcode⟩ := encode_one_iff.1 h
    refine ⟨b, _, _, h, lead?_eq_some_iff.2 (.inl ⟨hb, rfl⟩), ?_, rfl⟩
    exact follow_zero_eq_ok_iff.2 hcode.symm
  · obtain ⟨hb, h₁, hcode⟩ := encode_two_iff.1 h
    refine ⟨b, _, _, h, lead?_eq_some_iff.2 (.inr (.inl ⟨hb, rfl⟩)), ?_, rfl⟩
    simp only [follow_succ_eq_ok_iff, follow_zero_eq_ok_iff]
    exact ⟨b₁, rest, rfl, h₁, hcode.symm⟩
  · obtain ⟨hb, h₁, h₂, hcode⟩ := encode_three_iff.1 h
    refine ⟨b, _, _, h, lead?_eq_some_iff.2 (.inr (.inr (.inl ⟨hb, rfl⟩))), ?_, rfl⟩
    simp only [follow_succ_eq_ok_iff, follow_zero_eq_ok_iff]
    exact ⟨b₁, _, rfl, h₁, b₂, rest, rfl, h₂, hcode.symm⟩
  · obtain ⟨hb, h₁, h₂, h₃, hcode⟩ := encode_four_iff.1 h
    refine ⟨b, _, _, h, lead?_eq_some_iff.2 (.inr (.inr (.inr ⟨hb, rfl⟩))), ?_, rfl⟩
    simp only [follow_succ_eq_ok_iff, follow_zero_eq_ok_iff]
    exact ⟨b₁, _, rfl, h₁, b₂, _, rfl, h₂, b₃, rest, rfl, h₃, hcode.symm⟩

/-! ## Texts -/

/-- Characters are encoded one after the other. -/
theorem encode_cons (c : Char) (chars : List Char) :
    encode (c :: chars) = String.utf8EncodeChar c ++ encode chars := rfl

/-- Bytes that are decoded are the encoding of their characters. -/
theorem encode_of_decodeFrom {position : Nat} {chars : List Char}
    (h : decodeFrom position bytes = .ok chars) : bytes = encode chars := by
  fun_induction decodeFrom position bytes generalizing chars with
  | case1 =>
      cases h
      rfl
  | case2 => cases h
  | case3 => cases h
  | case4 position b rest lead hlead code hfollow ih =>
      cases hothers : decodeFrom (position + 1 + lead.owed) (rest.drop lead.owed) with
      | error fault => simp [hothers, bind, Except.bind] at h
      | ok others =>
          simp only [hothers, bind, Except.bind, pure, Except.pure, Except.ok.injEq] at h
          obtain ⟨c, rfl, hbytes⟩ := exists_encode_of_follow hlead hfollow
          rw [← h, hbytes, ih hothers, encode_cons, Char.ofNat_toNat]

/-- The encoding of characters is decoded as them. -/
theorem decodeFrom_encode (position : Nat) (chars : List Char) :
    decodeFrom position (encode chars) = .ok chars := by
  induction chars generalizing position with
  | nil => rw [encode, List.flatMap_nil, decodeFrom]
  | cons c chars ih =>
      obtain ⟨b, others, lead, hencode, hlead, hfollow, hdrop⟩ :=
        exists_lead_of_encode c (encode chars)
      rw [encode_cons, hencode, List.cons_append, decodeFrom]
      simp only [hlead, hfollow, hdrop, ih, Char.ofNat_toNat]
      rfl

/-- Bytes are read as characters exactly if they are the encoding of these characters. -/
theorem decode_eq_ok_iff {chars : List Char} :
    decode bytes = .ok chars ↔ bytes = encode chars := by
  constructor
  · exact encode_of_decodeFrom
  · rintro rfl
    exact decodeFrom_encode 0 chars

end StoryLint.Text.Utf8
