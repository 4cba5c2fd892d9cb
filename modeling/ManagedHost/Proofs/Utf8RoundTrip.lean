import ManagedHost.Text.Utf8
import Mathlib.Data.List.TakeWhile
import Mathlib.Tactic.SplitIfs

/-! # Text survives its bytes

The bytes of a text read back as that text (`decode_encode`), and they hold no zero byte unless the
text holds a NUL (`encode_ne_zero`), so a text that is passed as bytes up to the first zero byte
arrives whole. There is one lemma for each width of a character. -/

namespace ManagedHost.Text.Utf8

theorem toNat_ofNat {n : Nat} (h : n < 256) : (UInt8.ofNat n).toNat = n := by
  simp [Nat.mod_eq_of_lt h]

theorem char_range (c : Char) : c.toNat < 0xd800 ∨ 0xdfff < c.toNat ∧ c.toNat < 0x110000 :=
  c.valid

theorem isContinuation_ofNat {n : Nat} (h : n < 64) :
    isContinuation (UInt8.ofNat (0x80 + n)) = true := by
  rw [isContinuation, toNat_ofNat (by omega)]
  simp
  omega

/-! ## Reading the first character -/

theorem decodeFirst_one {n : Nat} (h : n < 0x80) (rest : List UInt8) :
    decodeFirst (UInt8.ofNat n) rest = .ok (Char.ofNat n, 1) := by
  simp only [decodeFirst, toNat_ofNat (show n < 256 by omega), if_pos h]

theorem decodeFirst_two {n : Nat} (low : 0x80 ≤ n) (high : n < 0x800) (rest : List UInt8) :
    decodeFirst (UInt8.ofNat (0xc0 + n / 64)) (UInt8.ofNat (0x80 + n % 64) :: rest) =
      .ok (Char.ofNat n, 2) := by
  have lead : 0xc2 ≤ 0xc0 + n / 64 ∧ 0xc0 + n / 64 ≤ 0xdf := by omega
  have value : (0xc0 + n / 64 - 0xc0) * 64 + (0x80 + n % 64 - 0x80) = n := by omega
  simp only [decodeFirst, toNat_ofNat (show 0xc0 + n / 64 < 256 by omega),
    toNat_ofNat (show 0x80 + n % 64 < 256 by omega),
    isContinuation_ofNat (show n % 64 < 64 by omega), value]
  rw [if_neg (by omega), if_pos (by simpa using lead)]
  rfl

theorem decodeFirst_three {n : Nat} (low : 0x800 ≤ n) (high : n < 0x10000)
    (noSurrogate : n < 0xd800 ∨ 0xdfff < n) (rest : List UInt8) :
    decodeFirst (UInt8.ofNat (0xe0 + n / 4096))
      (UInt8.ofNat (0x80 + n / 64 % 64) :: UInt8.ofNat (0x80 + n % 64) :: rest) =
      .ok (Char.ofNat n, 3) := by
  have lead : 0xe0 ≤ 0xe0 + n / 4096 ∧ 0xe0 + n / 4096 ≤ 0xef := by omega
  have second : secondAllowed (UInt8.ofNat (0xe0 + n / 4096))
      (UInt8.ofNat (0x80 + n / 64 % 64)) = true := by
    simp only [secondAllowed, toNat_ofNat (show 0xe0 + n / 4096 < 256 by omega),
      toNat_ofNat (show 0x80 + n / 64 % 64 < 256 by omega)]
    split_ifs <;> rw [Bool.and_eq_true, decide_eq_true_iff, decide_eq_true_iff] <;> omega
  have value : (0xe0 + n / 4096 - 0xe0) * 4096 + (0x80 + n / 64 % 64 - 0x80) * 64 +
      (0x80 + n % 64 - 0x80) = n := by omega
  simp only [decodeFirst, toNat_ofNat (show 0xe0 + n / 4096 < 256 by omega),
    toNat_ofNat (show 0x80 + n / 64 % 64 < 256 by omega),
    toNat_ofNat (show 0x80 + n % 64 < 256 by omega), second,
    isContinuation_ofNat (show n % 64 < 64 by omega), value]
  rw [if_neg (by omega), if_neg (by simp; omega), if_pos (by simpa using lead)]
  rfl

theorem decodeFirst_four {n : Nat} (low : 0x10000 ≤ n) (high : n < 0x110000)
    (rest : List UInt8) :
    decodeFirst (UInt8.ofNat (0xf0 + n / 262144))
      (UInt8.ofNat (0x80 + n / 4096 % 64) :: UInt8.ofNat (0x80 + n / 64 % 64) ::
        UInt8.ofNat (0x80 + n % 64) :: rest) =
      .ok (Char.ofNat n, 4) := by
  have lead : 0xf0 ≤ 0xf0 + n / 262144 ∧ 0xf0 + n / 262144 ≤ 0xf4 := by omega
  have second : secondAllowed (UInt8.ofNat (0xf0 + n / 262144))
      (UInt8.ofNat (0x80 + n / 4096 % 64)) = true := by
    simp only [secondAllowed, toNat_ofNat (show 0xf0 + n / 262144 < 256 by omega),
      toNat_ofNat (show 0x80 + n / 4096 % 64 < 256 by omega)]
    split_ifs <;> rw [Bool.and_eq_true, decide_eq_true_iff, decide_eq_true_iff] <;> omega
  have value : (0xf0 + n / 262144 - 0xf0) * 262144 + (0x80 + n / 4096 % 64 - 0x80) * 4096 +
      (0x80 + n / 64 % 64 - 0x80) * 64 + (0x80 + n % 64 - 0x80) = n := by omega
  simp only [decodeFirst, toNat_ofNat (show 0xf0 + n / 262144 < 256 by omega),
    toNat_ofNat (show 0x80 + n / 4096 % 64 < 256 by omega),
    toNat_ofNat (show 0x80 + n / 64 % 64 < 256 by omega),
    toNat_ofNat (show 0x80 + n % 64 < 256 by omega), second,
    isContinuation_ofNat (show n / 64 % 64 < 64 by omega),
    isContinuation_ofNat (show n % 64 < 64 by omega), value]
  rw [if_neg (by omega), if_neg (by simp; omega), if_neg (by simp; omega),
    if_pos (by simpa using lead)]
  rfl

theorem decodeFirst_encodeChar (c : Char) (rest : List UInt8) :
    ∃ first more, encodeChar c = first :: more ∧
      decodeFirst first (more ++ rest) = .ok (c, more.length + 1) := by
  have range := char_range c
  have back : Char.ofNat c.toNat = c := Char.ofNat_toNat c
  simp only [encodeChar]
  generalize c.toNat = n at range back
  subst back
  split_ifs with one two three
  · exact ⟨_, _, rfl, decodeFirst_one one rest⟩
  · exact ⟨_, _, rfl, decodeFirst_two (by omega) two rest⟩
  · exact ⟨_, _, rfl, decodeFirst_three (by omega) three (by omega) rest⟩
  · exact ⟨_, _, rfl, decodeFirst_four (by omega) (by omega) rest⟩

/-! ## Reading a text -/

theorem decodeFrom_encode (cs : List Char) (rounds index : Nat)
    (enough : (cs.flatMap encodeChar).length ≤ rounds) :
    decodeFrom rounds index (cs.flatMap encodeChar) = .ok cs := by
  induction cs generalizing rounds index with
  | nil => cases rounds <;> rfl
  | cons c cs ih =>
    obtain ⟨first, more, bytes, decoded⟩ := decodeFirst_encodeChar c (cs.flatMap encodeChar)
    rw [List.flatMap_cons, bytes] at enough ⊢
    cases rounds with
    | zero => simp at enough
    | succ rounds =>
      have short : (cs.flatMap encodeChar).length ≤ rounds := by
        simp only [List.length_append, List.length_cons] at enough
        omega
      have dropped : (more ++ cs.flatMap encodeChar).drop (more.length + 1 - 1) =
          cs.flatMap encodeChar := by
        rw [Nat.add_sub_cancel, List.drop_left]
      rw [List.cons_append, decodeFrom, decoded]
      simp only [dropped, ih rounds _ short]

/-- The bytes of a text are read as that text. -/
theorem decode_encode (text : String) : decode (encode text) = .ok text := by
  rw [decode, encode, decodeFrom_encode _ _ _ (Nat.le_refl _)]
  simp [Except.map]

theorem ofNat_ne_zero {n : Nat} (small : n < 256) (h : n ≠ 0) : UInt8.ofNat n ≠ 0 := by
  intro zero
  have same := toNat_ofNat small
  rw [zero] at same
  exact h same.symm

theorem encodeChar_ne_zero {c : Char} (h : c ≠ '\x00') : ∀ b ∈ encodeChar c, b ≠ 0 := by
  have positive : c.toNat ≠ 0 := by
    intro zero
    apply h
    rw [← Char.ofNat_toNat c, zero]
  have range := char_range c
  intro b hb
  simp only [encodeChar] at hb
  generalize c.toNat = n at positive range hb
  split_ifs at hb <;> simp only [List.mem_cons, List.not_mem_nil, or_false] at hb
  · subst hb
    exact ofNat_ne_zero (by omega) positive
  · rcases hb with rfl | rfl <;> exact ofNat_ne_zero (by omega) (by omega)
  · rcases hb with rfl | rfl | rfl <;> exact ofNat_ne_zero (by omega) (by omega)
  · rcases hb with rfl | rfl | rfl | rfl <;> exact ofNat_ne_zero (by omega) (by omega)

/-- Only a NUL is written with a zero byte. -/
theorem encode_ne_zero {text : String} (h : '\x00' ∉ text.toList) : ∀ b ∈ encode text, b ≠ 0 := by
  intro b hb
  obtain ⟨c, hc, hbc⟩ := List.mem_flatMap.mp hb
  exact encodeChar_ne_zero (fun same => h (same ▸ hc)) b hbc

/-- A text without a NUL is all there is before the first zero byte. -/
theorem takeWhile_encode {text : String} (h : '\x00' ∉ text.toList) :
    (encode text).takeWhile (· ≠ 0) = encode text := by
  rw [List.takeWhile_eq_self_iff]
  intro b hb
  exact decide_eq_true (encode_ne_zero h b hb)

end ManagedHost.Text.Utf8
