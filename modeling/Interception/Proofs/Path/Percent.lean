import Interception.Path.Percent
import Mathlib.Data.List.Basic

/-!
# Bytes and percent-encoded text

What a percent-encoded text stands for can be read off piece by piece as long as no piece ends in
the middle of an escape. `Decodes` says this as a relation on texts and bytes, and `bytes` computes
it.

All of this rests on one fact about UTF-8: a byte below 128 is the whole encoding of its character,
so that such a byte is never part of a longer encoding.
-/

namespace Interception.Percent

/-- The UTF-8 bytes of a text. -/
def utf8 (text : List Char) : List UInt8 := text.flatMap String.utf8EncodeChar

@[simp] theorem utf8_nil : utf8 [] = [] := rfl

@[simp] theorem utf8_cons (c : Char) (text : List Char) :
    utf8 (c :: text) = String.utf8EncodeChar c ++ utf8 text := rfl

@[simp] theorem utf8_append (left right : List Char) :
    utf8 (left ++ right) = utf8 left ++ utf8 right := List.flatMap_append

/-- Reading the bytes of a text gives the text. -/
theorem ofUtf8?_utf8 (text : List Char) : ofUtf8? (utf8 text) = some text := by
  have bytes : (⟨(utf8 text).toArray⟩ : ByteArray) = text.utf8Encode := by
    rw [List.utf8Encode]
    exact ByteArray.ext (by simp [utf8])
  have read : String.fromUTF8? text.utf8Encode = some (String.ofList text) := by
    rw [String.fromUTF8?, dif_pos ByteArray.isValidUTF8_utf8Encode]
    rfl
  rw [ofUtf8?, bytes, read, Option.map_some, String.toList_ofList]

/-! ## Bytes below 128 -/

theorem utf8EncodeChar_of_lt {c : Char} (h : c.toNat < 128) :
    String.utf8EncodeChar c = [UInt8.ofNat c.toNat] :=
  if_pos (Nat.le_of_lt_succ h)

theorem le_of_mem_utf8EncodeChar {c : Char} (h : 128 ≤ c.toNat) {byte : UInt8}
    (mem : byte ∈ String.utf8EncodeChar c) : 128 ≤ byte.toNat := by
  have hv : ¬ c.val.toNat ≤ 127 := Nat.not_le.mpr h
  rw [String.utf8EncodeChar, if_neg hv] at mem
  split_ifs at mem <;> simp only [List.mem_cons, List.not_mem_nil, or_false] at mem
  · rcases mem with rfl | rfl <;> rw [UInt8.toNat_ofNat'] <;> omega
  · rcases mem with rfl | rfl | rfl <;> rw [UInt8.toNat_ofNat'] <;> omega
  · rcases mem with rfl | rfl | rfl | rfl <;> rw [UInt8.toNat_ofNat'] <;> omega

/-- The character with a byte below 128 in its encoding has no other bytes. -/
theorem eq_of_mem_utf8EncodeChar {c d : Char} (hd : d.toNat < 128)
    (mem : UInt8.ofNat d.toNat ∈ String.utf8EncodeChar c) : c = d := by
  have value : (UInt8.ofNat d.toNat).toNat = d.toNat := by
    rw [UInt8.toNat_ofNat']
    omega
  by_cases hc : c.toNat < 128
  · rw [utf8EncodeChar_of_lt hc, List.mem_singleton] at mem
    have same : d.toNat = c.toNat := by
      have toNat := congrArg UInt8.toNat mem
      rw [UInt8.toNat_ofNat', UInt8.toNat_ofNat'] at toNat
      omega
    exact Char.ext (UInt32.toNat_inj.mp same.symm)
  · have := le_of_mem_utf8EncodeChar (Nat.le_of_not_lt hc) mem
    omega

theorem utf8_cons_of_lt {c : Char} (h : c.toNat < 128) (text : List Char) :
    utf8 (c :: text) = UInt8.ofNat c.toNat :: utf8 text := by
  rw [utf8_cons, utf8EncodeChar_of_lt h]
  rfl

theorem mem_utf8_iff {c : Char} {text : List Char} (hc : c.toNat < 128) :
    UInt8.ofNat c.toNat ∈ utf8 text ↔ c ∈ text := by
  constructor
  · intro mem
    obtain ⟨d, hd, mem⟩ := List.mem_flatMap.mp mem
    rwa [← eq_of_mem_utf8EncodeChar hc mem]
  · intro mem
    refine List.mem_flatMap.mpr ⟨c, mem, ?_⟩
    rw [utf8EncodeChar_of_lt hc]
    exact List.mem_singleton_self _

/-- A text whose bytes begin with the byte of an ASCII character begins with that character. -/
theorem exists_of_utf8_eq_cons {c : Char} {text : List Char} {rest : List UInt8}
    (hc : c.toNat < 128) (h : utf8 text = UInt8.ofNat c.toNat :: rest) :
    ∃ others, text = c :: others ∧ utf8 others = rest := by
  cases text with
  | nil => cases h
  | cons first others =>
      obtain ⟨byte, bytes, encoded⟩ :=
        List.exists_cons_of_ne_nil (String.utf8EncodeChar_ne_nil (c := first))
      rw [utf8_cons, encoded, List.cons_append] at h
      obtain ⟨rfl, tail⟩ := List.cons.inj h
      obtain rfl : first = c := by
        refine eq_of_mem_utf8EncodeChar hc ?_
        rw [encoded]
        exact List.mem_cons_self
      rw [utf8EncodeChar_of_lt hc] at encoded
      obtain ⟨_, rfl⟩ := List.cons.inj encoded
      exact ⟨others, rfl, tail⟩

/-! ## Decoding -/

/-- Whether a text stands for the bytes, where no escape is cut off at its end. -/
inductive Decodes : List Char → List UInt8 → Prop where
  | nil : Decodes [] []
  | plain {c : Char} {text : List Char} {bytes : List UInt8} (ne : c ≠ '%')
      (rest : Decodes text bytes) : Decodes (c :: text) (String.utf8EncodeChar c ++ bytes)
  | escape {high low : Char} {byte : UInt8} {text : List Char} {bytes : List UInt8}
      (digits : byte? high low = some byte) (rest : Decodes text bytes) :
      Decodes ('%' :: high :: low :: text) (byte :: bytes)

theorem Decodes.append {left right : List Char} {first second : List UInt8}
    (h : Decodes left first) (next : Decodes right second) :
    Decodes (left ++ right) (first ++ second) := by
  induction h with
  | nil => exact next
  | plain ne _ ih =>
      rw [List.append_assoc]
      exact .plain ne ih
  | escape digits _ ih => exact .escape digits ih

theorem bytes_of_decodes {text : List Char} {result : List UInt8} (h : Decodes text result) :
    bytes text = result := by
  induction h with
  | nil => rfl
  | @plain c text result ne _ ih =>
      rw [← ih, bytes]
      intro _ _ _ eq
      exact absurd eq ne
  | escape digits _ ih => rw [bytes, digits, ih]

/-- A text that stands for the bytes of another text decodes to it. -/
theorem decode?_of_decodes {written text : List Char} (h : Decodes written (utf8 text)) :
    decode? written = some text := by
  rw [decode?, bytes_of_decodes h, ofUtf8?_utf8]

end Interception.Percent
