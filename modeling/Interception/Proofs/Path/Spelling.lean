import Interception.Proofs.Path.Percent
import Interception.Proofs.Path.Segments
import Mathlib.Data.List.Forall2

/-!
# Spellings of a path

A text can be spelled in many ways in a raw path: any of its bytes may be written as an escape, and
some of them have to be. Parameters may follow every segment, and a query or a fragment the whole.

All spellings of a path have one lookup path. The four passes of `Lookup` undo the spelling from
the outside to the inside: what is cut off at a question mark or number sign cannot belong to a
segment, since those characters are always escaped; the same holds of semicolons and slashes; and
what is left decodes to the text, slashes that were escaped included.
-/

namespace Interception.Path

open Text Percent

/-- The characters that cannot stand for themselves in a segment. -/
def reserved : List Char := ['%', ';', '?', '#', '/']

def lowerDigits : List Char :=
  ['0', '1', '2', '3', '4', '5', '6', '7', '8', '9', 'a', 'b', 'c', 'd', 'e', 'f']

def upperDigits : List Char :=
  ['0', '1', '2', '3', '4', '5', '6', '7', '8', '9', 'A', 'B', 'C', 'D', 'E', 'F']

/-- Whether a character is the hexadecimal digit of a value, in either case. -/
def IsHexDigit (c : Char) (value : Nat) : Prop :=
  lowerDigits[value]? = some c ∨ upperDigits[value]? = some c

/-- Whether the second list of bytes writes the first one. Each byte is written as itself or as an
escape; that of a reserved character is always written as an escape. -/
inductive Writes : List UInt8 → List UInt8 → Prop where
  | nil : Writes [] []
  | plain {byte : UInt8} {bytes written : List UInt8} (free : byte ∉ utf8 reserved)
      (rest : Writes bytes written) : Writes (byte :: bytes) (byte :: written)
  | escape {byte : UInt8} {high low : Char} {bytes written : List UInt8}
      (first : IsHexDigit high (byte.toNat / 16)) (second : IsHexDigit low (byte.toNat % 16))
      (rest : Writes bytes written) :
      Writes (byte :: bytes) (utf8 ['%', high, low] ++ written)

/-- Whether a text can follow a segment as its parameters: nothing, or a semicolon and any text
that does not end the segment. -/
def IsParameters (text : List Char) : Prop :=
  text = [] ∨ ∃ rest, text = ';' :: rest ∧ ∀ c ∈ rest, c ≠ '/' ∧ c ≠ '?' ∧ c ≠ '#'

/-- Whether a piece of a raw path spells a text: it writes the bytes of the text, and parameters
may follow. -/
def Spells (text piece : List Char) : Prop :=
  ∃ written parameters, piece = written ++ parameters ∧ Writes (utf8 text) (utf8 written) ∧
    IsParameters parameters

/-- Whether a text can follow the segments of a raw path: nothing, or a query or a fragment. -/
def IsTail (text : List Char) : Prop :=
  text = [] ∨ ∃ c rest, text = c :: rest ∧ (c = '?' ∨ c = '#')

/-! ## Escapes -/

theorem lt_of_mem_reserved {c : Char} (h : c ∈ reserved) : c.toNat < 128 := by
  have ascii : reserved.all fun c => c.toNat < 128 := by decide
  simpa using List.all_eq_true.mp ascii c h

/-- A digit has the value that it was chosen for, and stands for itself in a raw path. -/
theorem IsHexDigit.spec {c : Char} {value : Nat} (h : IsHexDigit c value) :
    hexValue? c = some value ∧ c.toNat < 128 ∧ c ∉ reserved := by
  have lower : ∀ i : Fin 16, hexValue? lowerDigits[i] = some i.val ∧
      lowerDigits[i].toNat < 128 ∧ lowerDigits[i] ∉ reserved := by decide
  have upper : ∀ i : Fin 16, hexValue? upperDigits[i] = some i.val ∧
      upperDigits[i].toNat < 128 ∧ upperDigits[i] ∉ reserved := by decide
  rcases h with h | h
  · obtain ⟨bound, rfl⟩ := List.getElem?_eq_some_iff.mp h
    exact lower ⟨value, bound⟩
  · obtain ⟨bound, rfl⟩ := List.getElem?_eq_some_iff.mp h
    exact upper ⟨value, bound⟩

theorem byte?_of_isHexDigit {high low : Char} {byte : UInt8}
    (first : IsHexDigit high (byte.toNat / 16)) (second : IsHexDigit low (byte.toNat % 16)) :
    byte? high low = some byte := by
  rw [byte?, first.spec.1, second.spec.1]
  have value : byte.toNat / 16 * 16 + byte.toNat % 16 = byte.toNat := by omega
  simp only [value, UInt8.ofNat_toNat]

/-! ## Written bytes decode -/

/-- Bytes without a percent sign are written as themselves. -/
theorem writes_append_inv {plain bytes written : List UInt8}
    (free : UInt8.ofNat '%'.toNat ∉ plain) (h : Writes bytes (plain ++ written)) :
    ∃ others, bytes = plain ++ others ∧ Writes others written := by
  induction plain generalizing bytes with
  | nil => exact ⟨bytes, rfl, h⟩
  | cons byte plain ih =>
      obtain ⟨ne, free⟩ := not_or.mp (List.mem_cons.not.mp free)
      generalize hw : byte :: plain ++ written = all at h
      cases h with
      | nil => cases hw
      | plain _ rest =>
          obtain ⟨rfl, rfl⟩ := List.cons.inj hw
          obtain ⟨others, rfl, writes⟩ := ih free rest
          exact ⟨others, rfl, writes⟩
      | escape _ _ _ => exact absurd (List.cons.inj hw).1.symm ne

/-- A percent sign in a text that writes bytes has its two digits after it. -/
theorem writes_percent_inv {bytes : List UInt8} {text : List Char}
    (h : Writes bytes (utf8 ('%' :: text))) :
    ∃ high low byte rest others, text = high :: low :: rest ∧ bytes = byte :: others ∧
      byte? high low = some byte ∧ Writes others (utf8 rest) := by
  generalize hw : utf8 ('%' :: text) = all at h
  cases h with
  | nil => cases hw
  | plain free _ =>
      have percent := (List.cons.inj hw).1
      exact absurd (by rw [← percent]; decide) free
  | @escape byte high low others written first second writes =>
      have after : utf8 text = UInt8.ofNat high.toNat :: UInt8.ofNat low.toNat :: written := by
        rw [utf8_cons_of_lt (by decide), utf8_cons_of_lt (by decide),
          utf8_cons_of_lt first.spec.2.1, utf8_cons_of_lt second.spec.2.1] at hw
        exact (List.cons.inj hw).2
      obtain ⟨tail, rfl, afterHigh⟩ := exists_of_utf8_eq_cons first.spec.2.1 after
      obtain ⟨rest, rfl, rfl⟩ := exists_of_utf8_eq_cons second.spec.2.1 afterHigh
      exact ⟨high, low, byte, rest, others, rfl, rfl, byte?_of_isHexDigit first second, writes⟩

/-- A text that writes the bytes stands for them. The text is read character by character, which
agrees with the bytes because a percent sign is one byte and never part of another character. -/
theorem decodes_of_writes {bytes : List UInt8} {written : List Char}
    (h : Writes bytes (utf8 written)) : Decodes written bytes := by
  generalize hn : written.length = n
  induction n using Nat.strongRecOn generalizing bytes written with
  | ind n ih =>
      subst hn
      cases written with
      | nil =>
          cases h
          exact .nil
      | cons c text =>
          by_cases hc : c = '%'
          · subst hc
            obtain ⟨high, low, byte, rest, others, rfl, rfl, digits, writes⟩ :=
              writes_percent_inv h
            refine .escape digits (ih rest.length ?_ writes rfl)
            simp only [List.length_cons]
            omega
          · have free : UInt8.ofNat '%'.toNat ∉ String.utf8EncodeChar c := fun mem =>
              hc (eq_of_mem_utf8EncodeChar (by decide) mem)
            obtain ⟨others, rfl, writes⟩ := writes_append_inv free h
            exact .plain hc (ih text.length (Nat.lt_succ_self _) writes rfl)

/-! ## What a spelling keeps out of the way of the other passes -/

/-- No byte that writes another one is a character at which a raw path is cut. -/
theorem notMem_of_writes {c : Char} (hc : c ∈ reserved) (ne : c ≠ '%')
    {bytes : List UInt8} {written : List UInt8} (h : Writes bytes written) :
    UInt8.ofNat c.toNat ∉ written := by
  have ascii : c.toNat < 128 := lt_of_mem_reserved hc
  induction h with
  | nil => exact List.not_mem_nil
  | plain free _ ih =>
      refine List.not_mem_cons_of_ne_of_not_mem ?_ ih
      rintro rfl
      exact free ((mem_utf8_iff ascii).mpr hc)
  | escape first second _ ih =>
      intro mem
      rcases List.mem_append.mp mem with mem | mem
      · have mem := (mem_utf8_iff ascii).mp mem
        simp only [List.mem_cons, List.not_mem_nil, or_false] at mem
        rcases mem with rfl | rfl | rfl
        · exact ne rfl
        · exact first.spec.2.2 hc
        · exact second.spec.2.2 hc
      · exact ih mem

theorem ne_of_mem_written {c d : Char} (hd : d ∈ reserved) (ne : d ≠ '%') {bytes : List UInt8}
    {written : List Char} (h : Writes bytes (utf8 written)) (mem : c ∈ written) : c ≠ d := by
  rintro rfl
  exact notMem_of_writes hd ne h ((mem_utf8_iff (lt_of_mem_reserved hd)).mpr mem)

variable {text piece : List Char}

/-- A piece that spells a text ends neither the segment nor the path. -/
theorem Spells.forall_ne (h : Spells text piece) : ∀ c ∈ piece, c ≠ '/' ∧ c ≠ '?' ∧ c ≠ '#' := by
  obtain ⟨written, parameters, rfl, writes, params⟩ := h
  intro c mem
  rcases List.mem_append.mp mem with mem | mem
  · exact ⟨ne_of_mem_written (by decide) (by decide) writes mem,
      ne_of_mem_written (by decide) (by decide) writes mem,
      ne_of_mem_written (by decide) (by decide) writes mem⟩
  · rcases params with rfl | ⟨rest, rfl, free⟩
    · cases mem
    · rcases List.mem_cons.mp mem with rfl | mem
      · decide
      · exact free c mem

/-- Without its parameters a piece stands for the bytes of the text that it spells. -/
theorem Spells.decodes (h : Spells text piece) :
    Decodes (before (· == ';') piece) (utf8 text) := by
  obtain ⟨written, parameters, rfl, writes, params⟩ := h
  have free : ∀ c ∈ written, (c == ';') = false := by
    intro c mem
    exact beq_false_of_ne (ne_of_mem_written (by decide) (by decide) writes mem)
  have cut : before (· == ';') (written ++ parameters) = written := by
    rcases params with rfl | ⟨rest, rfl, _⟩
    · rw [List.append_nil, before_of_forall_not free]
    · exact before_append_cons free rfl
  rw [cut]
  exact decodes_of_writes writes

/-! ## Whole paths -/

variable {texts pieces : List (List Char)}

theorem forall_ne_of_mem_pieces (h : List.Forall₂ Spells texts pieces) :
    ∀ piece ∈ pieces, ∀ c ∈ piece, c ≠ '/' ∧ c ≠ '?' ∧ c ≠ '#' := by
  induction h with
  | nil => simp
  | cons head _ ih => exact List.forall_mem_cons.mpr ⟨head.forall_ne, ih⟩

/-- Pieces that stand for texts still do so when both are joined. -/
theorem decodes_joined (h : List.Forall₂ (fun text written => Decodes written (utf8 text))
    texts pieces) : Decodes (joined '/' pieces) (utf8 (joined '/' texts)) := by
  induction h with
  | nil => exact .nil
  | @cons text written texts pieces head tail ih =>
      cases tail with
      | nil => exact head
      | cons next others =>
          rw [joined_cons_cons, joined_cons_cons, utf8_append]
          exact head.append (.plain (by decide) ih)

/-- Cutting off the parameters leaves text that decodes to the texts that were spelled. -/
theorem decode?_dropParameters (ne : texts ≠ []) (h : List.Forall₂ Spells texts pieces) :
    decode? (dropParameters (joined '/' pieces)) = some (joined '/' texts) := by
  have hp : pieces ≠ [] := by
    rintro rfl
    cases h
    exact ne rfl
  have no_slash : ∀ piece ∈ pieces, '/' ∉ piece := fun piece mem slash =>
    (forall_ne_of_mem_pieces h piece mem '/' slash).1 rfl
  rw [dropParameters, pieces_joined hp no_slash]
  refine decode?_of_decodes (decodes_joined ?_)
  rw [List.forall₂_map_right_iff]
  exact h.imp fun _ _ spells => spells.decodes

/-- The path of a raw path ends where its query or fragment begins. -/
theorem before_joined_append {tail : List Char} (h : List.Forall₂ Spells texts pieces)
    (ht : IsTail tail) :
    before (fun c => c == '?' || c == '#') (joined '/' pieces ++ tail) = joined '/' pieces := by
  have free : ∀ c ∈ joined '/' pieces, (c == '?' || c == '#') = false := by
    intro c mem
    rcases mem_of_mem_joined mem with rfl | ⟨piece, mem, hc⟩
    · rfl
    · obtain ⟨_, query, fragment⟩ := forall_ne_of_mem_pieces h piece mem c hc
      rw [beq_false_of_ne query, beq_false_of_ne fragment, Bool.false_or]
  rcases ht with rfl | ⟨c, rest, rfl, hc⟩
  · rw [List.append_nil, before_of_forall_not free]
  · exact before_append_cons free (by rcases hc with rfl | rfl <;> rfl)

/-- All spellings of a path have one lookup path: the normal form of the texts that the segments
spell, joined by slashes. -/
theorem lookupPath_of_spells (texts pieces : List (List Char)) (tail : List Char)
    (ne : texts ≠ []) (h : List.Forall₂ Spells texts pieces) (ht : IsTail tail) :
    Lookup.default.lookupPath (joined '/' pieces ++ tail) = normalForm (joined '/' texts) := by
  have plain : Lookup.default.plainPath (joined '/' pieces ++ tail) = joined '/' texts := by
    rw [Lookup.plainPath, before_joined_append h ht]
    change (decode? (dropParameters (joined '/' pieces))).getD _ = _
    rw [decode?_dropParameters ne h, Option.getD_some]
  change Lookup.default.fullPath _ = _
  rw [Lookup.fullPath, plain, normalize_eq_normalForm]

/-- Parameters that do not decode, escapes in either case, and a slash that is part of a text. -/
theorem lookupPath_of_spells_escapes :
    Lookup.default.lookupPath "a;%FF/%C3%a9%2f?q".toList = "/a/é/".toList := by
  have first : Spells ['a'] ['a', ';', '%', 'F', 'F'] :=
    ⟨['a'], [';', '%', 'F', 'F'], rfl, .plain (by decide) .nil,
      .inr ⟨['%', 'F', 'F'], rfl, by simp⟩⟩
  have slash : Writes [0x2f] (utf8 ['%', '2', 'f'] ++ []) := .escape (.inl rfl) (.inl rfl) .nil
  have trail : Writes [0xa9, 0x2f] (utf8 ['%', 'a', '9'] ++ (utf8 ['%', '2', 'f'] ++ [])) :=
    .escape (.inl rfl) (.inl rfl) slash
  have lead : Writes [0xc3, 0xa9, 0x2f]
      (utf8 ['%', 'C', '3'] ++ (utf8 ['%', 'a', '9'] ++ (utf8 ['%', '2', 'f'] ++ []))) :=
    .escape (.inr rfl) (.inl rfl) trail
  have second : Spells ['é', '/'] ['%', 'C', '3', '%', 'a', '9', '%', '2', 'f'] :=
    ⟨_, [], (List.append_nil _).symm, lead, .inl rfl⟩
  have tail : IsTail ['?', 'q'] := .inr ⟨'?', ['q'], rfl, .inl rfl⟩
  have spelled := lookupPath_of_spells [['a'], ['é', '/']]
    [['a', ';', '%', 'F', 'F'], ['%', 'C', '3', '%', 'a', '9', '%', '2', 'f']] ['?', 'q']
    (List.cons_ne_nil _ _) (.cons first (.cons second .nil)) tail
  have raw : joined '/' [['a', ';', '%', 'F', 'F'],
      ['%', 'C', '3', '%', 'a', '9', '%', '2', 'f']] ++ ['?', 'q'] =
        "a;%FF/%C3%a9%2f?q".toList := by decide
  have normal : normalForm (joined '/' [['a'], ['é', '/']]) = "/a/é/".toList := by decide
  rwa [raw, normal] at spelled

end Interception.Path
