import Interception.Text
import Mathlib.Data.List.TakeWhile

/-!
# Cutting and joining text

How `pieces` acts on texts that are put together with separators. Cutting is additive over a
separator, so that pieces without separators in them are found again after they were joined.
-/

namespace Interception

/-- What holds of each of the 128 characters holds of the characters of ASCII. -/
theorem forall_ascii {P : Char → Prop} (h : ∀ n < 128, P (Char.ofNat n)) {c : Char}
    (ascii : c.toNat < 128) : P c := by
  have own := h c.toNat ascii
  rwa [Char.ofNat_toNat] at own

end Interception

namespace Interception.Text

variable {separator : Char}

theorem pieces_cons_separator (text : List Char) :
    pieces separator (separator :: text) = [] :: pieces separator text := by
  rw [pieces]
  cases h : pieces separator text with
  | nil => exact absurd h (pieces_ne_nil separator text)
  | cons piece others => exact if_pos rfl

theorem pieces_cons_of_ne {c : Char} {text : List Char} (h : c ≠ separator) :
    pieces separator (c :: text) =
      (c :: (pieces separator text).headD []) :: (pieces separator text).tail := by
  rw [pieces]
  cases pieces separator text with
  | nil => rfl
  | cons piece others => exact if_neg h

/-- The pieces on both sides of a separator are found on their own. -/
theorem pieces_append_separator (left right : List Char) :
    pieces separator (left ++ separator :: right) =
      pieces separator left ++ pieces separator right := by
  induction left with
  | nil => exact pieces_cons_separator right
  | cons c left ih =>
      by_cases hc : c = separator
      · rw [hc, List.cons_append, pieces_cons_separator, pieces_cons_separator, ih,
          List.cons_append]
      · rw [List.cons_append, pieces_cons_of_ne hc, pieces_cons_of_ne hc, ih]
        cases h : pieces separator left with
        | nil => exact absurd h (pieces_ne_nil separator left)
        | cons piece others => rfl

theorem pieces_of_notMem {text : List Char} (h : separator ∉ text) :
    pieces separator text = [text] := by
  induction text with
  | nil => rfl
  | cons c text ih =>
      obtain ⟨hc, ht⟩ := not_or.mp (List.mem_cons.not.mp h)
      rw [pieces_cons_of_ne (Ne.symm hc), ih ht]
      rfl

theorem separator_notMem_of_mem_pieces {text piece : List Char}
    (h : piece ∈ pieces separator text) : separator ∉ piece := by
  induction text generalizing piece with
  | nil =>
      obtain rfl : piece = [] := by simpa [pieces] using h
      exact List.not_mem_nil
  | cons c text ih =>
      by_cases hc : c = separator
      · rw [hc, pieces_cons_separator] at h
        rcases List.mem_cons.mp h with rfl | h
        · exact List.not_mem_nil
        · exact ih h
      · rw [pieces_cons_of_ne hc] at h
        cases hp : pieces separator text with
        | nil => exact absurd hp (pieces_ne_nil separator text)
        | cons first others =>
            rw [hp] at h ih
            rcases List.mem_cons.mp h with rfl | h
            · exact List.not_mem_cons_of_ne_of_not_mem (Ne.symm hc) (ih List.mem_cons_self)
            · exact ih (List.mem_cons_of_mem _ h)

theorem joined_cons_cons (piece other : List Char) (others : List (List Char)) :
    joined separator (piece :: other :: others) =
      piece ++ separator :: joined separator (other :: others) := rfl

/-- Joining and cutting is the identity on pieces that have no separator in them. -/
theorem pieces_joined {texts : List (List Char)} (ne : texts ≠ [])
    (h : ∀ text ∈ texts, separator ∉ text) : pieces separator (joined separator texts) = texts := by
  induction texts with
  | nil => exact absurd rfl ne
  | cons text texts ih =>
      obtain ⟨head, tail⟩ := List.forall_mem_cons.mp h
      cases texts with
      | nil => exact pieces_of_notMem head
      | cons other others =>
          rw [joined_cons_cons, pieces_append_separator, pieces_of_notMem head,
            ih (List.cons_ne_nil _ _) tail, List.singleton_append]

theorem mem_of_mem_joined {c : Char} {texts : List (List Char)} (h : c ∈ joined separator texts) :
    c = separator ∨ ∃ text ∈ texts, c ∈ text := by
  induction texts with
  | nil => cases h
  | cons text texts ih =>
      cases texts with
      | nil => exact .inr ⟨text, List.mem_cons_self, h⟩
      | cons other others =>
          rw [joined_cons_cons] at h
          rcases List.mem_append.mp h with h | h
          · exact .inr ⟨text, List.mem_cons_self, h⟩
          · rcases List.mem_cons.mp h with h | h
            · exact .inl h
            · exact (ih h).imp_right fun ⟨found, mem, hc⟩ =>
                ⟨found, List.mem_cons_of_mem _ mem, hc⟩

theorem infix_joined {text : List Char} {texts : List (List Char)} (mem : text ∈ texts) :
    text <:+: joined separator texts := by
  induction texts with
  | nil => cases mem
  | cons first texts ih =>
      cases texts with
      | nil =>
          obtain rfl := List.mem_singleton.mp mem
          exact List.infix_rfl
      | cons other others =>
          rw [joined_cons_cons]
          obtain rfl | mem := List.mem_cons.mp mem
          · exact (List.prefix_append _ _).isInfix
          · exact (ih mem).trans ((List.suffix_cons separator _).trans
              (List.suffix_append _ _)).isInfix

theorem infix_of_mem_pieces {text piece : List Char} (h : piece ∈ pieces separator text) :
    piece <:+: text := by
  rw [← joined_pieces separator text]
  exact infix_joined h

theorem subset_of_mem_pieces {text piece : List Char} (h : piece ∈ pieces separator text) :
    piece ⊆ text :=
  (infix_of_mem_pieces h).subset

theorem joined_append {front back : List (List Char)} (ne : front ≠ []) (ne' : back ≠ []) :
    joined separator (front ++ back) =
      joined separator front ++ separator :: joined separator back := by
  induction front with
  | nil => exact absurd rfl ne
  | cons piece front ih =>
      cases front with
      | nil =>
          obtain ⟨other, others, rfl⟩ := List.exists_cons_of_ne_nil ne'
          exact joined_cons_cons piece other others
      | cons other front =>
          rw [List.cons_append, List.cons_append, joined_cons_cons, joined_cons_cons,
            ← List.cons_append, ih (List.cons_ne_nil _ _), List.append_assoc, List.cons_append]

theorem joined_concat {front : List (List Char)} (ne : front ≠ []) (last : List Char) :
    joined separator (front ++ [last]) = joined separator front ++ separator :: last :=
  joined_append ne (List.cons_ne_nil last [])

/-- A text begins with a separator if its first piece is empty and not its only one. -/
theorem startsWith_iff_pieces {text : List Char} : startsWith separator text = true ↔
    ∃ rest, rest ≠ [] ∧ pieces separator text = [] :: rest := by
  constructor
  · intro starts
    obtain ⟨rest, rfl⟩ := List.head?_eq_some_iff.mp (eq_of_beq starts)
    exact ⟨_, pieces_ne_nil separator rest, pieces_cons_separator rest⟩
  · rintro ⟨rest, ne, split⟩
    obtain ⟨piece, others, rfl⟩ := List.exists_cons_of_ne_nil ne
    rw [← joined_pieces separator text, split, joined_cons_cons]
    exact beq_self_eq_true _

/-- A text ends with a separator if its last piece is empty and not its only one. -/
theorem endsWith_iff_pieces {text : List Char} : endsWith separator text = true ↔
    ∃ front, front ≠ [] ∧ pieces separator text = front ++ [[]] := by
  constructor
  · intro ends
    obtain ⟨front, rfl⟩ := List.getLast?_eq_some_iff.mp (eq_of_beq ends)
    exact ⟨_, pieces_ne_nil separator front, pieces_append_separator front []⟩
  · rintro ⟨front, ne, split⟩
    rw [← joined_pieces separator text, split, joined_concat ne, endsWith, List.getLast?_concat]
    exact beq_self_eq_true _

theorem endsWith_append {c : Char} (left : List Char) {right : List Char} (ne : right ≠ []) :
    endsWith c (left ++ right) = endsWith c right := by
  rw [endsWith, endsWith, List.getLast?_append, Option.or_of_isSome (List.getLast?_isSome.mpr ne)]

/-! ## Changing characters -/

section Map

variable {f : Char → Char} {text : List Char}

/-- Where characters become separators only if they are some, the pieces become pieces. -/
theorem pieces_map (h : ∀ c ∈ text, f c = separator ↔ c = separator) :
    pieces separator (text.map f) = (pieces separator text).map (List.map f) := by
  induction text with
  | nil => rfl
  | cons c text ih =>
      obtain ⟨own, others⟩ := List.forall_mem_cons.mp h
      rw [List.map_cons]
      by_cases isSeparator : c = separator
      · rw [own.mpr isSeparator, isSeparator, pieces_cons_separator, pieces_cons_separator, ih others]
        rfl
      · rw [pieces_cons_of_ne (own.not.mpr isSeparator), pieces_cons_of_ne isSeparator, ih others]
        cases pieces separator text <;> rfl

theorem startsWith_map (h : ∀ c ∈ text, f c = separator ↔ c = separator) :
    startsWith separator (text.map f) = startsWith separator text := by
  cases text with
  | nil => rfl
  | cons c text => simp [startsWith, h c List.mem_cons_self]

theorem endsWith_map (h : ∀ c ∈ text, f c = separator ↔ c = separator) :
    endsWith separator (text.map f) = endsWith separator text := by
  rw [endsWith, endsWith, List.getLast?_map, Bool.eq_iff_iff]
  cases last : text.getLast? with
  | none => rfl
  | some c => simp [h c (List.mem_of_getLast? last)]

end Map

/-! ## Cutting at the front -/

theorem after?_eq_some_iff {start text rest : List Char} :
    after? start text = some rest ↔ text = start ++ rest := by
  induction start generalizing text with
  | nil => rw [after?, Option.some.injEq, List.nil_append]
  | cons s start ih =>
      cases text with
      | nil => simp [after?]
      | cons c text =>
          rw [after?, List.cons_append, List.cons.injEq]
          split_ifs with same
          · rw [ih, and_iff_right same.symm]
          · exact iff_of_false nofun fun both => same both.1.symm

/-! ## Cutting at the first character of a kind -/

variable {p : Char → Bool}

theorem before_of_forall_not {text : List Char} (h : ∀ c ∈ text, p c = false) :
    before p text = text := by
  rw [before, List.takeWhile_eq_self_iff]
  intro c hc
  simp [h c hc]

theorem not_of_mem_before {text : List Char} {c : Char} (h : c ∈ before p text) : p c = false := by
  simpa using List.mem_takeWhile_imp h

theorem before_subset (text : List Char) : before p text ⊆ text :=
  (List.takeWhile_prefix _).subset

/-- What stands before the first character of a kind, where that character is known. -/
theorem before_append_cons {text rest : List Char} {c : Char} (h : ∀ x ∈ text, p x = false)
    (hc : p c = true) : before p (text ++ c :: rest) = text := by
  rw [before, List.takeWhile_append_of_pos (by simpa using h),
    List.takeWhile_cons_of_neg (by simp [hc]), List.append_nil]

/-! ## Dropping at both ends -/

theorem dropWhile_append_of_head {left right : List Char} (h : ∀ c ∈ right.head?, p c = false) :
    (left ++ right).dropWhile p = left.dropWhile p ++ right := by
  have kept : right.dropWhile p = right := by
    cases right with
    | nil => rfl
    | cons c right => exact List.dropWhile_cons_of_neg (by simpa using h c rfl)
  rw [List.dropWhile_append, kept]
  split_ifs with none
  · rw [List.isEmpty_iff.mp none, List.nil_append]
  · rfl

theorem dropEndWhile_append_of_last {left right : List Char}
    (h : ∀ c ∈ left.getLast?, p c = false) :
    dropEndWhile p (left ++ right) = left ++ dropEndWhile p right := by
  rw [← List.head?_reverse] at h
  simp only [dropEndWhile, List.reverse_append, dropWhile_append_of_head h, List.reverse_reverse]

/-- The text begins and ends with no blank. -/
def IsSolid (text : List Char) : Prop :=
  (∀ c ∈ text.head?, Unicode.Property.whiteSpace.contains c = false) ∧
    ∀ c ∈ text.getLast?, Unicode.Property.whiteSpace.contains c = false

theorem not_of_mem_head?_dropWhile (text : List Char) :
    ∀ c ∈ (text.dropWhile p).head?, p c = false := by
  intro c first
  have own := List.head?_dropWhile_not p text
  rwa [Option.mem_def.mp first] at own

theorem dropEndWhile_prefix (text : List Char) : dropEndWhile p text <+: text := by
  rw [dropEndWhile, ← List.reverse_suffix, List.reverse_reverse]
  exact List.dropWhile_suffix p

theorem isSolid_trim (text : List Char) : IsSolid (trim text) := by
  constructor
  · intro c first
    obtain ⟨rest, own⟩ := List.head?_eq_some_iff.mp first
    have front : trim text <+: text.dropWhile Unicode.Property.whiteSpace.contains :=
      dropEndWhile_prefix _
    obtain ⟨dropped, whole⟩ := front
    apply not_of_mem_head?_dropWhile text
    rw [← whole, own]
    rfl
  · intro c last
    rw [trim, dropEndWhile, List.getLast?_reverse] at last
    exact not_of_mem_head?_dropWhile _ c last

theorem dropWhile_map {f : Char → Char} {text : List Char} (h : ∀ c ∈ text, p (f c) = p c) :
    (text.map f).dropWhile p = (text.dropWhile p).map f := by
  induction text with
  | nil => rfl
  | cons c text ih =>
      obtain ⟨own, others⟩ := List.forall_mem_cons.mp h
      rw [List.map_cons, List.dropWhile_cons, List.dropWhile_cons, own]
      split_ifs
      · exact ih others
      · rfl

/-- Where characters become blanks only if they are some, the trimmed text becomes trimmed. -/
theorem trim_map {f : Char → Char} {text : List Char}
    (h : ∀ c ∈ text, Unicode.Property.whiteSpace.contains (f c) =
      Unicode.Property.whiteSpace.contains c) : trim (text.map f) = (trim text).map f := by
  have rest : ∀ c ∈ (text.dropWhile Unicode.Property.whiteSpace.contains).reverse,
      Unicode.Property.whiteSpace.contains (f c) = Unicode.Property.whiteSpace.contains c := by
    intro c mem
    exact h c ((List.dropWhile_suffix _).subset (List.mem_reverse.mp mem))
  rw [trim, dropWhile_map h, dropEndWhile, ← List.map_reverse, dropWhile_map rest,
    ← List.map_reverse]
  rfl

/-- What trimming takes off at both ends are blanks. -/
theorem exists_blanks_trim (text : List Char) : ∃ left right, text = left ++ trim text ++ right ∧
    (∀ c ∈ left, Unicode.Property.whiteSpace.contains c = true) ∧
    ∀ c ∈ right, Unicode.Property.whiteSpace.contains c = true := by
  let begun := text.dropWhile Unicode.Property.whiteSpace.contains
  refine ⟨text.takeWhile Unicode.Property.whiteSpace.contains,
    (begun.reverse.takeWhile Unicode.Property.whiteSpace.contains).reverse, ?_, ?_, ?_⟩
  · have front : trim text ++
        (begun.reverse.takeWhile Unicode.Property.whiteSpace.contains).reverse = begun := by
      rw [trim, dropEndWhile, ← List.reverse_append, List.takeWhile_append_dropWhile,
        List.reverse_reverse]
    rw [List.append_assoc, front, List.takeWhile_append_dropWhile]
  · intro c mem
    exact List.mem_takeWhile_imp mem
  · intro c mem
    exact List.mem_takeWhile_imp (List.mem_reverse.mp mem)

/-- A text in the middle that begins and ends with no blank is kept by trimming. -/
theorem trim_append {core : List Char} (ne : core ≠ []) (solid : IsSolid core)
    (left right : List Char) :
    trim (left ++ core ++ right) =
      left.dropWhile Unicode.Property.whiteSpace.contains ++ core ++
        dropEndWhile Unicode.Property.whiteSpace.contains right := by
  have begins : ∀ c ∈ (core ++ right).head?, Unicode.Property.whiteSpace.contains c = false := by
    rw [List.head?_append, Option.or_of_isSome (List.isSome_head?.mpr ne)]
    exact solid.1
  rw [trim, List.append_assoc, dropWhile_append_of_head begins, ← List.append_assoc]
  refine dropEndWhile_append_of_last ?_
  rw [List.getLast?_append, Option.or_of_isSome (List.getLast?_isSome.mpr ne)]
  exact solid.2

end Interception.Text
