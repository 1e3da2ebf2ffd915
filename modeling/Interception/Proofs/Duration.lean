import Interception.Duration
import Mathlib.Data.List.TakeWhile
import Mathlib.Data.Nat.Digits.Defs

/-!
# Lengths of time that are shown alike

A length of time can be told from its text. The unit is what follows the decimal number, the digits
before the point are those of the whole number, and the zeros that are missing behind the point are
as many as are needed to fill the places of the unit.
-/

namespace Interception.Duration

variable {m n places : Nat}

/-! ## Decimal numbers -/

theorem ofDigitChars_padded (width n : Nat) : Nat.ofDigitChars 10 (padded width n) 0 = n := by
  rw [padded, Nat.ofDigitChars_append, Nat.ofDigitChars_replicate_zero, Nat.mul_zero,
    Nat.ofDigitChars_ten_toDigits]

theorem length_padded {width : Nat} (fits : n < Nat.pow 10 width) :
    (padded width n).length = max width 1 := by
  have some : 0 < (Nat.toDigits 10 n).length := Nat.length_toDigits_pos
  have bound : (Nat.toDigits 10 n).length ≤ max width 1 := by
    refine (Nat.length_toDigits_le_iff (by omega) (by omega)).mpr (Nat.lt_of_lt_of_le fits ?_)
    exact Nat.pow_le_pow_right (by omega) (Nat.le_max_left width 1)
  rw [padded, List.length_append, List.length_replicate]
  omega

/-- Zeros at the end that have been cut off are known by the length. -/
theorem eq_of_trimmed_eq {digits others : List Char} (length : digits.length = others.length)
    (same : (digits.reverse.dropWhile (· == '0')).reverse =
      (others.reverse.dropWhile (· == '0')).reverse) : digits = others := by
  have zeros (l : List Char) :
      l.takeWhile (· == '0') = List.replicate (l.length - (l.dropWhile (· == '0')).length) '0' := by
    have whole := congrArg List.length (List.takeWhile_append_dropWhile (p := (· == '0')) (l := l))
    rw [List.length_append] at whole
    refine List.eq_replicate_iff.mpr ⟨by omega, fun c mem => ?_⟩
    exact beq_iff_eq.mp (List.mem_takeWhile_imp (p := (· == '0')) mem)
  have rest := List.reverse_inj.mp same
  apply List.reverse_inj.mp
  rw [← List.takeWhile_append_dropWhile (p := (· == '0')) (l := digits.reverse),
    ← List.takeWhile_append_dropWhile (p := (· == '0')) (l := others.reverse), zeros, zeros, rest,
    List.length_reverse, List.length_reverse, length]

theorem fraction_inj (same : fraction places m = fraction places n) :
    m % Nat.pow 10 places = n % Nat.pow 10 places := by
  have positive : 0 < Nat.pow 10 places := Nat.pow_pos (by omega)
  have padding : padded places (m % Nat.pow 10 places) = padded places (n % Nat.pow 10 places) := by
    refine eq_of_trimmed_eq ?_ same
    rw [length_padded (Nat.mod_lt m positive), length_padded (Nat.mod_lt n positive)]
  rw [← ofDigitChars_padded places (m % Nat.pow 10 places), padding, ofDigitChars_padded]

theorem isDigit_of_mem_whole {c : Char} (mem : c ∈ Nat.toDigits 10 n) : c.isDigit = true :=
  Nat.isDigit_of_mem_toDigits (by omega) (by omega) mem

theorem pointed_inj {fraction other : List Char} (same : pointed fraction = pointed other) :
    fraction = other := by
  cases fraction with
  | nil =>
      cases other with
      | nil => rfl
      | cons c other => cases same
  | cons c fraction =>
      cases other with
      | nil => cases same
      | cons d other => exact List.tail_eq_of_cons_eq same

theorem takeWhile_pointed (fraction : List Char) : (pointed fraction).takeWhile Char.isDigit = [] := by
  cases fraction <;> rfl

theorem numeral_inj (same : numeral places m = numeral places n) : m = n := by
  have whole : m / Nat.pow 10 places = n / Nat.pow 10 places := by
    have digits := congrArg (List.takeWhile Char.isDigit) same
    rw [numeral, numeral, List.takeWhile_append_of_pos fun _ => isDigit_of_mem_whole,
      List.takeWhile_append_of_pos fun _ => isDigit_of_mem_whole, takeWhile_pointed,
      takeWhile_pointed, List.append_nil, List.append_nil] at digits
    rw [← Nat.ofDigitChars_ten_toDigits (n := m / Nat.pow 10 places), digits,
      Nat.ofDigitChars_ten_toDigits]
  have rest : m % Nat.pow 10 places = n % Nat.pow 10 places := by
    rw [numeral, numeral, whole] at same
    exact fraction_inj (pointed_inj (List.append_cancel_left same))
  rw [← Nat.div_add_mod m (Nat.pow 10 places), whole, rest, Nat.div_add_mod]

/-! ## Units -/

/-- A sign that may stand in a decimal number. -/
def isNumeric (c : Char) : Bool := c.isDigit || c == '.'

theorem mem_padded {width : Nat} {c : Char} (mem : c ∈ padded width n) : c.isDigit = true := by
  rw [padded, List.mem_append] at mem
  obtain mem | mem := mem
  · rw [List.eq_of_mem_replicate mem]
    rfl
  · exact isDigit_of_mem_whole mem

theorem isNumeric_of_mem_numeral {c : Char} (mem : c ∈ numeral places n) : isNumeric c = true := by
  rw [isNumeric, Bool.or_eq_true]
  rw [numeral, List.mem_append] at mem
  obtain mem | mem := mem
  · exact .inl (isDigit_of_mem_whole mem)
  · cases own : fraction places n with
    | nil =>
        rw [own] at mem
        cases mem
    | cons d digits =>
        rw [own, pointed, ← own, List.mem_cons] at mem
        · obtain rfl | mem := mem
          · exact .inr rfl
          · rw [fraction, List.mem_reverse] at mem
            exact .inl (mem_padded (List.mem_reverse.mp (List.dropWhile_subset _ mem)))
        · nofun

theorem unit_mem (n : Nat) : unit n ∈ [(9, "s"), (6, "ms"), (3, "µs"), (0, "ns")] := by
  rw [unit]
  split
  · simp
  · split
    · simp
    · split <;> simp

/-- Lengths of time that are shown alike are equal. -/
theorem text_inj (same : text m = text n) : m = n := by
  have shown (k : Nat) : (text k).toList = numeral (unit k).1 k ++ (unit k).2.toList := by
    rw [text, String.toList_append, String.toList_ofList]
  have split (k : Nat) :
      (text k).toList.takeWhile isNumeric = numeral (unit k).1 k ∧
        (text k).toList.dropWhile isNumeric = (unit k).2.toList := by
    have name : (unit k).2.toList.takeWhile isNumeric = [] ∧
        (unit k).2.toList.dropWhile isNumeric = (unit k).2.toList := by
      have mem := unit_mem k
      revert mem
      generalize unit k = u
      revert u
      decide
    rw [shown, List.takeWhile_append_of_pos fun _ => isNumeric_of_mem_numeral,
      List.dropWhile_append_of_pos fun _ => isNumeric_of_mem_numeral, name.1, name.2,
      List.append_nil]
    exact ⟨rfl, rfl⟩
  obtain ⟨number, name⟩ := split m
  obtain ⟨number', name'⟩ := split n
  rw [same] at number name
  have names : (unit m).2 = (unit n).2 := String.toList_inj.mp (name.symm.trans name')
  have units : (unit m).1 = (unit n).1 := by
    have known : ∀ u ∈ [(9, "s"), (6, "ms"), (3, "µs"), (0, "ns")],
        ∀ v ∈ [(9, "s"), (6, "ms"), (3, "µs"), (0, "ns")], u.2 = v.2 → u.1 = v.1 := by decide
    exact known _ (unit_mem m) _ (unit_mem n) names
  have numbers := number.symm.trans number'
  rw [units] at numbers
  exact numeral_inj numbers

end Interception.Duration
