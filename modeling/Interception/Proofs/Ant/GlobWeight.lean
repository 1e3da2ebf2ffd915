import Interception.Proofs.Ant.SmallLetters
import Interception.Proofs.Regex.Weight

/-!
# How large globs become

Where case does not count a letter is a set, and takes more than the letter alone. So a glob that is
accepted there is accepted in small letters where case counts, but not the other way round. Reading
backwards decides: every sign but a character takes more there than it does forwards.
-/

namespace Interception.Ant

open Regex Footprint Unicode

namespace Glob.Sign

/-- The sign in small letters. -/
def toSmall : Sign → Sign
  | char c => .char (lowercaseAscii c)
  | sign => sign

/-- Whether the sign is not a character beyond ASCII. -/
def IsAscii : Sign → Prop
  | char c => c.toNat < 128
  | _ => True

/-- Whether the sign stands for more than one text. -/
def isWild : Sign → Bool
  | char _ => false
  | _ => true

end Glob.Sign

theorem sign_toSmall (element : Element) : element.toSmall.sign = element.sign.toSmall := by
  cases element <;> rfl

theorem isConstrained_toSmall (element : Element) :
    element.toSmall.isConstrained = element.isConstrained := by
  cases element with
  | placeholder name constraint => cases constraint <;> rfl
  | _ => rfl

/-! ## Letters that differ only in case -/

/-- The runs of letters that have a representative in ASCII. -/
def asciiRuns : List CaseRun := [⟨65, 26, 1, 32⟩, ⟨383, 1, 1, -268⟩, ⟨8490, 1, 1, -8383⟩]

/-- What `Unicode.orbit` lists for a character of ASCII. -/
def asciiOrbit (c : Char) : List Char :=
  lowercaseAscii c :: asciiRuns.filterMap fun run => run.source? (lowercaseAscii c).toNat

/-- The expression for a letter of ASCII where case does not count. -/
def asciiLetter (c : Char) : Regex := ofSet (.ofChars (c :: asciiOrbit c))

/-- Nothing is moved below where a run is moved to. -/
theorem source?_eq_none {run : CaseRun} {n : Nat} (begins : 0 < run.first)
    (above : (n : Int) < run.first + run.shift) : run.source? n = none := by
  rw [CaseRun.source?, CaseRun.move?, if_neg]
  omega

variable {c : Char}

theorem orbit_of_ascii (ascii : c.toNat < 128) : orbit c = asciiOrbit c := by
  have runs : foldRuns.filter (fun run : CaseRun =>
      decide (run.first = 0 ∨ (run.first : Int) + run.shift < 128)) = asciiRuns := rfl
  have small := lowercaseAscii_lt ascii
  rw [orbit, fold_of_ascii ascii, foldSources, asciiOrbit, ← runs, List.filterMap_filter]
  congr 1
  refine List.filterMap_congr fun run _ => ?_
  split_ifs with near
  · rfl
  · rw [decide_eq_true_eq] at near
    exact source?_eq_none (by omega) (by omega)

variable {ignoreCase : Bool} {sign : Glob.Sign} {signs : List Glob.Sign}

/-! ## Signs -/

theorem letter_of_ascii (ascii : c.toNat < 128) : letter true c = asciiLetter c := by
  rw [letter, if_pos rfl, orbit_of_ascii ascii, asciiLetter]

/-- What the characters of ASCII are looked through for: a letter is the same set in both cases, its
rows of bytes begin differently, and backwards it takes no less than the small letter alone. -/
theorem asciiLetter_of_ascii (ascii : c.toNat < 128) :
    (lowercaseAscii c = c ∨ asciiLetter (lowercaseAscii c) = asciiLetter c) ∧
      StartsApart (.ofChars (c :: asciiOrbit c)) ∧
      (Regex.literal [lowercaseAscii c]).weight .backwards ≤ (asciiLetter c).weight .backwards :=
  forall_ascii (P := fun c => (lowercaseAscii c = c ∨
    asciiLetter (lowercaseAscii c) = asciiLetter c) ∧ StartsApart (.ofChars (c :: asciiOrbit c)) ∧
      (Regex.literal [lowercaseAscii c]).weight .backwards ≤ (asciiLetter c).weight .backwards)
    (by decide +kernel) ascii

theorem letter_lowercaseAscii (ascii : c.toNat < 128) :
    letter true (lowercaseAscii c) = letter true c := by
  obtain same | letters := (asciiLetter_of_ascii ascii).1
  · rw [same]
  · rw [letter_of_ascii ascii, letter_of_ascii (lowercaseAscii_lt ascii), letters]

theorem isSimple_letter (ascii : c.toNat < 128) : IsSimple (letter ignoreCase c) := by
  cases ignoreCase with
  | false => exact .literal [c]
  | true =>
      have apart := (asciiLetter_of_ascii ascii).2.1
      rw [letter_of_ascii ascii, asciiLetter, ofSet]
      split
      · exact .literal _
      · exact .set apart

/-- The set for a wildcard: that it has characters, and what its rows of bytes are. -/
theorem notLineFeed_rows : (CharSet.notLineFeed.isEmpty = false ∧ StartsApart .notLineFeed) ∧
    setBytes .forwards .notLineFeed = 864 ∧ setBytes .backwards .notLineFeed = 1000 := by
  decide +kernel

theorem isSimple_notLineFeed : IsSimple (.set .notLineFeed) := .set notLineFeed_rows.1.2

theorem isSimple_anyRun : IsSimple (repetition (.set .notLineFeed) 0 none true) :=
  .run notLineFeed_rows.1.2 notLineFeed_rows.1.1 true

theorem isSimple_signRegexes (ascii : ∀ sign ∈ signs, sign.IsAscii) (index : Nat) :
    ∀ r ∈ signRegexes ignoreCase index signs, IsSimple r := by
  induction signs generalizing index with
  | nil => exact List.forall_mem_nil _
  | cons sign signs ih =>
      obtain ⟨own, others⟩ := List.forall_mem_cons.mp ascii
      cases sign with
      | char c => exact List.forall_mem_cons.mpr ⟨isSimple_letter own, ih others index⟩
      | anyChar => exact List.forall_mem_cons.mpr ⟨isSimple_notLineFeed, ih others index⟩
      | anyRun => exact List.forall_mem_cons.mpr ⟨isSimple_anyRun, ih others index⟩
      | «variable» =>
          exact List.forall_mem_cons.mpr ⟨.group _ _ isSimple_anyRun, ih others (index + 1)⟩

/-! ## Globs -/

/-- The expression of a glob does not depend on the case of its letters where case does not
count. -/
theorem globRegex_toSmall (ascii : ∀ sign ∈ signs, sign.IsAscii) :
    globRegex true (signs.map Glob.Sign.toSmall) = globRegex true signs := by
  have row : ∀ index, signRegexes true index (signs.map Glob.Sign.toSmall) =
      signRegexes true index signs := by
    induction signs with
    | nil => exact fun _ => rfl
    | cons sign signs ih =>
        intro index
        obtain ⟨own, others⟩ := List.forall_mem_cons.mp ascii
        cases sign with
        | char c =>
            show letter true (lowercaseAscii c) :: _ = letter true c :: _
            rw [letter_lowercaseAscii own, ih others]
        | anyChar => exact congrArg (.set .notLineFeed :: ·) (ih others index)
        | anyRun =>
            exact congrArg (repetition (.set .notLineFeed) 0 none true :: ·) (ih others index)
        | «variable» => exact congrArg (Regex.group _ _ _ :: ·) (ih others (index + 1))
  rw [globRegex, globRegex, row]

/-- What the sign takes in a glob, whatever the number of a variable. -/
def Glob.Sign.weight (direction : Direction) (ignoreCase : Bool) : Glob.Sign → Nat
  | char c => (letter ignoreCase c).weight direction
  | anyChar => (Regex.set .notLineFeed).weight direction
  | anyRun => (repetition (.set .notLineFeed) 0 none true).weight direction
  | «variable» => (Regex.group 0 none (repetition (.set .notLineFeed) 0 none true)).weight direction

/-- What the signs of a glob take. -/
def globWeight (direction : Direction) (ignoreCase : Bool) (signs : List Glob.Sign) : Nat :=
  (signs.map (Glob.Sign.weight direction ignoreCase)).sum

theorem weights_signRegexes (direction : Direction) (index : Nat) :
    weights direction (signRegexes ignoreCase index signs) =
      globWeight direction ignoreCase signs := by
  induction signs generalizing index with
  | nil => rfl
  | cons sign signs ih =>
      rw [globWeight, List.map_cons, List.sum_cons, ← globWeight]
      cases sign with
      | char c => rw [signRegexes, weights_cons, ih, Glob.Sign.weight]
      | anyChar => rw [signRegexes, weights_cons, ih, Glob.Sign.weight]
      | anyRun => rw [signRegexes, weights_cons, ih, Glob.Sign.weight]
      | «variable» =>
          rw [signRegexes, weights_cons, ih, Glob.Sign.weight]
          cases direction <;> rfl

/-- A letter takes no less where case does not count. -/
theorem weight_toSmall_le (ascii : sign.IsAscii) :
    sign.toSmall.weight .backwards false ≤ sign.weight .backwards true := by
  cases sign with
  | char c =>
      show (Regex.literal [lowercaseAscii c]).weight .backwards ≤ (letter true c).weight .backwards
      rw [letter_of_ascii ascii]
      exact (asciiLetter_of_ascii ascii).2.2
  | anyChar => exact Nat.le_refl _
  | anyRun => exact Nat.le_refl _
  | «variable» => exact Nat.le_refl _

/-- Every sign but a character takes more backwards than forwards, by more than what comes before
and after the match. -/
theorem weight_forwards_le (sign : Glob.Sign) :
    sign.weight .forwards false + (if sign.isWild then 64 else 0) ≤
      sign.weight .backwards false := by
  obtain ⟨-, forwards, backwards⟩ := notLineFeed_rows
  cases sign with
  | char c => exact Nat.le_refl _
  | anyChar =>
      show setBytes .forwards .notLineFeed + 64 ≤ setBytes .backwards .notLineFeed
      omega
  | anyRun =>
      show 32 + setBytes .forwards .notLineFeed + 2 * forkWay + 64 ≤
        32 + setBytes .backwards .notLineFeed + 2 * forkWay
      omega
  | «variable» =>
      show 32 + (32 + setBytes .forwards .notLineFeed + 2 * forkWay) + 32 + 64 ≤
        32 + setBytes .backwards .notLineFeed + 2 * forkWay
      omega

theorem globWeight_cons (direction : Direction) (sign : Glob.Sign) (signs : List Glob.Sign) :
    globWeight direction ignoreCase (sign :: signs) =
      sign.weight direction ignoreCase + globWeight direction ignoreCase signs :=
  List.sum_cons

theorem globWeight_forwards_le (signs : List Glob.Sign) :
    globWeight .forwards false signs + (if signs.any Glob.Sign.isWild then 64 else 0) ≤
      globWeight .backwards false signs := by
  induction signs with
  | nil => exact Nat.le_refl _
  | cons sign signs ih =>
      have own := weight_forwards_le sign
      rw [globWeight_cons, globWeight_cons, List.any_cons]
      cases wild : sign.isWild with
      | false =>
          rw [Bool.false_or]
          omega
      | true =>
          rw [wild, if_pos rfl] at own
          rw [Bool.true_or, if_pos rfl]
          omega

theorem globWeight_toSmall_le (ascii : ∀ sign ∈ signs, sign.IsAscii) :
    globWeight .backwards false (signs.map Glob.Sign.toSmall) ≤
      globWeight .backwards true signs := by
  induction signs with
  | nil => exact Nat.le_refl _
  | cons sign signs ih =>
      obtain ⟨own, others⟩ := List.forall_mem_cons.mp ascii
      rw [List.map_cons, globWeight_cons, globWeight_cons]
      exact Nat.add_le_add (weight_toSmall_le own) (ih others)

/-! ## Size -/

/-- The row of expressions for a glob, with the ends of the text. -/
theorem isSimple_bound (ignoreCase : Bool) (ascii : ∀ sign ∈ signs, sign.IsAscii) :
    ∀ r ∈ .anchor .textStart :: signRegexes ignoreCase 0 signs ++ [.anchor .textEnd],
      IsSimple r := by
  refine List.forall_mem_append.mpr ⟨List.forall_mem_cons.mpr ⟨.anchor _, ?_⟩, ?_⟩
  · exact isSimple_signRegexes ascii 0
  · exact List.forall_mem_singleton.mpr (.anchor _)

theorem weights_bound (direction : Direction) (signs : List Glob.Sign) :
    weights direction (.anchor .textStart :: signRegexes ignoreCase 0 signs ++ [.anchor .textEnd]) =
      globWeight direction ignoreCase signs + 64 := by
  rw [List.cons_append, weights_cons, weights_append, weights_signRegexes]
  show 32 + (_ + (32 + 0)) = _
  omega

theorem endsText_globRegex (ascii : ∀ sign ∈ signs, sign.IsAscii) :
    (globRegex ignoreCase signs).endsText = true :=
  endsText_concat (List.forall_mem_cons.mpr ⟨.anchor _, isSimple_signRegexes ascii 0⟩)

/-- A glob is accepted if both of its automata are small enough. -/
theorem fits_globRegex (ascii : ∀ sign ∈ signs, sign.IsAscii)
    (forwards : globWeight .forwards ignoreCase signs + 192 ≤ limit)
    (backwards : globWeight .backwards ignoreCase signs + 128 ≤ limit) :
    (globRegex ignoreCase signs).fits = true := by
  have simple := isSimple_bound ignoreCase ascii
  have starts : (globRegex ignoreCase signs).startsText = true :=
    startsText_concat (List.forall_mem_cons.mp simple).2
  refine fits_of_weight starts (endsText_globRegex ascii)
    (takesAtMost_concat (List.cons_ne_nil _ _) simple)
    (takesAtMost_concat (List.cons_ne_nil _ _) simple) ?_ ?_
  · rw [weights_bound]
    omega
  · rw [weights_bound]
    omega

theorem globWeight_le_of_fits (ascii : ∀ sign ∈ signs, sign.IsAscii)
    (h : (globRegex ignoreCase signs).fits = true) :
    globWeight .backwards ignoreCase signs + 128 ≤ limit := by
  have le : 64 + weights .backwards
      (.anchor .textStart :: signRegexes ignoreCase 0 signs ++ [.anchor .textEnd]) ≤ limit :=
    weight_le_of_fits (endsText_globRegex ascii)
      (takesAtLeast_concat (List.cons_ne_nil _ _) (isSimple_bound ignoreCase ascii)) h
  rw [weights_bound] at le
  omega

theorem isAscii_toSmall (ascii : ∀ sign ∈ signs, sign.IsAscii) :
    ∀ sign ∈ signs.map Glob.Sign.toSmall, sign.IsAscii := by
  refine List.forall_mem_map.mpr fun sign mem => ?_
  cases sign with
  | char c => exact lowercaseAscii_lt (ascii _ mem)
  | _ => trivial

/-- A glob that is accepted where case does not count is accepted in small letters where it does. -/
theorem fits_toSmall (ascii : ∀ sign ∈ signs, sign.IsAscii)
    (wild : signs.any Glob.Sign.isWild = true) (h : (globRegex true signs).fits = true) :
    (globRegex false (signs.map Glob.Sign.toSmall)).fits = true := by
  have same : (signs.map Glob.Sign.toSmall).any Glob.Sign.isWild = true := by
    rw [List.any_map, ← wild]
    congr 1
    funext sign
    cases sign <;> rfl
  have forwards := globWeight_forwards_le (signs.map Glob.Sign.toSmall)
  have backwards := globWeight_toSmall_le ascii
  have room := globWeight_le_of_fits ascii h
  rw [same, if_pos rfl] at forwards
  exact fits_globRegex (isAscii_toSmall ascii) (by omega) (by omega)

end Interception.Ant
