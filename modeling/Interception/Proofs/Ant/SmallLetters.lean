import Interception.Proofs.Ant.Braces
import Interception.Proofs.Ant.Decomposition

/-!
# Patterns in small letters

Writing a text of ASCII in small letters changes letters only. None of the signs of a pattern is a
letter, and neither is a blank or the separator, so that a pattern in small letters has the tokens
of the pattern in small letters, and these are written by the same elements.
-/

namespace Interception.Unicode

/-! ## Small letters of ASCII -/

/-- Whether all characters of the text are of ASCII. -/
def IsAscii (text : List Char) : Prop := ∀ c ∈ text, c.toNat < 128

instance (text : List Char) : Decidable (IsAscii text) :=
  List.decidableBAll (fun c : Char => c.toNat < 128) text

/-- The text with the small letters for the capital ones. -/
def small (text : List Char) : List Char := text.map lowercaseAscii

variable {c x : Char} {text : List Char}

theorem IsAscii.subset {part : List Char} (h : IsAscii text) (sub : part ⊆ text) : IsAscii part :=
  fun c mem => h c (sub mem)

theorem lowercaseAscii_lt (ascii : c.toNat < 128) : (lowercaseAscii c).toNat < 128 :=
  forall_ascii (P := fun c => (lowercaseAscii c).toNat < 128) (by decide) ascii

theorem IsAscii.small (h : IsAscii text) : IsAscii (small text) := by
  intro c mem
  obtain ⟨x, own, rfl⟩ := List.mem_map.mp mem
  exact lowercaseAscii_lt (h x own)

/-- Only letters are made small, and they stay letters. -/
theorem lowercaseAscii_eq_iff (notLetter : x.isAlpha = false) : lowercaseAscii c = x ↔ c = x := by
  rw [lowercaseAscii]
  split_ifs with capital
  · have letters : ∀ n < 128, 'A' ≤ Char.ofNat n → Char.ofNat n ≤ 'Z' →
        (Char.ofNat n).isAlpha = true ∧
          (Char.ofNat ((Char.ofNat n).toNat + 32)).isAlpha = true := by decide
    have ascii : c.toNat < 128 := by
      have le : c.toNat ≤ 'Z'.toNat := capital.2
      exact Nat.lt_of_le_of_lt le (by decide)
    have own := letters c.toNat ascii
    rw [Char.ofNat_toNat] at own
    obtain ⟨before, behind⟩ := own capital.1 capital.2
    constructor
    · rintro rfl
      rw [behind] at notLetter
      cases notLetter
    · rintro rfl
      rw [before] at notLetter
      cases notLetter
  · exact Iff.rfl

/-- What is a small letter of ASCII was a letter of ASCII. -/
theorem lt_of_lowercaseAscii (ascii : (lowercaseAscii c).toNat < 128) : c.toNat < 128 := by
  rw [lowercaseAscii] at ascii
  split_ifs at ascii with capital
  · have le : c.toNat ≤ 'Z'.toNat := capital.2
    exact Nat.lt_of_le_of_lt le (by decide)
  · exact ascii

theorem isAscii_of_small {other : List Char} (h : IsAscii text) (same : small other = small text) :
    IsAscii other := by
  intro c mem
  have own : lowercaseAscii c ∈ small text := same ▸ List.mem_map_of_mem mem
  exact lt_of_lowercaseAscii (h.small _ own)

theorem lowercaseAscii_idem (ascii : c.toNat < 128) :
    lowercaseAscii (lowercaseAscii c) = lowercaseAscii c := by
  exact forall_ascii (P := fun c => lowercaseAscii (lowercaseAscii c) = lowercaseAscii c)
    (by decide) ascii

theorem small_small (h : IsAscii text) : small (small text) = small text := by
  rw [small, small, List.map_map]
  exact List.map_congr_left fun c mem => lowercaseAscii_idem (h c mem)

/-- On ASCII, small letters are what lower case is. -/
theorem lowercase_eq_small (h : IsAscii text) : lowercase text = small text := by
  have run : ∀ before, lowercaseAfter before text = small text := by
    induction text with
    | nil => exact fun _ => rfl
    | cons c text ih =>
        intro before
        obtain ⟨own, others⟩ := List.forall_mem_cons.mp h
        have notSigma : c ≠ 'Σ' := by
          rintro rfl
          exact absurd own (by decide)
        rw [lowercaseAfter, if_neg notSigma, lowercaseChar, if_pos own, ih others]
        rfl
  exact run []

theorem fold_of_ascii (ascii : c.toNat < 128) : fold c = lowercaseAscii c := if_pos ascii

theorem whiteSpace_lowercaseAscii (ascii : c.toNat < 128) :
    Property.whiteSpace.contains (lowercaseAscii c) = Property.whiteSpace.contains c :=
  forall_ascii (P := fun c => Property.whiteSpace.contains (lowercaseAscii c) =
    Property.whiteSpace.contains c) (by decide +kernel) ascii

theorem small_eq_iff (notLetters : text.any Char.isAlpha = false) {other : List Char} :
    small other = text ↔ other = text := by
  induction text generalizing other with
  | nil => exact List.map_eq_nil_iff
  | cons x text ih =>
      rw [List.any_cons, Bool.or_eq_false_iff] at notLetters
      obtain ⟨own, others⟩ := notLetters
      cases other with
      | nil => exact Iff.rfl
      | cons c other =>
          rw [small, List.map_cons, List.cons.injEq, List.cons.injEq, lowercaseAscii_eq_iff own]
          exact and_congr_right fun _ => ih others

theorem mem_small_iff (notLetter : x.isAlpha = false) : x ∈ small text ↔ x ∈ text := by
  rw [small, List.mem_map]
  constructor
  · rintro ⟨c, mem, same⟩
    exact (lowercaseAscii_eq_iff notLetter).mp same ▸ mem
  · intro mem
    exact ⟨x, mem, (lowercaseAscii_eq_iff notLetter).mpr rfl⟩

end Interception.Unicode

namespace Interception.Ant

open Unicode

variable {token : List Char} {elements : List Element}

/-! ## Braces and signs -/

theorem braceStep_lowercaseAscii (depth : Nat) (c : Char) :
    braceStep depth (lowercaseAscii c) = braceStep depth c := by
  rw [braceStep, braceStep]
  simp only [lowercaseAscii_eq_iff (x := '\x7b') rfl, lowercaseAscii_eq_iff (x := '\x7d') rfl]

theorem openBraces_small (depth : Nat) (text : List Char) :
    openBraces depth (small text) = openBraces depth text := by
  induction text generalizing depth with
  | nil => rfl
  | cons c text ih =>
      rw [small, List.map_cons, openBraces_cons, openBraces_cons, braceStep_lowercaseAscii]
      exact ih _

theorem balancedFrom_small (depth : Nat) (text : List Char) :
    balancedFrom depth (small text) = balancedFrom depth text := by
  induction text generalizing depth with
  | nil => rfl
  | cons c text ih =>
      rw [small, List.map_cons, balancedFrom, balancedFrom]
      simp only [lowercaseAscii_eq_iff (x := '\x7b') rfl, lowercaseAscii_eq_iff (x := '\x7d') rfl]
      rw [← small, ih, ih, ih]

theorem isTemplate_small (token : List Char) : isTemplate (small token) = isTemplate token := by
  rw [isTemplate, isTemplate, small, List.any_map]
  congr 1
  funext c
  simp only [Function.comp_apply, Bool.beq_eq_decide_eq, lowercaseAscii_eq_iff (x := '*') rfl,
    lowercaseAscii_eq_iff (x := '?') rfl, lowercaseAscii_eq_iff (x := '\x7b') rfl]

/-! ## Elements -/

/-- The element in small letters. -/
def Element.toSmall : Element → Element
  | text c => .text (lowercaseAscii c)
  | anyChar => .anyChar
  | anyRun => .anyRun
  | placeholder name constraint => .placeholder (small name) (constraint.map small)

theorem body_small (name : List Char) (constraint : Option (List Char)) :
    Element.body (small name) (constraint.map small) = small (Element.body name constraint) := by
  cases constraint with
  | none => rfl
  | some constraint =>
      rw [Option.map_some, Element.body, Element.body, small, small, small, List.map_append]
      rfl

theorem Element.IsWritable.toSmall {element : Element} (h : element.IsWritable) :
    element.toSmall.IsWritable ∧ element.toSmall.writing = small element.writing := by
  cases element with
  | text c =>
      obtain ⟨brace, star, mark⟩ := h
      refine ⟨⟨?_, ?_, ?_⟩, rfl⟩
      · exact (lowercaseAscii_eq_iff rfl).not.mpr brace
      · exact (lowercaseAscii_eq_iff rfl).not.mpr star
      · exact (lowercaseAscii_eq_iff rfl).not.mpr mark
  | anyChar => exact ⟨trivial, rfl⟩
  | anyRun => exact ⟨trivial, rfl⟩
  | placeholder name constraint =>
      obtain ⟨balanced, noColon⟩ := h
      refine ⟨⟨?_, ?_⟩, ?_⟩
      · rw [body_small, balancedFrom_small]
        exact balanced
      · exact (mem_small_iff rfl).not.mpr noColon
      · rw [Element.toSmall, Element.writing, body_small, Element.writing, small, small,
          List.map_cons, List.map_append]
        rfl

/-- A token in small letters is written by the elements in small letters. -/
theorem Writes.toSmall (h : Writes elements token) :
    Writes (elements.map Element.toSmall) (small token) := by
  obtain ⟨writable, rfl⟩ := h
  constructor
  · intro element mem
    obtain ⟨own, isElement, rfl⟩ := List.mem_map.mp mem
    exact (writable own isElement).toSmall.1
  · rw [List.flatMap_map, small, List.map_flatMap]
    refine List.flatMap_congr fun element mem => ?_
    exact (writable element mem).toSmall.2

end Interception.Ant

namespace Interception.AntMatcher

open Ant Unicode

variable {m : AntMatcher} {text token : List Char}

/-! ## Tokens -/

theorem tokenOf_small {piece : List Char} (ascii : IsAscii piece) :
    m.tokenOf (small piece) = small (m.tokenOf piece) := by
  rw [tokenOf, tokenOf]
  split_ifs
  · exact Text.trim_map fun c mem => whiteSpace_lowercaseAscii (ascii c mem)
  · rfl

/-- A text in small letters has the tokens in small letters. -/
theorem tokens_small (notLetter : m.separator.isAlpha = false) (ascii : IsAscii text) :
    m.tokens (small text) = (m.tokens text).map small := by
  have pieces : Text.pieces m.separator (small text) =
      (Text.pieces m.separator text).map small :=
    Text.pieces_map fun c _ => lowercaseAscii_eq_iff notLetter
  have tokens : (Text.pieces m.separator text).map (m.tokenOf ∘ small) =
      ((Text.pieces m.separator text).map m.tokenOf).map small := by
    rw [List.map_map]
    refine List.map_congr_left fun piece mem => ?_
    exact tokenOf_small (ascii.subset (Text.subset_of_mem_pieces mem))
  rw [tokens_eq_tokensOf, tokensOf, pieces, List.map_map, tokens, List.filter_map,
    tokens_eq_tokensOf, tokensOf]
  congr 1
  refine List.filter_congr fun token _ => ?_
  cases token <;> rfl

end Interception.AntMatcher
