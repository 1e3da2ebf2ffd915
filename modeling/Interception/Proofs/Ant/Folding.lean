import Interception.Proofs.Ant.GlobWeight

/-!
# Tokens in small letters

On ASCII, a token accepts a text without regard to case exactly if the token in small letters
accepts the text in small letters, where case may count or not. Literal tokens are compared in small
letters, and templates without constraints are globs, in which letters stand for each other by
folding: on ASCII both come to the same.

What a token compiles to may differ in one thing, in whether it is too large, and only where case
counts for the token in small letters. Such a token is never the larger one.
-/

namespace Interception.Ant

open Regex Unicode

variable {ignoreCase : Bool} {c x : Char}

/-! ## Globs in small letters -/

/-- The orbit of a character has it, and no character of ASCII that is another one in small
letters. -/
theorem mem_asciiOrbit (ascii : c.toNat < 128) :
    c ∈ asciiOrbit c ∧ ∀ x ∈ asciiOrbit c, x.toNat < 128 → lowercaseAscii c = lowercaseAscii x := by
  refine ⟨forall_ascii (P := fun c => c ∈ asciiOrbit c) (by decide +kernel) ascii,
    fun x mem ascii' => ?_⟩
  have same := forall_ascii (P := fun c => (asciiOrbit c).all fun x =>
    128 ≤ x.toNat || lowercaseAscii c == lowercaseAscii x) (by decide +kernel) ascii
  simpa [Nat.not_le.mpr ascii'] using List.all_eq_true.mp same x mem

/-- Characters of ASCII differ in case only if they are the same in small letters. -/
theorem standsFor_true_of_ascii (ascii : c.toNat < 128) (ascii' : x.toNat < 128) :
    standsFor true c x = (lowercaseAscii c == lowercaseAscii x) := by
  rw [standsFor, orbit_of_ascii ascii, Bool.true_and, Bool.eq_iff_iff, Bool.or_eq_true, beq_iff_eq,
    beq_iff_eq, List.contains_iff_mem]
  constructor
  · rintro (rfl | mem)
    · rfl
    · exact (mem_asciiOrbit ascii).2 x mem ascii'
  · intro same
    refine .inr ?_
    rw [asciiOrbit, same]
    exact (mem_asciiOrbit ascii').1

/-- Letters stand for each other without regard to case exactly if they are the same in small
letters. There it does not matter whether case counts. -/
theorem standsFor_small (ascii : c.toNat < 128) (ascii' : x.toNat < 128) :
    standsFor ignoreCase (lowercaseAscii c) (lowercaseAscii x) = standsFor true c x := by
  rw [standsFor_true_of_ascii ascii ascii']
  cases ignoreCase with
  | true =>
      rw [standsFor_true_of_ascii (lowercaseAscii_lt ascii) (lowercaseAscii_lt ascii'),
        lowercaseAscii_idem ascii, lowercaseAscii_idem ascii']
  | false => exact standsFor_false _ _

theorem isBreak_small (c : Char) : Glob.isBreak (lowercaseAscii c) = Glob.isBreak c := by
  rw [Glob.isBreak, Glob.isBreak, Bool.eq_iff_iff, beq_iff_eq, beq_iff_eq]
  exact lowercaseAscii_eq_iff rfl

namespace Glob

variable {sign : Sign} {signs : List Sign} {part text : List Char} {parts : List (List Char)}

theorem forall_isBreak_small :
    (∀ y ∈ small part, isBreak y = false) ↔ ∀ x ∈ part, isBreak x = false := by
  rw [small, List.forall_mem_map]
  simp only [isBreak_small]

/-- A sign in small letters takes a part in small letters if it takes the part without regard to
case. -/
theorem takes_small (ascii : sign.IsAscii) (ascii' : IsAscii part) :
    sign.toSmall.Takes ignoreCase (small part) ↔ sign.Takes true part := by
  cases sign with
  | char c =>
      constructor
      · rintro ⟨y, own, stands⟩
        obtain ⟨x, rfl, rfl⟩ := List.map_eq_singleton_iff.mp own
        rw [standsFor_small ascii (ascii' x (List.mem_singleton_self x))] at stands
        exact ⟨x, rfl, stands⟩
      · rintro ⟨x, rfl, stands⟩
        refine ⟨lowercaseAscii x, rfl, ?_⟩
        rw [standsFor_small ascii (ascii' x (List.mem_singleton_self x))]
        exact stands
  | anyChar =>
      constructor
      · rintro ⟨y, own, plain⟩
        obtain ⟨x, rfl, rfl⟩ := List.map_eq_singleton_iff.mp own
        exact ⟨x, rfl, (isBreak_small x).symm.trans plain⟩
      · rintro ⟨x, rfl, plain⟩
        exact ⟨lowercaseAscii x, rfl, (isBreak_small x).trans plain⟩
  | anyRun => exact forall_isBreak_small
  | «variable» => exact forall_isBreak_small

theorem forall₂_takes_small (ascii : ∀ sign ∈ signs, sign.IsAscii)
    (ascii' : ∀ part ∈ parts, IsAscii part) :
    List.Forall₂ (Sign.Takes ignoreCase) (signs.map Sign.toSmall) (parts.map small) ↔
      List.Forall₂ (Sign.Takes true) signs parts := by
  induction signs generalizing parts with
  | nil => cases parts <;> simp
  | cons sign signs ih =>
      cases parts with
      | nil => simp
      | cons part parts =>
          obtain ⟨own, others⟩ := List.forall_mem_cons.mp ascii
          obtain ⟨own', others'⟩ := List.forall_mem_cons.mp ascii'
          rw [List.map_cons, List.map_cons, List.forall₂_cons, List.forall₂_cons,
            takes_small own own', ih others others']

/-- A text is cut as the text in small letters is cut. -/
theorem exists_parts_of_flatten_small (h : parts.flatten = small text) :
    ∃ own : List (List Char), own.flatten = text ∧ own.map small = parts := by
  induction parts generalizing text with
  | nil => exact ⟨[], (List.map_eq_nil_iff.mp h.symm).symm, rfl⟩
  | cons part parts ih =>
      obtain ⟨front, back, rfl, rfl, rest⟩ := List.map_eq_append_iff.mp h.symm
      obtain ⟨own, rfl, rfl⟩ := ih rest.symm
      exact ⟨front :: own, rfl, rfl⟩

/-- A glob in small letters matches a text in small letters if it matches the text without regard
to case. -/
theorem isSome_match?_small (ascii : ∀ sign ∈ signs, sign.IsAscii) (ascii' : IsAscii text) :
    (match? ignoreCase (signs.map Sign.toSmall) (small text)).isSome =
      (match? true signs text).isSome := by
  rw [Bool.eq_iff_iff, isSome_match?_iff, isSome_match?_iff]
  constructor
  · rintro ⟨parts, takes, whole⟩
    obtain ⟨own, rfl, rfl⟩ := exists_parts_of_flatten_small whole
    refine ⟨own, (forall₂_takes_small ascii fun part mem => ?_).mp takes, rfl⟩
    exact ascii'.subset fun x hx => List.mem_flatten.mpr ⟨part, mem, hx⟩
  · rintro ⟨parts, takes, rfl⟩
    refine ⟨parts.map small, (forall₂_takes_small ascii fun part mem => ?_).mpr takes, ?_⟩
    · exact ascii'.subset fun x hx => List.mem_flatten.mpr ⟨part, mem, hx⟩
    · exact List.map_flatten.symm

end Glob

/-! ## Segments -/

/-- Whether the regular expression of a template without constraints is over the limit. -/
def isTooLarge (ignoreCase : Bool) (token : List Char) : Bool :=
  match readElements .outside token with
  | .ok elements => isTemplate token && !(globRegex ignoreCase (elements.map Element.sign)).fits
  | .error _ => false

/-- Two faults are of one kind; the texts of regular expressions may differ. -/
inductive Fault.SameKind : Fault → Fault → Prop where
  | unclosedVariable : SameKind .unclosedVariable .unclosedVariable
  | invalidRegex (source source' : List Char) :
      SameKind (.invalidRegex source) (.invalidRegex source')

/-- What two tokens compile to is alike: faults of one kind, or two segments of which the second one
accepts a text in small letters if the first one accepts the text without regard to case. -/
inductive Alike (ignoreCase : Bool) : Except Fault Segment → Except Fault Segment → Prop where
  | fault {fault other : Fault} (kind : fault.SameKind other) :
      Alike ignoreCase (.error fault) (.error other)
  | segment {segment other : Segment} (isAny : other.isAny = segment.isAny)
      (accepts : ∀ text, IsAscii text →
        other.accepts ignoreCase (small text) = segment.accepts true text) :
      Alike ignoreCase (.ok segment) (.ok other)

variable {token : List Char} {elements : List Element}

theorem alike_literal (ascii : IsAscii token) :
    Alike ignoreCase (.ok (.literal token)) (.ok (.literal (small token))) := by
  refine .segment rfl fun text ascii' => ?_
  have same : Unicode.lowercase token = Unicode.lowercase text ↔ small token = small text := by
    rw [lowercase_eq_small ascii, lowercase_eq_small ascii']
  have small_same : Unicode.lowercase (small token) = Unicode.lowercase (small text) ↔
      small token = small text := by
    rw [lowercase_eq_small ascii.small, lowercase_eq_small ascii'.small, small_small ascii,
      small_small ascii']
  rw [Segment.accepts, Segment.accepts, Segment.capture?, Segment.capture?]
  simp only [same, small_same, if_true, ite_self]

theorem map_sign_toSmall (elements : List Element) :
    (elements.map Element.toSmall).map Element.sign =
      (elements.map Element.sign).map Glob.Sign.toSmall := by
  rw [List.map_map, List.map_map]
  exact List.map_congr_left fun element _ => sign_toSmall element

theorem alike_pattern (ascii : ∀ sign ∈ elements.map Element.sign, sign.IsAscii)
    (names names' : List (List Char)) :
    Alike ignoreCase
      (.ok (.pattern (.ofRegex (globRegex true (elements.map Element.sign))) names))
      (.ok (.pattern (.ofRegex (globRegex ignoreCase
        ((elements.map Element.toSmall).map Element.sign))) names')) := by
  refine .segment rfl fun text ascii' => ?_
  simp only [Segment.accepts, capture?_globRegex, Option.isSome_map, map_sign_toSmall]
  exact Glob.isSome_match?_small ascii ascii'

/-- The characters of elements are characters of their token. -/
theorem isAscii_signs (ascii : IsAscii token) (writes : Writes elements token) :
    ∀ sign ∈ elements.map Element.sign, sign.IsAscii := by
  refine List.forall_mem_map.mpr fun element mem => ?_
  cases element with
  | text c =>
      refine ascii c ?_
      rw [← writes.written, List.mem_flatMap]
      exact ⟨_, mem, List.mem_singleton_self c⟩
  | _ => trivial

/-- A template has an element that is no character. -/
theorem any_isWild (kind : isTemplate token = true) (writes : Writes elements token) :
    (elements.map Element.sign).any Glob.Sign.isWild = true := by
  by_contra tame
  have chars : ∀ element ∈ elements, ∃ c, element = .text c ∧ element.writing = [c] := by
    intro element mem
    have own : element.sign.isWild ≠ true :=
      fun wild => tame (List.any_eq_true.mpr ⟨_, List.mem_map_of_mem mem, wild⟩)
    cases element with
    | text c => exact ⟨c, rfl, rfl⟩
    | _ => exact absurd rfl own
  obtain ⟨c, mem, sign⟩ := List.any_eq_true.mp kind
  rw [← writes.written, List.mem_flatMap] at mem
  obtain ⟨element, isElement, own⟩ := mem
  obtain ⟨x, rfl, writing⟩ := chars element isElement
  rw [writing] at own
  obtain rfl := List.mem_singleton.mp own
  obtain ⟨brace, star, mark⟩ := writes.writable _ isElement
  simp [brace, star, mark] at sign

theorem isTooLarge_iff (writes : Writes elements token) (kind : isTemplate token = true) :
    isTooLarge ignoreCase token = !(globRegex ignoreCase (elements.map Element.sign)).fits := by
  rw [isTooLarge, readElements_of_writes writes, kind]
  exact Bool.true_and _

/-- A token is compiled alike in small letters, if both or neither of the two are too large. -/
theorem alike_compile (ascii : IsAscii token)
    (free : ∀ elements, Writes elements token → ∀ element ∈ elements, element.isConstrained = false)
    (size : isTooLarge ignoreCase (small token) = isTooLarge true token) :
    Alike ignoreCase (Segment.compile true token) (Segment.compile ignoreCase (small token)) := by
  by_cases star : token = ['*']
  · rw [star]
    exact .segment rfl fun _ _ => rfl
  cases kind : isTemplate token with
  | false =>
      have kind' : isTemplate (small token) = false := (isTemplate_small token).trans kind
      rw [Segment.compile_of_not_isTemplate kind, Segment.compile_of_not_isTemplate kind']
      exact alike_literal ascii
  | true =>
      have kind' : isTemplate (small token) = true := (isTemplate_small token).trans kind
      have star' : small token ≠ ['*'] := (small_eq_iff (by decide)).not.mpr star
      cases read : readElements .outside token with
      | error fault =>
          obtain ⟨rfl, opened⟩ := readElements_eq_error_iff.mp read
          rw [compile_eq_unclosed_iff.mpr opened, compile_eq_unclosed_iff.mpr]
          · exact .fault .unclosedVariable
          · rw [openBraces_small]
            exact opened
      | ok elements =>
          have writes := readElements_eq_ok_iff.mp read
          have free' : ∀ element ∈ elements.map Element.toSmall, element.isConstrained = false := by
            refine List.forall_mem_map.mpr fun element mem => ?_
            rw [isConstrained_toSmall]
            exact free elements writes element mem
          rw [isTooLarge_iff writes kind, isTooLarge_iff writes.toSmall kind'] at size
          rw [compile_of_writes writes (free elements writes) star kind,
            compile_of_writes writes.toSmall free' star' kind', Bool.not_inj size]
          split_ifs
          · exact alike_pattern (isAscii_signs ascii writes) _ _
          · exact .fault (.invalidRegex _ _)

/-- The size of a token in small letters is that of its elements in small letters. -/
theorem isTooLarge_small_eq (ignoreCase : Bool) (token : List Char) :
    isTooLarge ignoreCase (small token) =
      match readElements .outside token with
      | .ok elements => isTemplate token &&
        !(globRegex ignoreCase ((elements.map Element.sign).map Glob.Sign.toSmall)).fits
      | .error _ => false := by
  cases read : readElements .outside token with
  | error fault =>
      have opened := (readElements_eq_error_iff.mp read).2
      rw [← openBraces_small] at opened
      have read' : readElements .outside (small token) = .error .unclosedVariable :=
        readElements_eq_error_iff.mpr ⟨rfl, opened⟩
      rw [isTooLarge, read']
  | ok elements =>
      have writes := (readElements_eq_ok_iff.mp read).toSmall
      rw [isTooLarge, readElements_of_writes writes, isTemplate_small]
      simp only [map_sign_toSmall]

/-- Without regard to case, a token is as large as it is in small letters. -/
theorem isTooLarge_small (ascii : IsAscii token) :
    isTooLarge true (small token) = isTooLarge true token := by
  rw [isTooLarge_small_eq, isTooLarge]
  cases read : readElements .outside token with
  | error fault => rfl
  | ok elements =>
      simp only [globRegex_toSmall (isAscii_signs ascii (readElements_eq_ok_iff.mp read))]

/-- A token that is not too large without regard to case is not so in small letters. -/
theorem isTooLarge_small_of_not (ascii : IsAscii token) (h : isTooLarge true token = false) :
    isTooLarge false (small token) = false := by
  rw [isTooLarge_small_eq]
  rw [isTooLarge] at h
  cases read : readElements .outside token with
  | error fault => rfl
  | ok elements =>
      have writes := readElements_eq_ok_iff.mp read
      simp only [read] at h ⊢
      cases kind : isTemplate token with
      | false => rfl
      | true =>
          rw [kind, Bool.true_and, Bool.not_eq_false'] at h
          rw [fits_toSmall (isAscii_signs ascii writes) (any_isWild kind writes) h]
          rfl

end Interception.Ant
