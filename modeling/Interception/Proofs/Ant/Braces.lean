import Interception.Proofs.Ant.Faults
import Interception.Proofs.Ant.Literal

/-!
# Patterns with unclosed braces

How many braces are open at a place of a text depends on what stands before it alone. A token has a
variable that is not closed exactly if braces are open at its end. A pattern is cut at separators
before its tokens are read, and a brace that is open at a separator is not closed in its token, even
if the pattern closes it later on. Where no brace is open at a separator, each token is read as it
is read within the pattern, and every brace that the pattern closes is closed in its token.
-/

namespace Interception.Ant

/-! ## Counting braces -/

/-- How many braces are open after a character, given how many are open before it. A closing brace
where none is open is text. -/
def braceStep (depth : Nat) (c : Char) : Nat :=
  if c = '\x7b' then depth + 1 else if c = '\x7d' then depth - 1 else depth

/-- How many braces are open at the end of a text, given how many are open before it. -/
def openBraces (depth : Nat) (text : List Char) : Nat := text.foldl braceStep depth

@[simp] theorem openBraces_nil (depth : Nat) : openBraces depth [] = depth := rfl

@[simp] theorem openBraces_cons (depth : Nat) (c : Char) (text : List Char) :
    openBraces depth (c :: text) = openBraces (braceStep depth c) text := rfl

@[simp] theorem openBraces_append (depth : Nat) (left right : List Char) :
    openBraces depth (left ++ right) = openBraces (openBraces depth left) right :=
  List.foldl_append

theorem braceStep_of_ne {c : Char} (opens : c ≠ '\x7b') (closes : c ≠ '\x7d') (depth : Nat) :
    braceStep depth c = depth := by
  rw [braceStep, if_neg opens, if_neg closes]

/-- Where no brace is open, only an opening brace makes a difference. -/
theorem braceStep_zero {c : Char} (opens : c ≠ '\x7b') : braceStep 0 c = 0 := by
  rw [braceStep, if_neg opens]
  split_ifs <;> rfl

theorem openBraces_eq_zero_of_notMem {text : List Char} (h : '\x7b' ∉ text) :
    openBraces 0 text = 0 := by
  induction text with
  | nil => rfl
  | cons c text ih =>
      obtain ⟨own, others⟩ := not_or.mp (List.mem_cons.not.mp h)
      rw [openBraces_cons, braceStep_zero (Ne.symm own)]
      exact ih others

/-! ## Blanks -/

theorem openBraces_of_blank {text : List Char}
    (h : ∀ c ∈ text, Unicode.Property.whiteSpace.contains c = true) (depth : Nat) :
    openBraces depth text = depth := by
  induction text with
  | nil => rfl
  | cons c text ih =>
      obtain ⟨own, others⟩ := List.forall_mem_cons.mp h
      have opens : c ≠ '\x7b' := by
        rintro rfl
        exact absurd own (by decide)
      have closes : c ≠ '\x7d' := by
        rintro rfl
        exact absurd own (by decide)
      rw [openBraces_cons, braceStep_of_ne opens closes]
      exact ih others

/-- Trimming takes blanks off, and those are no braces. -/
theorem openBraces_trim (text : List Char) :
    openBraces 0 (Text.trim text) = openBraces 0 text := by
  obtain ⟨left, right, whole, before, behind⟩ := Text.exists_blanks_trim text
  conv_rhs => rw [whole]
  rw [openBraces_append, openBraces_append, openBraces_of_blank before, openBraces_of_blank behind]

/-! ## Tokens -/

/-- How many braces are open in a place of a token. -/
def Place.depth : Place → Nat
  | .outside => 0
  | .inside depth _ => depth + 1

theorem map_eq_error_iff {element : Element} {rest : Except Fault (List Element)} {fault : Fault} :
    rest.map (element :: ·) = .error fault ↔ rest = .error fault := by
  cases rest <;> simp [Except.map]

/-- What is wrong with a token that cannot be read is that braces are open at its end. -/
theorem readElements_eq_error_iff {place : Place} {token : List Char} {fault : Fault} :
    readElements place token = .error fault ↔
      fault = .unclosedVariable ∧ openBraces place.depth token ≠ 0 := by
  fun_induction readElements place token with
  | case1 => simp [Place.depth]
  | case2 depth body => simp [Place.depth, eq_comm]
  | case3 rest ih => simpa [map_eq_error_iff, Place.depth, braceStep] using ih
  | case4 rest ih => simpa [map_eq_error_iff, Place.depth, braceStep] using ih
  | case5 rest ih => simpa [Place.depth, braceStep] using ih
  | case6 rest c mark star brace ih =>
      rw [map_eq_error_iff, openBraces_cons]
      show _ ↔ _ ∧ openBraces (braceStep 0 c) rest ≠ 0
      rw [braceStep_zero brace]
      exact ih
  | case7 read rest depth ih => simpa [Place.depth, braceStep] using ih
  | case8 read rest ih => simpa [map_eq_error_iff, Place.depth, braceStep] using ih
  | case9 read rest depth ih => simpa [Place.depth, braceStep] using ih
  | case10 read rest c depth opens closes closes' ih =>
      have brace : c ≠ '\x7d' := by
        intro eq
        cases depth with
        | zero => exact closes eq rfl
        | succ depth => exact closes' depth eq rfl
      rw [openBraces_cons, braceStep_of_ne opens brace]
      exact ih

/-- A token is reported as unclosed exactly if braces are open at its end: the only other fault is
that of a source. -/
theorem compile_eq_unclosed_iff {ignoreCase : Bool} {token : List Char} :
    Segment.compile ignoreCase token = .error .unclosedVariable ↔ openBraces 0 token ≠ 0 := by
  by_cases kind : isTemplate token = true
  · by_cases star : token = ['*']
    · rw [Segment.compile, if_pos star, star]
      exact iff_of_false (by simp) (by decide)
    · rw [Segment.compile, if_neg star, if_pos kind, Draft.ofToken_eq]
      cases read : readElements .outside token with
      | error fault =>
          obtain ⟨rfl, opened⟩ := readElements_eq_error_iff.mp read
          exact iff_of_true rfl opened
      | ok elements =>
          have closed : openBraces 0 token = 0 := by
            by_contra opened
            have failed : readElements .outside token = .error .unclosedVariable :=
              readElements_eq_error_iff.mpr ⟨rfl, opened⟩
            rw [read] at failed
            cases failed
          refine iff_of_false ?_ (not_not.mpr closed)
          simp only [Except.map, bind, Except.bind]
          split <;> (intro failed; cases failed)
  · rw [Segment.compile_of_not_isTemplate (Bool.eq_false_iff.mpr kind)]
    refine iff_of_false (by simp) (not_not.mpr (openBraces_eq_zero_of_notMem ?_))
    intro mem
    exact kind (List.any_eq_true.mpr ⟨_, mem, rfl⟩)

end Interception.Ant

namespace Interception.AntMatcher

open Ant

variable {m : AntMatcher} {token pattern path : List Char}

/-! ## Patterns -/

/-- No brace is open at the end of a piece if none is open at the cuts and at the end of the whole:
what stands before a cut leaves no brace open for what follows. -/
theorem openBraces_of_joined {separator : Char} (brace : separator ≠ '\x7b')
    {texts : List (List Char)} (closed : openBraces 0 (Text.joined separator texts) = 0)
    (uncut : ∀ left right, Text.joined separator texts = left ++ separator :: right →
      openBraces 0 left = 0) : ∀ piece ∈ texts, openBraces 0 piece = 0 := by
  induction texts with
  | nil => exact List.forall_mem_nil _
  | cons first texts ih =>
      cases texts with
      | nil => exact List.forall_mem_singleton.mpr closed
      | cons second texts =>
          rw [Text.joined_cons_cons] at closed uncut
          have front : openBraces 0 first = 0 := uncut _ _ rfl
          have further : ∀ rest, openBraces 0 (first ++ separator :: rest) = openBraces 0 rest := by
            intro rest
            rw [openBraces_append, front, openBraces_cons, braceStep_zero brace]
          refine List.forall_mem_cons.mpr ⟨front, ih ?_ ?_⟩
          · rw [← further]
            exact closed
          · intro left right split
            rw [← further]
            exact uncut _ right (by rw [split, List.append_assoc, List.cons_append])

theorem openBraces_of_mem_pieces {separator : Char} {text piece : List Char}
    (closed : openBraces 0 text = 0)
    (uncut : ∀ left right, text = left ++ separator :: right → openBraces 0 left = 0)
    (mem : piece ∈ Text.pieces separator text) : openBraces 0 piece = 0 := by
  by_cases brace : separator = '\x7b'
  · apply openBraces_eq_zero_of_notMem
    rw [← brace]
    exact Text.separator_notMem_of_mem_pieces mem
  · rw [← Text.joined_pieces separator text] at closed uncut
    exact openBraces_of_joined brace closed uncut piece mem

theorem openBraces_tokenOf (piece : List Char) :
    openBraces 0 (m.tokenOf piece) = openBraces 0 piece := by
  rw [tokenOf]
  split_ifs
  · exact openBraces_trim piece
  · rfl

/-- A fault that is found is that of a token. -/
theorem exists_compile_of_capture {fault : Fault} (h : m.capture pattern path = .error fault) :
    ∃ token ∈ m.tokens pattern, m.compile token = .error fault := by
  by_cases sound : ∀ token ∈ m.tokens pattern, m.Parses token
  · obtain ⟨answer, answered⟩ :=
      isMatch_total (fun token mem => isSound_ofText_iff.mpr (sound token mem)) path
    rw [isMatch_of_capture_error h] at answered
    cases answered
  · obtain ⟨token, mem, faulty⟩ := not_forall₂.mp sound
    obtain ⟨front, own, first⟩ := exists_firstFault_iff.mpr ⟨token, mem, faulty⟩
    obtain ⟨_, failed⟩ | ⟨_, none⟩ := first.capture_eq path
    · obtain rfl : fault = own := Except.error.inj (h.symm.trans failed)
      obtain ⟨next, back, split, _, compiled⟩ := first.next
      exact ⟨next, split ▸ List.mem_append_cons_self, compiled⟩
    · rw [h] at none
      cases none

theorem faultIn_eq_unclosed {fault : Fault} {text : String}
    (h : m.faultIn pattern fault = .unclosedVariable text) : fault = .unclosedVariable := by
  cases fault with
  | unclosedVariable => rfl
  | invalidRegex => cases h

/-- Where every brace of a pattern is closed, and none is open at a separator, no variable is
reported as unclosed, be it by matching or by extraction. -/
theorem ne_unclosed_of_closed (m : AntMatcher) (pattern path : List Char)
    (closed : openBraces 0 pattern = 0)
    (uncut : ∀ left right, pattern = left ++ m.separator :: right → openBraces 0 left = 0)
    (text : String) :
    m.isMatch pattern path ≠ .error (.unclosedVariable text) ∧
      m.extract pattern path ≠ .error (.unclosedVariable text) := by
  have noToken : ∀ token ∈ m.tokens pattern, m.compile token ≠ .error .unclosedVariable := by
    intro token mem failed
    obtain ⟨made, _⟩ := List.mem_filter.mp mem
    obtain ⟨piece, isPiece, own⟩ := List.mem_map.mp made
    have isToken : m.tokenOf piece = token := own
    rw [compile, compile_eq_unclosed_iff, ← isToken, openBraces_tokenOf] at failed
    exact failed (openBraces_of_mem_pieces closed uncut isPiece)
  have notFound : m.capture pattern path ≠ .error .unclosedVariable := by
    intro failed
    obtain ⟨token, mem, own⟩ := exists_compile_of_capture failed
    exact noToken token mem own
  rcases found : m.capture pattern path with fault | _ | captures
  · rw [isMatch_of_capture_error found, extract_of_capture_error found]
    have other : m.faultIn pattern fault ≠ .unclosedVariable text := by
      intro eq
      rw [faultIn_eq_unclosed eq] at found
      exact notFound found
    exact ⟨fun eq => other (Except.error.inj eq), fun eq => other (Except.error.inj eq)⟩
  · rw [isMatch_of_capture found, extract_of_capture_none found]
    simp
  · rw [isMatch_of_capture found, extract_of_capture found]
    simp

/-- Nested braces, where the pattern is cut outside of the variables only. -/
theorem ne_unclosed_nested :
    default.isMatch "/{a:x{1,2}}/{b}".toList "/xx/y".toList ≠
        .error (.unclosedVariable "/{a:x{1,2}}/{b}") ∧
      default.extract "/{a:x{1,2}}/{b}".toList "/xx/y".toList ≠
        .error (.unclosedVariable "/{a:x{1,2}}/{b}") := by
  refine ne_unclosed_of_closed default _ _ (by decide) ?_ _
  intro left right split
  have cuts : ∀ i < 15, "/{a:x{1,2}}/{b}".toList[i]? = some '/' →
      openBraces 0 ("/{a:x{1,2}}/{b}".toList.take i) = 0 := by decide
  have length : left.length < 15 := by
    have whole := congrArg List.length split
    simp only [List.length_append, List.length_cons] at whole
    have : "/{a:x{1,2}}/{b}".toList.length = 15 := rfl
    omega
  have own := cuts left.length length
  rw [split, List.take_left, List.getElem?_append_right (Nat.le_refl _), Nat.sub_self]
    at own
  exact own rfl

/-- Every brace of the pattern is closed, and a regular expression in it has the separator in it: the
variable is reported as unclosed, although what stands between its braces would match the path. -/
theorem isMatch_separator_in_constraint :
    balancedFrom 0 "/{a:[^/]+}".toList = true ∧
      default.isMatch "/{a:[^/]+}".toList "/x".toList =
        .error (.unclosedVariable "/{a:[^/]+}") ∧
      default.extract "/{a:[^/]+}".toList "/x".toList =
        .error (.unclosedVariable "/{a:[^/]+}") := by
  have found : default.capture "/{a:[^/]+}".toList "/x".toList = .error .unclosedVariable := by
    decide +kernel
  exact ⟨by decide, isMatch_of_capture_error found, extract_of_capture_error found⟩

end Interception.AntMatcher
