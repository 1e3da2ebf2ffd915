import Interception.Proofs.Regex.Reading
import Interception.Proofs.Text
import Mathlib.Data.Bool.AllAny
import Mathlib.Data.List.Basic

/-!
# Shielded text

A text is shielded if its brackets, braces and whatever else has a meaning between brackets stand
behind backslashes. A set or braces that are open when such a text begins are still open when it
ends.
-/

namespace Interception.Regex

/-! ## Blanks -/

/-- Whether no blank and no comment begins with the sign. -/
def isSolid (c : Char) : Bool := !isBlank c && c != '#'

section

variable {c : Char}

theorem isBlank_of_ascii (above : 32 < c.toNat) (ascii : c.toNat < 128) : isBlank c = false :=
  forall_ascii (P := fun c => 32 < c.toNat → isBlank c = false) (by decide +kernel) ascii above

theorem isBlank_of_isMeta (h : isMeta c = true) : isBlank c = false := by
  have all : ∀ c ∈ "\\.+*?()|[]\x7b\x7d^$#&-~".toList, 32 < c.toNat ∧ c.toNat < 128 :=
    List.all_iff_forall_prop.mp (by decide)
  obtain ⟨above, ascii⟩ := all c (List.contains_iff_mem.mp h)
  exact isBlank_of_ascii above ascii

theorem isSolid_of_ne (h : isBlank c = false) (ne : c ≠ '#') : isSolid c = true := by
  rw [isSolid, h, bne_iff_ne.mpr ne]
  rfl

theorem isSolid_of_isMeta (h : isMeta c = true) (ne : c ≠ '#') : isSolid c = true :=
  isSolid_of_ne (isBlank_of_isMeta h) ne

end

theorem skip_cons {c : Char} (solid : isSolid c = true) (verbose : Bool) (text : List Char) :
    skip verbose (c :: text) = c :: text := by
  obtain ⟨notBlank, noMark⟩ := Bool.and_eq_true_iff.mp solid
  cases verbose with
  | false => rfl
  | true =>
      have notBlank := (Bool.not_eq_true' _).mp notBlank
      have noMark : c ≠ '#' := bne_iff_ne.mp noMark
      simp only [skip, skipBlanks, if_true, notBlank, Bool.false_eq_true, if_false, noMark]

/-- What is left begins with a sign that is neither blank nor begins a comment. -/
theorem skipBlanks_cases (inComment : Bool) (text : List Char) :
    skipBlanks inComment text = [] ∨
      ∃ c rest, skipBlanks inComment text = c :: rest ∧ isSolid c = true := by
  fun_induction skipBlanks inComment text with
  | case1 => exact .inl rfl
  | case2 c rest ih => exact ih
  | case3 inComment c rest outside blank ih => exact ih
  | case4 inComment rest outside notBlank ih => exact ih
  | case5 inComment c rest outside notBlank noMark =>
      exact .inr ⟨c, rest, rfl, isSolid_of_ne (Bool.eq_false_iff.mpr notBlank) noMark⟩

theorem skip_skip (verbose : Bool) (text : List Char) :
    skip verbose (skip verbose text) = skip verbose text := by
  cases verbose with
  | false => rfl
  | true =>
      obtain none | ⟨c, rest, some, solid⟩ := skipBlanks_cases false text
      · rw [show skip true text = [] from none]
        rfl
      · rw [show skip true text = c :: rest from some]
        exact skip_cons solid true rest

/-- A comment goes on where no line ends. -/
theorem skipBlanks_append {before : List Char} (h : '\n' ∉ before) (text : List Char) :
    skipBlanks true (before ++ text) = skipBlanks true text := by
  induction before with
  | nil => rfl
  | cons c before ih =>
      obtain ⟨own, others⟩ := not_or.mp (List.mem_cons.not.mp h)
      have inside : (c != '\n') = true := bne_iff_ne.mpr (Ne.symm own)
      rw [List.cons_append, skipBlanks, if_pos rfl, inside]
      exact ih others

/-! ## Signs with a meaning -/

/-- A sign with a meaning is escaped to stand for itself. -/
theorem escape?_of_isMeta {c : Char} (h : isMeta c = true) :
    escape? c = some (.atom (.literal ⟨c, false⟩)) := by
  have mem : c ∈ "\\.+*?()|[]\x7b\x7d^$#&-~".toList := List.contains_iff_mem.mp h
  simp only [String.reduceToList, List.mem_cons, List.not_mem_nil, or_false] at mem
  rcases mem with rfl | rfl | rfl | rfl | rfl | rfl | rfl | rfl | rfl | rfl | rfl | rfl | rfl |
    rfl | rfl | rfl | rfl | rfl
  all_goals rfl

theorem readEscape?_of_isMeta {c : Char} (h : isMeta c = true) (verbose : Bool)
    (rest : List Char) :
    readEscape? verbose (c :: rest) = some (.literal ⟨c, false⟩, rest) := by
  rw [readEscape?_cons, escape?_of_isMeta h]
  rfl

/-- The letters behind a backslash that stand for a class of characters. -/
def classLetters : List Char := ['d', 'D', 's', 'S', 'w', 'W']

/-- Whether a backslash makes a sign stand for itself or for a class. -/
def isEscape (c : Char) : Bool := isMeta c || classLetters.contains c

theorem isEscape_of_isMeta {c : Char} (h : isMeta c = true) : isEscape c = true := by
  rw [isEscape, h, Bool.true_or]

theorem isSolid_of_isEscape {c : Char} (h : isEscape c = true) (ne : c ≠ '#') :
    isSolid c = true := by
  obtain sign | letter := Bool.or_eq_true_iff.mp h
  · exact isSolid_of_isMeta sign ne
  · have all : ∀ c ∈ classLetters, 32 < c.toNat ∧ c.toNat < 128 :=
      List.all_iff_forall_prop.mp (by decide)
    obtain ⟨above, ascii⟩ := all c (List.contains_iff_mem.mp letter)
    exact isSolid_of_ne (isBlank_of_ascii above ascii) ne

theorem exists_readEscape? {c : Char} (h : isEscape c = true) (verbose : Bool) (rest : List Char) :
    ∃ a, readEscape? verbose (c :: rest) = some (a, rest) ∧
      (a = .literal ⟨c, false⟩ ∨ ∃ kind negated, a = .charClass (.perl kind negated)) := by
  obtain sign | letter := Bool.or_eq_true_iff.mp h
  · exact ⟨_, readEscape?_of_isMeta sign verbose rest, .inl rfl⟩
  · have mem := List.contains_iff_mem.mp letter
    simp only [classLetters, List.mem_cons, List.not_mem_nil, or_false] at mem
    rcases mem with rfl | rfl | rfl | rfl | rfl | rfl
    all_goals exact ⟨_, rfl, .inr ⟨_, _, rfl⟩⟩

/-- The signs that have a meaning between brackets, braces, and the sign that begins a comment. -/
def guardedSigns : List Char := ['[', ']', '\x7b', '\x7d', '\\', '#', '&', '-', '~']

/-- Texts with guarded signs behind backslashes only. -/
inductive Shielded : List Char → Prop where
  | nil : Shielded []
  | bare {c rest} (own : c ∉ guardedSigns) (later : Shielded rest) : Shielded (c :: rest)
  | escaped {c rest} (own : isEscape c = true) (later : Shielded rest) :
      Shielded ('\\' :: c :: rest)

variable {verbose : Bool} {p : Char → Bool} {n : Nat} {text rest : List Char} {c : Char}

theorem Shielded.append {before : List Char} (h : ∀ c ∈ before, c ∉ guardedSigns)
    (later : Shielded text) : Shielded (before ++ text) := by
  induction before with
  | nil => exact later
  | cons c before ih =>
      obtain ⟨own, others⟩ := List.forall_mem_cons.mp h
      exact .bare own (ih others)

/-- No guarded sign but a backslash comes first. -/
theorem Shielded.notMem_or_eq (h : Shielded (c :: rest)) :
    (c ∉ guardedSigns ∧ Shielded rest) ∨ c = '\\' := by
  cases h with
  | bare own later => exact .inl ⟨own, later⟩
  | escaped own later => exact .inr rfl

theorem Shielded.skipBlanks (h : Shielded text) (inComment : Bool) :
    Shielded (skipBlanks inComment text) := by
  induction h generalizing inComment with
  | nil => exact .nil
  | @bare c rest own later ih =>
      rw [Regex.skipBlanks]
      split
      · exact ih _
      · split
        · exact ih _
        · split
          · exact ih _
          · exact .bare own later
  | @escaped c rest own later ih =>
      cases inComment with
      | true =>
          have both : '\n' ∉ ['\\', c] := by
            rintro (_ | ⟨_, _ | ⟨_, ⟨⟩⟩⟩)
            exact absurd own (by decide)
          exact (skipBlanks_append both rest).symm ▸ ih true
      | false =>
          have solid : isSolid '\\' = true := isSolid_of_isMeta rfl (by decide)
          exact (skip_cons solid true (c :: rest)).symm ▸ .escaped own later

theorem Shielded.skip (h : Shielded text) (verbose : Bool) : Shielded (skip verbose text) := by
  cases verbose with
  | false => exact h
  | true => exact h.skipBlanks false

theorem Shielded.dropWhile (h : Shielded text) (own : p '\\' = false) :
    Shielded (text.dropWhile p) := by
  induction h with
  | nil => exact .nil
  | @bare c rest bare later ih =>
      rw [List.dropWhile_cons]
      split
      · exact ih
      · exact .bare bare later
  | @escaped c rest escape later ih =>
      rw [List.dropWhile_cons_of_neg (by simp [own])]
      exact .escaped escape later

/-- Where no backslash is gathered, what is left is shielded. -/
theorem Shielded.gather (h : Shielded text) (own : p '\\' = false) (verbose : Bool) (n : Nat) :
    Shielded (gather verbose p n text).2 := by
  fun_induction Regex.gather verbose p n text with
  | case1 n c rest takes taken left eq ih =>
      obtain ⟨-, later⟩ | rfl := h.notMem_or_eq
      · rw [eq] at ih
        exact ih (later.skip _)
      · rw [own] at takes
        cases takes
  | case2 => exact h
  | case3 => exact h

/-! ## Nothing is closed -/

theorem Shielded.readItem? {a : Atom} (h : Shielded text)
    (own : readItem? verbose text = some (a, rest)) : Shielded rest := by
  cases h with
  | nil => cases own
  | @bare c text bare later =>
      have notEscape : c ≠ '\\' := fun eq => bare (by simp [eq, guardedSigns])
      rw [Regex.readItem?] at own
      · obtain ⟨-, rfl⟩ := Prod.mk.inj (Option.some.inj own)
        exact later
      · exact notEscape
  | @escaped c text escape later =>
      obtain ⟨_, reads, -⟩ := exists_readEscape? escape verbose text
      rw [Regex.readItem?, reads] at own
      obtain ⟨-, rfl⟩ := Prod.mk.inj (Option.some.inj own)
      exact later

/-- What is left of a shielded text behind blanks begins with no guarded sign but a backslash. -/
theorem Shielded.skip_ne (h : Shielded text) (mem : c ∈ guardedSigns) (ne : c ≠ '\\') :
    Regex.skip verbose text ≠ c :: rest := by
  intro eq
  have shielded := h.skip verbose
  rw [eq] at shielded
  obtain ⟨bare, -⟩ | rfl := shielded.notMem_or_eq
  · exact bare mem
  · exact ne rfl

theorem Shielded.endsRange {low : Atom} {item : ClassExpr} (h : Shielded text)
    (own : EndsRange verbose low text item rest) : Shielded rest := by
  cases own with
  | minus ahead => exact absurd ahead (h.skip_ne (by decide) (by decide))
  | range ahead => exact absurd ahead (h.skip_ne (by decide) (by decide))
  | single ahead => exact ahead ▸ h.skip verbose

theorem Shielded.readRange? {item : ClassExpr} (h : Shielded text)
    (own : readRange? verbose text = some (item, rest)) : Shielded rest := by
  obtain ⟨low, left, first, further⟩ := readRange?_eq_some_iff.mp own
  exact (h.readItem? first).endsRange further

/-- Between brackets a shielded text has nothing but items. -/
theorem Shielded.readItemSign? {sign : ItemSign} (h : Shielded text)
    (own : readItemSign? verbose (Regex.skip verbose text) = some (sign, rest)) :
    (∃ item, sign = .item item) ∧ Shielded rest := by
  have none {c : Char} (mem : c ∈ guardedSigns) (ne : c ≠ '\\') (more : List Char) :
      Regex.skip verbose text ≠ c :: more := h.skip_ne mem ne
  unfold Regex.readItemSign? at own
  split at own
  · cases own
  · next bracket => exact absurd bracket (none (by decide) (by decide) _)
  · next bracket => exact absurd bracket (none (by decide) (by decide) _)
  · next both => exact absurd both (none (by decide) (by decide) _)
  · next both => exact absurd both (none (by decide) (by decide) _)
  · next both => exact absurd both (none (by decide) (by decide) _)
  · obtain ⟨⟨item, left⟩, range, same⟩ := Option.map_eq_some_iff.mp own
    obtain ⟨rfl, rfl⟩ := Prod.mk.inj same
    exact ⟨⟨item, rfl⟩, (h.skip verbose).readRange? range⟩

/-- A set that is open is not closed by a shielded text. -/
theorem not_readsItems_of_shielded {o : OpenClass} {set : ClassExpr} (shielded : Shielded text) :
    ¬ ReadsItems verbose o text set rest := by
  intro h
  induction h with
  | close own =>
      obtain ⟨⟨item, ⟨⟩⟩, -⟩ := shielded.readItemSign? own
  | step own made later ih => exact ih (shielded.readItemSign? own).2
  | nested own opening inner later ihInner ih =>
      obtain ⟨⟨item, ⟨⟩⟩, -⟩ := shielded.readItemSign? own

theorem openingMinuses_of_ne (noMinus : ∀ more, text ≠ '-' :: more) (verbose : Bool) (n : Nat) :
    openingMinuses verbose n text = (0, text) := by
  cases n with
  | zero => rfl
  | succ n =>
      rw [openingMinuses]
      exact fun _ more _ => noMinus more

theorem Shielded.openingMinuses (h : Shielded text) (verbose : Bool) (n : Nat) :
    openingMinuses verbose n text = (0, text) := by
  refine openingMinuses_of_ne ?_ verbose n
  rintro more rfl
  obtain ⟨bare, -⟩ | ⟨⟨⟩⟩ := h.notMem_or_eq
  exact bare (by decide)

theorem Shielded.readCaret (h : Shielded (Regex.skip verbose text)) :
    Shielded (readCaret verbose text).2 := by
  unfold Regex.readCaret
  split
  · next more caret =>
    rw [caret] at h
    obtain ⟨-, later⟩ | ⟨⟨⟩⟩ := h.notMem_or_eq
    exact later.skip verbose
  · exact h

/-- What is left behind a count, if it is one. -/
def afterCount (verbose : Bool) (text : List Char) : List Char :=
  let rest := (Regex.gather verbose Char.isDigit text.length (text.dropWhile isBlank)).2
  (Regex.gather verbose isBlank rest.length rest).2

theorem readCount?_eq_some {count : Nat} (h : readCount? verbose text = some (count, rest)) :
    rest = afterCount verbose text := by
  unfold Regex.readCount? at h
  split at h
  · cases h
  · next digits left ne own =>
    rw [afterCount, own]
    grind

theorem Shielded.afterCount (h : Shielded text) : Shielded (afterCount verbose text) :=
  ((h.dropWhile (isBlank_of_isMeta rfl)).gather (by decide) _ _).gather (isBlank_of_isMeta rfl) _ _

theorem Shielded.readCount? {count : Nat} (h : Shielded text)
    (own : readCount? verbose text = some (count, rest)) : Shielded rest :=
  readCount?_eq_some own ▸ h.afterCount

theorem not_shielded_brace : ¬ Shielded ('\x7d' :: rest) := by
  intro h
  obtain ⟨bare, -⟩ | ⟨⟨⟩⟩ := h.notMem_or_eq
  exact bare (by decide)

/-- Braces of a count are not closed by a shielded text. -/
theorem not_endsBounds_of_shielded {least : Nat} {most : Option Nat} (shielded : Shielded text) :
    ¬ EndsBounds verbose least text most rest := by
  intro h
  cases h with
  | exactly => exact not_shielded_brace shielded
  | atLeast ahead =>
      obtain ⟨-, later⟩ | ⟨⟨⟩⟩ := shielded.notMem_or_eq
      exact not_shielded_brace (ahead ▸ later.skip verbose)
  | upTo _ further =>
      obtain ⟨-, later⟩ | ⟨⟨⟩⟩ := shielded.notMem_or_eq
      exact not_shielded_brace ((later.skip verbose).readCount? further)

end Interception.Regex
