import Interception.Regex.Meaning

/-!
# Readings of regular expressions

What the readers of sets and groups read, sign by sign and without a bound on their calls. Every
sign is shorter than the text in front of which it stands, except that nothing is taken where a
group stops, so the bounds that the readers start with are never used up: what they read is exactly
what these relations say.
-/

namespace Interception.Regex

/-! ## Escapes -/

/-- What an escape is, by the sign after its backslash. -/
inductive Escape where
  | atom (a : Atom)
  | hex (width : Nat)
  | property (negated : Bool)
  | boundary

/-- The escape that a sign begins, if it may be escaped. -/
def escape? : Char → Option Escape
  | 'x' => some (.hex 2)
  | 'u' => some (.hex 4)
  | 'U' => some (.hex 8)
  | 'p' => some (.property false)
  | 'P' => some (.property true)
  | 'd' => some (.atom (.charClass (.perl .digit false)))
  | 'D' => some (.atom (.charClass (.perl .digit true)))
  | 's' => some (.atom (.charClass (.perl .space false)))
  | 'S' => some (.atom (.charClass (.perl .space true)))
  | 'w' => some (.atom (.charClass (.perl .word false)))
  | 'W' => some (.atom (.charClass (.perl .word true)))
  | 'a' => some (.atom (.literal ⟨'\x07', false⟩))
  | 'f' => some (.atom (.literal ⟨'\x0c', false⟩))
  | 't' => some (.atom (.literal ⟨'\t', false⟩))
  | 'n' => some (.atom (.literal ⟨'\n', false⟩))
  | 'r' => some (.atom (.literal ⟨'\r', false⟩))
  | 'v' => some (.atom (.literal ⟨'\x0b', false⟩))
  | 'A' => some (.atom (.assertion .textStart))
  | 'z' => some (.atom (.assertion .textEnd))
  | 'b' => some .boundary
  | 'B' => some (.atom (.assertion .notWordBoundary))
  | '<' => some (.atom (.assertion .wordStart))
  | '>' => some (.atom (.assertion .wordEnd))
  | c => if isEscapable c then some (.atom (.literal ⟨c, false⟩)) else none

/-- An escape goes on as its first sign tells. -/
theorem readEscape?_cons (verbose : Bool) (c : Char) (rest : List Char) :
    readEscape? verbose (c :: rest) =
      (escape? c).bind fun
        | .atom a => some (a, rest)
        | .hex width => (readHex? verbose width rest).map fun (l, rest) => (.literal l, rest)
        | .property negated =>
          (readProperty? verbose rest).map fun (q, rest) => (.charClass (.property q negated), rest)
        | .boundary => (readBoundary? verbose rest).map fun (a, rest) => (.assertion a, rest) := by
  simp only [readEscape?, escape?]
  split
  all_goals try first | rfl | exact Option.map_eq_bind.symm
  by_cases own : isEscapable c
  · simp only [if_pos own]
    rfl
  · simp only [if_neg own]
    rfl

variable {verbose : Bool} {text rest inside : List Char} {width : Nat}

/-- The character that hexadecimal digits write. -/
def hexChar? (digits : List Char) : Option Char := (hexNumber? digits).bind char?

/-- A code point in hexadecimal between braces. -/
theorem readHex?_braced (h : skip verbose text = '\x7b' :: inside) :
    readHex? verbose width text =
      match gather verbose (· != '\x7d') inside.length (skip verbose inside) with
      | (d :: digits, _ :: left) =>
        (hexChar? (d :: digits)).map fun c => (⟨c, false⟩, skip verbose left)
      | _ => none := by
  unfold readHex?
  rw [h]
  simp only
  rcases gather verbose (· != '\x7d') inside.length (skip verbose inside) with
    ⟨_ | ⟨d, digits⟩, _ | ⟨mark, left⟩⟩
  · rfl
  · rfl
  · rfl
  · simp only [hexChar?, List.isEmpty_cons, Bool.false_eq_true, ↓reduceIte]
    cases hexNumber? (d :: digits) with
    | none => rfl
    | some n =>
        simp only [bind, Option.bind_some]
        cases char? n <;> rfl

/-- A code point in hexadecimal of so many digits. -/
theorem readHex?_digits (h : ∀ inside, skip verbose text ≠ '\x7b' :: inside) :
    readHex? verbose width text =
      (takeExactly verbose width (skip verbose text)).bind fun (digits, left) =>
        (hexChar? digits).map fun c => (⟨c, width == 2⟩, left) := by
  unfold readHex?
  split
  · next inside own => exact absurd own (h inside)
  · simp only [bind]
    congr 1
    funext ⟨digits, left⟩
    simp only [hexChar?]
    cases hexNumber? digits with
    | none => rfl
    | some n =>
        simp only [Option.bind_some]
        cases char? n <;> rfl

/-- A property between braces. -/
theorem readProperty?_braced (h : skip verbose text = '\x7b' :: inside) :
    readProperty? verbose text =
      match gather verbose (· != '\x7d') inside.length (skip verbose inside) with
      | (_, []) => none
      | (name, _ :: rest) => some (queryOfText name, rest) := by
  rw [readProperty?, h]
  rfl

/-- A property of one letter. -/
theorem readProperty?_letter {c : Char} (h : skip verbose text = c :: inside) (ne : c ≠ '\x7b') :
    readProperty? verbose text =
      if c = '\\' then none else some (.named [c], skip verbose inside) := by
  unfold readProperty?
  rw [h]
  split
  · next eq => cases eq
  · next eq => exact absurd (List.cons.inj eq).1 ne
  · next eq =>
    obtain ⟨rfl, rfl⟩ := List.cons.inj eq
    rfl

/-- The signs of the names of boundaries. -/
def isBoundarySign (c : Char) : Bool := c.isAlpha || c == '-'

/-- Braces behind `\b` hold the name of a boundary if they begin with a sign of one. -/
theorem readBoundary?_braced {c : Char} {more : List Char} (h : skip verbose inside = c :: more) :
    readBoundary? verbose ('\x7b' :: inside) =
      if isBoundarySign c then
        match gather verbose isBoundarySign (inside.length + 1) (c :: more) with
        | (name, '\x7d' :: rest) => (boundaryNamed? name).map (·, rest)
        | _ => none
      else some (.wordBoundary, '\x7b' :: inside) := by
  rw [readBoundary?, h]
  rfl

theorem readBoundary?_open (h : skip verbose inside = []) :
    readBoundary? verbose ('\x7b' :: inside) = none := by
  rw [readBoundary?, h]

/-! ## Ranges -/

/-- Whether a minus before this text stands for itself, as the set or its left side ends there. -/
def IsLastMinus (verbose : Bool) (text : List Char) : Prop :=
  signAhead? verbose text = some ']' ∨ signAhead? verbose text = some '-'

/-- How an item goes on behind its first sign: the sign stands alone before a last minus or before
another sign, or it begins a range. -/
inductive EndsRange (verbose : Bool) (low : Atom) (left : List Char) :
    ClassExpr → List Char → Prop where
  | minus {after c} (ahead : skip verbose left = '-' :: after) (own : IsLastMinus verbose after)
      (item : low.toItem? = some c) : EndsRange verbose low left c ('-' :: after)
  | range {after high first last rest} (ahead : skip verbose left = '-' :: after)
      (own : ¬ IsLastMinus verbose after)
      (further : readItem? verbose (skip verbose after) = some (high, rest))
      (isLow : low.toLiteral? = some first) (isHigh : high.toLiteral? = some last)
      (le : first.char ≤ last.char) : EndsRange verbose low left (.range first last) rest
  | single {c rest} (ahead : skip verbose left = rest) (ne : rest ≠ [])
      (noMinus : ∀ after, rest ≠ '-' :: after) (item : low.toItem? = some c) :
      EndsRange verbose low left c rest

/-- An item is a range where a minus stands after it that is not the last sign. -/
theorem readRange?_eq_some_iff {c : ClassExpr} :
    readRange? verbose text = some (c, rest) ↔
      ∃ low left, readItem? verbose text = some (low, left) ∧
        EndsRange verbose low left c rest := by
  simp only [readRange?, bind, pure, Option.bind_eq_some_iff, Prod.exists]
  refine exists_congr fun low => exists_congr fun left => and_congr_right fun _ => ?_
  constructor
  · intro h
    have stands {after : List Char} (ahead : skip verbose left = '-' :: after)
        (own : IsLastMinus verbose after)
        (h : (low.toItem?.bind fun item => some (item, '-' :: after)) = some (c, rest)) :
        EndsRange verbose low left c rest := by
      obtain ⟨item, isItem, own'⟩ := Option.bind_eq_some_iff.mp h
      obtain ⟨rfl, rfl⟩ := Prod.mk.inj (Option.some.inj own')
      exact .minus ahead own isItem
    split at h
    · cases h
    · next after ahead =>
      split at h
      · next close => exact stands ahead (.inl close) h
      · next minus => exact stands ahead (.inr minus) h
      · next noClose noMinus =>
        simp only [Option.bind_eq_some_iff, Prod.exists] at h
        obtain ⟨high, left', further, first, isLow, last, isHigh, own⟩ := h
        split at own
        · next le =>
          obtain ⟨rfl, rfl⟩ := Prod.mk.inj (Option.some.inj own)
          exact .range ahead (not_or.mpr ⟨noClose, noMinus⟩) further isLow isHigh le
        · cases own
    · next ne noMinus =>
      obtain ⟨item, isItem, own⟩ := Option.bind_eq_some_iff.mp h
      obtain ⟨rfl, rfl⟩ := Prod.mk.inj (Option.some.inj own)
      exact .single rfl ne noMinus isItem
  · rintro (⟨ahead, own, item⟩ | ⟨ahead, own, further, isLow, isHigh, le⟩ |
      ⟨rfl, ne, noMinus, item⟩)
    · obtain own | own := own <;> simp only [ahead, own, item, Option.bind_some]
    · obtain ⟨noClose, noMinus⟩ := not_or.mp own
      simp only [ahead, further, isLow, isHigh, Option.bind_some, if_pos le]
    · split
      · next none => exact absurd none ne
      · next after minus => exact absurd minus (noMinus after)
      · simp only [item, Option.bind_some]

/-! ## Bounds and openings -/

/-- Whether a set begins with a circumflex, with what is left behind it. -/
def readCaret (verbose : Bool) (text : List Char) : Bool × List Char :=
  match skip verbose text with
  | '^' :: rest => (true, skip verbose rest)
  | rest => (false, rest)

theorem readOpening?_eq (verbose : Bool) (text : List Char) :
    readOpening? verbose text =
      match openingMinuses verbose (readCaret verbose text).2.length (readCaret verbose text).2 with
      | (_, []) => none
      | (0, ']' :: rest) =>
        match skip verbose rest with
        | [] => none
        | rest => some ((readCaret verbose text).1, ⟨none, [.literal ⟨']', false⟩]⟩, rest)
      | (n, rest) =>
        some ((readCaret verbose text).1, ⟨none, List.replicate n (.literal ⟨'-', false⟩)⟩, rest) :=
  rfl

/-- A set begins with minus signs or with a bracket, which must not be the last sign. -/
theorem readOpening?_eq_some_iff {negated : Bool} {start : OpenClass} :
    readOpening? verbose text = some (negated, start, rest) ↔
      ∃ n left,
        openingMinuses verbose (readCaret verbose text).2.length (readCaret verbose text).2 =
          (n, left) ∧ negated = (readCaret verbose text).1 ∧
        ((∃ more, n = 0 ∧ left = ']' :: more ∧ skip verbose more ≠ [] ∧ rest = skip verbose more ∧
            start = ⟨none, [.literal ⟨']', false⟩]⟩) ∨
          (left ≠ [] ∧ (n = 0 → ∀ more, left ≠ ']' :: more) ∧ rest = left ∧
            start = ⟨none, List.replicate n (.literal ⟨'-', false⟩)⟩)) := by
  rw [readOpening?_eq]
  obtain ⟨n, left⟩ :=
    openingMinuses verbose (readCaret verbose text).2.length (readCaret verbose text).2
  split
  · grind
  · split <;> grind
  · grind

/-- How bounds go on behind the first count, `least`. -/
inductive EndsBounds (verbose : Bool) (least : Nat) :
    List Char → Option Nat → List Char → Prop where
  | exactly (after : List Char) : EndsBounds verbose least ('\x7d' :: after) (some least) after
  | atLeast {after rest} (ahead : skip verbose after = '\x7d' :: rest) :
      EndsBounds verbose least (',' :: after) none rest
  | upTo {after n rest} (noBrace : ∀ more, skip verbose after ≠ '\x7d' :: more)
      (further : readCount? verbose (skip verbose after) = some (n, '\x7d' :: rest))
      (le : least ≤ n) : EndsBounds verbose least (',' :: after) (some n) rest

/-- Bounds are a count, with a comma behind it an open end, or a count, a comma and a greater
one. -/
theorem readBounds?_eq_some_iff {least : Nat} {most : Option Nat} :
    readBounds? verbose text = some (least, most, rest) ↔
      ∃ left, readCount? verbose (skip verbose text) = some (least, left) ∧
        EndsBounds verbose least left most rest := by
  simp only [readBounds?, bind, pure, Option.bind_eq_some_iff, Prod.exists]
  constructor
  · rintro ⟨n, left, count, own⟩
    split at own
    · next after =>
      split at own
      · next ahead =>
        obtain ⟨rfl, rfl, rfl⟩ := own
        exact ⟨_, count, .atLeast ahead⟩
      · next noBrace =>
        obtain ⟨⟨m, last⟩, further, own⟩ := Option.bind_eq_some_iff.mp own
        simp only at own
        split at own
        · split at own
          · next le =>
            obtain ⟨rfl, rfl, rfl⟩ := own
            exact ⟨_, count, .upTo noBrace further le⟩
          · cases own
        · cases own
    · obtain ⟨rfl, rfl, rfl⟩ := own
      exact ⟨_, count, .exactly _⟩
    · cases own
  · rintro ⟨left, count, ⟨⟩ | ⟨ahead⟩ | ⟨noBrace, further, le⟩⟩
    · exact ⟨least, _, count, rfl⟩
    · exact ⟨least, _, count, by simp only [ahead]⟩
    · refine ⟨least, _, count, ?_⟩
      simp only [further, Option.bind_some, if_pos le]

/-- How a group begins: with its name, with flags, or with nothing. -/
inductive BeginsGroup : List Char → Opening → List Char → Prop where
  | named {inside name rest} (own : readName? inside = some (name, rest)) :
      BeginsGroup ('?' :: 'P' :: '<' :: inside) (.group (.named name)) rest
  | angled {inside name rest} (own : readName? inside = some (name, rest)) :
      BeginsGroup ('?' :: '<' :: inside) (.group (.named name)) rest
  | flags {inside items rest} (own : readFlags? [] inside = some (items, ')' :: rest))
      (ne : items ≠ []) : BeginsGroup ('?' :: inside) (.flags items) rest
  | flagged {inside items mark rest} (own : readFlags? [] inside = some (items, mark :: rest))
      (ne : mark ≠ ')') : BeginsGroup ('?' :: inside) (.group (.flagged items)) rest
  | numbered {whole} (noMark : ∀ inside, whole ≠ '?' :: inside) :
      BeginsGroup whole (.group .numbered) whole

theorem readFlags?_sign {c : Char} (h : c ∈ ['=', '!', '<', 'P']) (items : List FlagItem) :
    readFlags? items (c :: text) = none := by
  simp only [List.mem_cons, List.not_mem_nil, or_false] at h
  obtain rfl | rfl | rfl | rfl := h <;> rfl

theorem readName?_sign {c : Char} (h : c ∈ ['=', '!']) : readName? (c :: text) = none := by
  simp only [List.mem_cons, List.not_mem_nil, or_false] at h
  unfold readName?
  split
  · next d more others rest own _ =>
    obtain rfl | rfl := h
    · rw [List.takeWhile_cons_of_pos (by decide)] at own
      obtain ⟨rfl, -⟩ := List.cons.inj own
      rfl
    · rw [List.takeWhile_cons_of_pos (by decide)] at own
      obtain ⟨rfl, -⟩ := List.cons.inj own
      rfl
  · rfl

theorem readGroupOpening?_angled {name : String} (h : skip verbose text = '?' :: '<' :: inside)
    (own : readName? inside = some (name, rest)) :
    readGroupOpening? verbose text = some (.group (.named name), rest) := by
  have noSign {c : Char} {more : List Char} (mem : c ∈ ['=', '!']) : inside ≠ c :: more := by
    rintro rfl
    cases (readName?_sign mem).symm.trans own
  unfold readGroupOpening?
  rw [h]
  split
  · next eq => cases eq
  · next eq => cases eq
  · next eq => exact absurd (List.cons.inj (List.cons.inj eq).2).2 (noSign (by decide))
  · next eq => exact absurd (List.cons.inj (List.cons.inj eq).2).2 (noSign (by decide))
  · next eq => cases eq
  · next eq =>
    obtain rfl := (List.cons.inj (List.cons.inj eq).2).2
    simp only [own, bind, Option.bind_some]
    rfl
  · next noAngle eq =>
    obtain rfl := (List.cons.inj eq).2
    exact absurd rfl (noAngle inside)
  · next noMark => exact absurd rfl (noMark _)

theorem readGroupOpening?_flags {items : List FlagItem} {mark : Char}
    (h : skip verbose text = '?' :: inside)
    (own : readFlags? [] inside = some (items, mark :: rest)) :
    readGroupOpening? verbose text =
      if mark = ')' then if items = [] then none else some (.flags items, rest)
      else some (.group (.flagged items), rest) := by
  have noSign {c : Char} {more : List Char} (mem : c ∈ ['=', '!', '<', 'P']) :
      inside ≠ c :: more := by
    rintro rfl
    cases (readFlags?_sign mem []).symm.trans own
  unfold readGroupOpening?
  rw [h]
  split
  · next eq => exact absurd (List.cons.inj eq).2 (noSign (by decide))
  · next eq => exact absurd (List.cons.inj eq).2 (noSign (by decide))
  · next eq => exact absurd (List.cons.inj eq).2 (noSign (by decide))
  · next eq => exact absurd (List.cons.inj eq).2 (noSign (by decide))
  · next eq => exact absurd (List.cons.inj eq).2 (noSign (by decide))
  · next eq => exact absurd (List.cons.inj eq).2 (noSign (by decide))
  · next eq =>
    obtain rfl := (List.cons.inj eq).2
    simp only [own, bind, Option.bind_some]
    cases items <;> grind
  · next noMark => exact absurd rfl (noMark inside)

theorem readGroupOpening?_eq_some_iff {opening : Opening} :
    readGroupOpening? verbose text = some (opening, rest) ↔
      BeginsGroup (skip verbose text) opening rest := by
  constructor
  · intro h
    unfold readGroupOpening? at h
    split at h
    · cases h
    · cases h
    · cases h
    · cases h
    · next inside ahead =>
      obtain ⟨⟨name, left⟩, own, same⟩ := Option.bind_eq_some_iff.mp h
      obtain ⟨rfl, rfl⟩ := Prod.mk.inj (Option.some.inj same)
      exact ahead ▸ .named own
    · next inside ahead =>
      obtain ⟨⟨name, left⟩, own, same⟩ := Option.bind_eq_some_iff.mp h
      obtain ⟨rfl, rfl⟩ := Prod.mk.inj (Option.some.inj same)
      exact ahead ▸ .angled own
    · next inside ahead =>
      obtain ⟨⟨items, left⟩, own, same⟩ := Option.bind_eq_some_iff.mp h
      rw [ahead]
      split at same
      · cases same
      · next ne eq => grind [BeginsGroup]
      · next ne eq => grind [BeginsGroup]
      · cases same
    · next noMark =>
      obtain ⟨rfl, rfl⟩ := Prod.mk.inj (Option.some.inj h)
      exact .numbered noMark
  · generalize eq : skip verbose text = ahead
    intro h
    cases h with
    | named own =>
        simp only [readGroupOpening?, eq, own, bind, Option.bind_some]
        rfl
    | angled own => exact readGroupOpening?_angled eq own
    | flags own ne => rw [readGroupOpening?_flags eq own, if_pos rfl, if_neg ne]
    | flagged own ne => rw [readGroupOpening?_flags eq own, if_neg ne]
    | numbered noMark =>
        unfold readGroupOpening?
        rw [eq]
        split
        all_goals first | rfl | exact absurd rfl (noMark _)

/-! ## What is left is shorter -/

theorem length_skipBlanks_le (inComment : Bool) (text : List Char) :
    (skipBlanks inComment text).length ≤ text.length := by
  fun_induction skipBlanks inComment text <;> grind

theorem length_skip_le (verbose : Bool) (text : List Char) :
    (skip verbose text).length ≤ text.length := by
  grind [skip, length_skipBlanks_le]

grind_pattern length_skip_le => (skip verbose text)

theorem length_gather_le (verbose : Bool) (p : Char → Bool) (n : Nat) (text : List Char) :
    (gather verbose p n text).2.length ≤ text.length := by
  fun_induction gather verbose p n text <;> grind

grind_pattern length_gather_le => (gather verbose p n text)

theorem length_dropWhile_le (p : Char → Bool) (text : List Char) :
    (text.dropWhile p).length ≤ text.length :=
  (List.dropWhile_suffix p).length_le

grind_pattern length_dropWhile_le => (text.dropWhile p)

theorem length_openingMinuses_le (verbose : Bool) (n : Nat) (text : List Char) :
    (openingMinuses verbose n text).2.length ≤ text.length := by
  fun_induction openingMinuses verbose n text <;> grind

grind_pattern length_openingMinuses_le => (openingMinuses verbose n text)

@[grind →] theorem length_takeExactly_le {n : Nat} {taken : List Char}
    (h : takeExactly verbose n text = some (taken, rest)) : rest.length ≤ text.length := by
  fun_induction takeExactly verbose n text generalizing taken rest with
  | case1 => grind
  | case2 => cases h
  | case3 n c left ih =>
      obtain ⟨⟨taken, last⟩, own, eq⟩ := Option.bind_eq_some_iff.mp h
      grind

@[grind →] theorem length_readHex?_le {l : Literal}
    (h : readHex? verbose width text = some (l, rest)) : rest.length ≤ text.length := by
  by_cases braced : ∃ inside, skip verbose text = '\x7b' :: inside
  · obtain ⟨inside, own⟩ := braced
    rw [readHex?_braced own] at h
    grind [Option.map_eq_some_iff]
  · rw [readHex?_digits (not_exists.mp braced)] at h
    obtain ⟨⟨digits, left⟩, taken, own⟩ := Option.bind_eq_some_iff.mp h
    grind [Option.map_eq_some_iff]

@[grind →] theorem length_readProperty?_le {q : PropertyQuery}
    (h : readProperty? verbose text = some (q, rest)) : rest.length ≤ text.length := by
  unfold readProperty? at h
  grind

@[grind →] theorem length_readBoundary?_le {a : Assertion}
    (h : readBoundary? verbose text = some (a, rest)) : rest.length ≤ text.length := by
  unfold readBoundary? at h
  grind [Option.map_eq_some_iff]

@[grind →] theorem length_readEscape?_lt {a : Atom}
    (h : readEscape? verbose text = some (a, rest)) : rest.length < text.length := by
  cases text with
  | nil => cases h
  | cons c text =>
      rw [readEscape?_cons] at h
      obtain ⟨kind, -, own⟩ := Option.bind_eq_some_iff.mp h
      cases kind <;> grind [Option.map_eq_some_iff]

@[grind →] theorem length_readAtom?_lt {a : Atom}
    (h : readAtom? verbose text = some (a, rest)) : rest.length < text.length := by
  unfold readAtom? at h
  grind

@[grind →] theorem length_readItem?_lt {a : Atom}
    (h : readItem? verbose text = some (a, rest)) : rest.length < text.length := by
  unfold readItem? at h
  grind

@[grind →] theorem length_readPosix?_lt {c : ClassExpr}
    (h : readPosix? text = some (c, rest)) : rest.length < text.length := by
  unfold readPosix? at h
  split at h
  · next inside =>
    simp only at h
    split at h
    · next own =>
      simp only [bind, Option.bind_eq_some_iff] at h
      grind
    · cases h
  · cases h

@[grind →] theorem length_readRange?_lt {c : ClassExpr}
    (h : readRange? verbose text = some (c, rest)) : rest.length < text.length := by
  obtain ⟨low, left, own, ⟨ahead, -, -⟩ | ⟨ahead, -, further, -, -, -⟩ | ⟨rfl, -, -, -⟩⟩ :=
    readRange?_eq_some_iff.mp h
  all_goals grind

@[grind →] theorem length_readOpening?_le {negated : Bool} {start : OpenClass}
    (h : readOpening? verbose text = some (negated, start, rest)) : rest.length ≤ text.length := by
  unfold readOpening? at h
  grind

@[grind →] theorem length_readName?_le {name : String} (h : readName? text = some (name, rest)) :
    rest.length ≤ text.length := by
  unfold readName? at h
  grind

@[grind →] theorem length_readFlags?_le {before items : List FlagItem}
    (h : readFlags? before text = some (items, rest)) : rest.length ≤ text.length := by
  fun_induction readFlags? before text <;> grind

@[grind →] theorem length_readGroupOpening?_le {opening : Opening}
    (h : readGroupOpening? verbose text = some (opening, rest)) : rest.length ≤ text.length := by
  have skipped := length_skip_le verbose text
  have begins := readGroupOpening?_eq_some_iff.mp h
  generalize skip verbose text = ahead at begins skipped
  cases begins <;> grind

@[grind →] theorem length_readCount?_le {count : Nat}
    (h : readCount? verbose text = some (count, rest)) : rest.length ≤ text.length := by
  unfold readCount? at h
  grind

@[grind →] theorem length_readBounds?_le {least : Nat} {most : Option Nat}
    (h : readBounds? verbose text = some (least, most, rest)) : rest.length ≤ text.length := by
  obtain ⟨left, count, ⟨⟩ | ⟨ahead⟩ | ⟨-, further, -⟩⟩ := readBounds?_eq_some_iff.mp h
  all_goals grind

/-! ## Sets -/

/-- What comes next between brackets. -/
inductive ItemSign where
  | close
  | opens
  | item (c : ClassExpr)
  | operation (kind : SetOperation)

/-- The next sign between brackets, with no blank before it. -/
def readItemSign? (verbose : Bool) : List Char → Option (ItemSign × List Char)
  | [] => none
  | '[' :: rest =>
    match readPosix? rest with
    | some (c, rest) => some (.item c, rest)
    | none => some (.opens, rest)
  | ']' :: rest => some (.close, rest)
  | '&' :: '&' :: rest => some (.operation .inter, rest)
  | '-' :: '-' :: rest => some (.operation .diff, rest)
  | '~' :: '~' :: rest => some (.operation .symmDiff, rest)
  | text => (readRange? verbose text).map fun (c, rest) => (.item c, rest)

@[grind →] theorem length_readItemSign?_lt {sign : ItemSign}
    (h : readItemSign? verbose text = some (sign, rest)) : rest.length < text.length := by
  unfold readItemSign? at h
  grind [Option.map_eq_some_iff]

/-- The set with one more item, or with an operation begun. -/
def OpenClass.step? (o : OpenClass) : ItemSign → Option OpenClass
  | .item c => some (o.push c)
  | .operation kind => some (o.operation kind)
  | .close | .opens => none

theorem readItems?_succ (fuel : Nat) (o : OpenClass) (text : List Char) :
    readItems? verbose (fuel + 1) o text =
      (readItemSign? verbose (skip verbose text)).bind fun (sign, rest) =>
        match sign with
        | .close => some (o.body, rest)
        | .opens =>
          (readClass? verbose fuel rest).bind fun (c, rest) =>
            readItems? verbose fuel (o.push c) rest
        | sign => (o.step? sign).bind fun o => readItems? verbose fuel o rest := by
  rw [readItems?]
  generalize skip verbose text = ahead
  split
  all_goals try rfl
  · next rest =>
    rw [readItemSign?]
    cases readPosix? rest with
    | none =>
        simp only [Option.bind_some]
        cases readClass? verbose fuel rest <;> rfl
    | some found => rfl
  · rw [readItemSign?]
    all_goals try assumption
    cases readRange? verbose ahead <;> rfl

theorem readClass?_succ (fuel : Nat) (text : List Char) :
    readClass? verbose (fuel + 1) text =
      (readOpening? verbose text).bind fun (negated, start, rest) =>
        (readItems? verbose fuel start rest).map fun (body, rest) =>
          (.bracket negated body, rest) := by
  rw [readClass?]
  cases readOpening? verbose text with
  | none => rfl
  | some found => exact Option.map_eq_bind.symm

/-- What is read between brackets, through the bracket that closes them. -/
inductive ReadsItems (verbose : Bool) :
    OpenClass → List Char → ClassExpr → List Char → Prop where
  | close {o text rest} (own : readItemSign? verbose (skip verbose text) = some (.close, rest)) :
      ReadsItems verbose o text o.body rest
  | step {o o' text ahead sign c rest}
      (own : readItemSign? verbose (skip verbose text) = some (sign, ahead))
      (made : o.step? sign = some o') (later : ReadsItems verbose o' ahead c rest) :
      ReadsItems verbose o text c rest
  | nested {o text first negated start inside body ahead c rest}
      (own : readItemSign? verbose (skip verbose text) = some (.opens, first))
      (opening : readOpening? verbose first = some (negated, start, inside))
      (inner : ReadsItems verbose start inside body ahead)
      (later : ReadsItems verbose (o.push (.bracket negated body)) ahead c rest) :
      ReadsItems verbose o text c rest

/-- What is read of a set after its opening bracket. -/
def ReadsClass (verbose : Bool) (text : List Char) (c : ClassExpr) (rest : List Char) : Prop :=
  ∃ negated start inside body, readOpening? verbose text = some (negated, start, inside) ∧
    ReadsItems verbose start inside body rest ∧ c = .bracket negated body

variable {o : OpenClass} {c : ClassExpr} {fuel : Nat}

theorem reads_of_readItems?_aux (fuel : Nat) :
    (∀ {text c rest}, readClass? verbose fuel text = some (c, rest) →
      ReadsClass verbose text c rest) ∧
    (∀ {o text c rest}, readItems? verbose fuel o text = some (c, rest) →
      ReadsItems verbose o text c rest) := by
  induction fuel with
  | zero => exact ⟨nofun, nofun⟩
  | succ fuel ih =>
      constructor
      · intro text c rest h
        rw [readClass?_succ] at h
        obtain ⟨⟨negated, start, inside⟩, opening, own⟩ := Option.bind_eq_some_iff.mp h
        obtain ⟨⟨body, left⟩, items, same⟩ := Option.map_eq_some_iff.mp own
        obtain ⟨rfl, rfl⟩ := Prod.mk.inj same
        exact ⟨negated, start, inside, body, opening, ih.2 items, rfl⟩
      · intro o text c rest h
        rw [readItems?_succ] at h
        obtain ⟨⟨sign, ahead⟩, own, later⟩ := Option.bind_eq_some_iff.mp h
        cases sign with
        | close =>
            obtain ⟨rfl, rfl⟩ := Prod.mk.inj (Option.some.inj later)
            exact .close own
        | opens =>
            obtain ⟨⟨inner, left⟩, set, later⟩ := Option.bind_eq_some_iff.mp later
            obtain ⟨negated, start, inside, body, opening, items, rfl⟩ := ih.1 set
            exact .nested own opening items (ih.2 later)
        | item c =>
            obtain ⟨o', made, later⟩ := Option.bind_eq_some_iff.mp later
            exact .step own made (ih.2 later)
        | operation kind =>
            obtain ⟨o', made, later⟩ := Option.bind_eq_some_iff.mp later
            exact .step own made (ih.2 later)

theorem ReadsItems.length_lt (h : ReadsItems verbose o text c rest) :
    rest.length < text.length := by
  induction h with
  | close own => grind
  | step own made later ih => grind
  | nested own opening inner later ihInner ih => grind

theorem ReadsItems.readItems?_eq (h : ReadsItems verbose o text c rest)
    (enough : 2 * text.length + 1 ≤ fuel) : readItems? verbose fuel o text = some (c, rest) := by
  induction h generalizing fuel with
  | @close o text rest own =>
      obtain ⟨fuel, rfl⟩ := Nat.exists_eq_add_of_le' (show 1 ≤ fuel by omega)
      rw [readItems?_succ, own]
      rfl
  | @step o o' text ahead sign c rest own made later ih =>
      obtain ⟨fuel, rfl⟩ := Nat.exists_eq_add_of_le' (show 1 ≤ fuel by omega)
      have shorter := length_readItemSign?_lt own
      have skipped := length_skip_le verbose text
      rw [readItems?_succ, own]
      cases sign with
      | close => cases made
      | opens => cases made
      | item c =>
          obtain rfl := Option.some.inj made
          exact ih (by omega)
      | operation kind =>
          obtain rfl := Option.some.inj made
          exact ih (by omega)
  | @nested _ text _ _ _ inside _ _ _ _ own opening inner later ihInner ih =>
      obtain ⟨fuel, rfl⟩ := Nat.exists_eq_add_of_le' (show 1 ≤ fuel by omega)
      have shorter := length_readItemSign?_lt own
      have skipped := length_skip_le verbose text
      have opened := length_readOpening?_le opening
      have closed := inner.length_lt
      obtain ⟨fuel, rfl⟩ : ∃ more, fuel = more + 1 := ⟨fuel - 1, by omega⟩
      rw [readItems?_succ, own]
      have body := ihInner (show 2 * inside.length + 1 ≤ fuel by omega)
      simp only [Option.bind_some, readClass?_succ, opening, body, Option.map_some]
      exact ih (by omega)

/-- With enough calls, a set is read as the relation tells. -/
theorem readClass?_eq_some_iff (enough : 2 * text.length + 2 ≤ fuel) :
    readClass? verbose fuel text = some (c, rest) ↔ ReadsClass verbose text c rest := by
  refine ⟨(reads_of_readItems?_aux fuel).1, ?_⟩
  rintro ⟨negated, start, inside, body, opening, items, rfl⟩
  have shorter := length_readOpening?_le opening
  obtain ⟨fuel, rfl⟩ : ∃ more, fuel = more + 1 := ⟨fuel - 1, by omega⟩
  have read := items.readItems?_eq (show 2 * inside.length + 1 ≤ fuel by omega)
  simp only [readClass?_succ, opening, Option.bind_some, read, Option.map_some]

theorem ReadsClass.length_lt (h : ReadsClass verbose text c rest) : rest.length < text.length := by
  obtain ⟨negated, start, inside, body, opening, items, rfl⟩ := h
  exact Nat.lt_of_lt_of_le items.length_lt (length_readOpening?_le opening)

/-! ## Groups -/

/-- What comes next in a group. -/
inductive Sign where
  | stop
  | bar
  | again (least : Nat) (most : Option Nat) (greedy : Bool)
  | part (e : Expr)
  | flags (items : List FlagItem)
  | opens (kind : GroupKind)

/-- A repetition, with what is left of the text behind its sign. -/
def repeats (least : Nat) (most : Option Nat) (text : List Char) : Sign × List Char :=
  let (greedy, rest) := readGreed text
  (.again least most greedy, rest)

/-- The next sign in a group, with no blank before it. -/
def readSign? (verbose : Bool) : List Char → Option (Sign × List Char)
  | [] => some (.stop, [])
  | ')' :: rest => some (.stop, ')' :: rest)
  | '|' :: rest => some (.bar, rest)
  | '?' :: rest => some (repeats 0 (some 1) rest)
  | '*' :: rest => some (repeats 0 none rest)
  | '+' :: rest => some (repeats 1 none rest)
  | '\x7b' :: rest =>
    (readBounds? verbose rest).map fun (least, most, rest) => repeats least most (skip verbose rest)
  | '[' :: rest =>
    (readClass? verbose (2 * rest.length + 2) rest).map fun (c, rest) =>
      (.part (.charClass c), rest)
  | '(' :: rest =>
    (readGroupOpening? verbose rest).map fun
      | (.flags items, rest) => (.flags items, rest)
      | (.group kind, rest) => (.opens kind, rest)
  | text => (readAtom? verbose text).map fun (atom, rest) => (.part atom.toExpr, rest)

/-- The signs that are not atoms. -/
def groupSigns : List Char := [')', '|', '?', '*', '+', '\x7b', '[', '(']

/-- Any other sign begins an atom. -/
theorem readSign?_of_notMem {c : Char} (h : c ∉ groupSigns) :
    readSign? verbose (c :: text) =
      (readAtom? verbose (c :: text)).map fun (atom, rest) => (.part atom.toExpr, rest) := by
  rw [readSign?]
  · nofun
  all_goals
    intro rest same
    obtain ⟨rfl, -⟩ := List.cons.inj same
    exact h (by decide)

theorem length_repeats_le (least : Nat) (most : Option Nat) (text : List Char) :
    (repeats least most text).2.length ≤ text.length := by
  unfold repeats readGreed
  grind

grind_pattern length_repeats_le => (repeats least most text)

/-- Only where a group stops nothing is taken. -/
theorem length_readSign?_lt {sign : Sign} (h : readSign? verbose text = some (sign, rest)) :
    sign = .stop ∧ rest = text ∨ rest.length < text.length := by
  unfold readSign? at h
  split at h
  · grind
  · grind
  · grind
  · have := length_repeats_le 0 (some 1) ‹_›
    grind
  · have := length_repeats_le 0 none ‹_›
    grind
  · have := length_repeats_le 1 none ‹_›
    grind
  · obtain ⟨⟨least, most, left⟩, bounds, own⟩ := Option.map_eq_some_iff.mp h
    have := length_repeats_le least most (skip verbose left)
    grind
  · obtain ⟨⟨c, left⟩, set, own⟩ := Option.map_eq_some_iff.mp h
    have := ((readClass?_eq_some_iff (Nat.le_refl _)).mp set).length_lt
    grind
  · obtain ⟨⟨opening, left⟩, opens, own⟩ := Option.map_eq_some_iff.mp h
    have := length_readGroupOpening?_le opens
    cases opening <;> grind
  · obtain ⟨⟨atom, left⟩, reads, own⟩ := Option.map_eq_some_iff.mp h
    have := length_readAtom?_lt reads
    grind

/-- The name that a group gets. -/
def GroupKind.name? : GroupKind → Option String
  | .named name => some name
  | _ => none

/-- Whether a group is read in verbose mode, given whether the text before it is. -/
def GroupKind.verboseFrom (before : Bool) : GroupKind → Bool
  | .flagged items => (FlagItem.setting? .verbose items).getD before
  | _ => before

namespace OpenGroup

/-- What has been read of a group that is opened now. -/
def opened (o : OpenGroup) (kind : GroupKind) : OpenGroup :=
  ⟨[], [], kind.name?.toList ++ o.names, kind.verboseFrom o.verbose⟩

/-- The group with another one in it that has been read to its end. -/
def close (o : OpenGroup) (kind : GroupKind) (inner : OpenGroup) : OpenGroup :=
  { o.push (.group kind inner.body) with names := inner.names }

/-- Where the last part is repeated, there is one. -/
theorem exists_of_repeatLast? {o o' : OpenGroup} {least : Nat} {most : Option Nat} {greedy : Bool}
    (h : o.repeatLast? least most greedy = some o') :
    ∃ part parts, o.parts = part :: parts ∧
      o' = { o with parts := .repetition part least most greedy :: parts } := by
  obtain ⟨⟨part, parts⟩, last, rfl⟩ := Option.map_eq_some_iff.mp h
  refine ⟨part, parts, ?_, rfl⟩
  unfold lastRepeatable? at last
  grind

/-- The group after a sign that opens no other group. -/
def step? (o : OpenGroup) : Sign → Option OpenGroup
  | .bar => some o.branch
  | .again least most greedy => o.repeatLast? least most greedy
  | .part e => some (o.push e)
  | .flags items => some { o.push (.flags items) with
      verbose := (FlagItem.setting? .verbose items).getD o.verbose }
  | .stop | .opens _ => none

end OpenGroup

theorem readGroup?_succ (fuel : Nat) (o : OpenGroup) (text : List Char) :
    readGroup? (fuel + 1) o text =
      (readSign? o.verbose (skip o.verbose text)).bind fun (sign, rest) =>
        match sign with
        | .stop => some (o, rest)
        | .opens kind =>
          if kind.name?.any o.names.contains then none
          else
            match readGroup? fuel (o.opened kind) rest with
            | some (inner, ')' :: rest) => readGroup? fuel (o.close kind inner) rest
            | _ => none
        | sign => (o.step? sign).bind fun o => readGroup? fuel o rest := by
  rw [readGroup?]
  generalize skip o.verbose text = ahead
  split
  all_goals try rfl
  · next rest =>
    rw [readSign?]
    cases readBounds? o.verbose rest <;> rfl
  · next rest =>
    rw [readSign?]
    cases readClass? o.verbose (2 * rest.length + 2) rest <;> rfl
  · next rest =>
    rw [readSign?]
    rcases readGroupOpening? o.verbose rest with _ | ⟨kind | items, left⟩
    · rfl
    · cases kind <;> rfl
    · rfl
  · rw [readSign?]
    all_goals try assumption
    cases readAtom? o.verbose ahead <;> rfl

/-- What is read of a group, up to a parenthesis that closes it or to the end of the text. -/
inductive Reads : OpenGroup → List Char → OpenGroup → List Char → Prop where
  | stop {s text rest} (own : readSign? s.verbose (skip s.verbose text) = some (.stop, rest)) :
      Reads s text s rest
  | step {s s' text sign ahead last rest}
      (own : readSign? s.verbose (skip s.verbose text) = some (sign, ahead))
      (made : s.step? sign = some s') (later : Reads s' ahead last rest) : Reads s text last rest
  | group {s text kind first inner ahead last rest}
      (own : readSign? s.verbose (skip s.verbose text) = some (.opens kind, first))
      (new : kind.name?.any s.names.contains = false)
      (within : Reads (s.opened kind) first inner (')' :: ahead))
      (later : Reads (s.close kind inner) ahead last rest) : Reads s text last rest

variable {s last : OpenGroup}

theorem reads_of_readGroup? (h : readGroup? fuel s text = some (last, rest)) :
    Reads s text last rest := by
  induction fuel generalizing s text last rest with
  | zero => cases h
  | succ fuel ih =>
      rw [readGroup?_succ] at h
      obtain ⟨⟨sign, ahead⟩, own, later⟩ := Option.bind_eq_some_iff.mp h
      cases sign with
      | stop =>
          obtain ⟨rfl, rfl⟩ := Prod.mk.inj (Option.some.inj later)
          exact .stop own
      | opens kind =>
          simp only at later
          split at later
          · cases later
          · next new =>
            split at later
            · next inner after within =>
              exact .group own (Bool.eq_false_iff.mpr new) (ih within) (ih later)
            · cases later
      | bar | again | part | flags =>
          obtain ⟨o', made, later⟩ := Option.bind_eq_some_iff.mp later
          exact .step own made (ih later)

theorem Reads.length_le (h : Reads s text last rest) : rest.length ≤ text.length := by
  induction h with
  | @stop s text rest own =>
      have := length_readSign?_lt own
      grind
  | @step s s' text sign ahead last rest own made later ih =>
      have := length_readSign?_lt own
      grind
  | @group s text kind first inner ahead last rest own new within later ihWithin ih =>
      have := length_readSign?_lt own
      grind

theorem Reads.readGroup?_eq (h : Reads s text last rest) (enough : text.length < fuel) :
    readGroup? fuel s text = some (last, rest) := by
  induction h generalizing fuel with
  | stop own =>
      obtain ⟨fuel, rfl⟩ := Nat.exists_eq_add_of_lt enough
      rw [readGroup?_succ, own]
      rfl
  | @step s s' text sign ahead last rest own made later ih =>
      obtain ⟨fuel, rfl⟩ := Nat.exists_eq_add_of_le' (show 1 ≤ fuel by omega)
      have skipped := length_skip_le s.verbose text
      rw [readGroup?_succ, own]
      obtain ⟨rfl, -⟩ | shorter := length_readSign?_lt own
      · cases made
      · have further := ih (show ahead.length < fuel by omega)
        cases sign with
        | stop => cases made
        | opens => cases made
        | bar | again | part | flags => simpa only [Option.bind_some, made] using further
  | @group s text kind first inner ahead last rest own new within later ihWithin ih =>
      obtain ⟨fuel, rfl⟩ := Nat.exists_eq_add_of_le' (show 1 ≤ fuel by omega)
      have skipped := length_skip_le s.verbose text
      have closed := within.length_le
      rw [List.length_cons] at closed
      rw [readGroup?_succ, own]
      obtain ⟨stops, -⟩ | shorter := length_readSign?_lt own
      · cases stops
      · have whole := ihWithin (show first.length < fuel by omega)
        have further := ih (show ahead.length < fuel by omega)
        simp only [Option.bind_some, new, Bool.false_eq_true, if_false, whole, further]

end Interception.Regex
