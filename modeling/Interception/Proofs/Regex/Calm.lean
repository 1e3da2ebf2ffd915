import Interception.Proofs.Regex.Shielded

/-!
# Calm text

What a template writes around its constraints: characters that stand for themselves, wildcards, and
groups that capture what a variable takes. Wherever reading comes upon such a text, it goes through
it to the end of it: every group that begins in it is closed in it, and nothing else is.
-/

namespace Interception.Regex

/-- Whether a text may name a group wherever it stands. -/
structure IsPlainName (name : List Char) : Prop where
  head : ∃ c more, name = c :: more ∧ c.isAlpha = true
  chars : ∀ c ∈ name, c.isAlphanum = true

/-- The text of a group with a name. -/
def namedGroup (name body : List Char) : List Char := "(?P<".toList ++ name ++ '>' :: (body ++ [')'])

/-- The operators that are calm: a point, two repetitions and the end of the text. -/
def calmOperators : List Char := ['.', '*', '+', '$']

/-- The text of one calm sign: a character that stands for itself, an escape, or an operator. -/
inductive CalmSign : List Char → Prop where
  | plain {c} (own : isMeta c = false) : CalmSign [c]
  | escaped {c} (own : isEscape c = true) : CalmSign ['\\', c]
  | operator {c} (own : c ∈ calmOperators) : CalmSign [c]

/-- Whether a text is a row of calm signs without blanks, comments and closing braces. -/
def isQuiet : List Char → Bool
  | [] => true
  | '\\' :: c :: rest => isEscape c && c != '#' && c != '\x7d' && isQuiet rest
  | c :: rest => (calmOperators.contains c || !isMeta c && isSolid c) && isQuiet rest

/-- Texts that are calm up to where their tail begins. -/
inductive CalmTo (tail : List Char) : List Char → Prop where
  | done : CalmTo tail tail
  | sign {sign rest} (own : CalmSign sign) (later : CalmTo tail rest) : CalmTo tail (sign ++ rest)
  | group {name body rest} (own : IsPlainName name) (quiet : isQuiet body = true)
      (later : CalmTo tail rest) : CalmTo tail (namedGroup name body ++ rest)

/-- Texts that are calm to the end. -/
abbrev Calm : List Char → Prop := CalmTo []

variable {verbose : Bool} {n : Nat} {name text tail rest : List Char} {c : Char}

/-! ## Blanks, comments and braces -/

theorem lt_of_isAlphanum (h : c.isAlphanum = true) : c.toNat < 128 := by
  have below {last : Char} (h : c.val ≤ last.val) (ascii : last.toNat < 128) : c.toNat < 128 :=
    Nat.lt_of_le_of_lt (UInt32.le_iff_toNat_le.mp h) ascii
  obtain letter | digit := Bool.or_eq_true_iff.mp h
  · obtain upper | lower := Bool.or_eq_true_iff.mp letter
    · exact below (of_decide_eq_true upper).2 (by decide)
    · exact below (of_decide_eq_true (Bool.and_eq_true_iff.mp lower).2) (by decide)
  · exact below (of_decide_eq_true (Bool.and_eq_true_iff.mp digit).2) (by decide)

theorem isSolid_of_isAlphanum (h : c.isAlphanum = true) : isSolid c = true := by
  obtain ⟨above, mark⟩ := forall_ascii
    (P := fun c => c.isAlphanum = true → 32 < c.toNat ∧ c ≠ '#') (by decide) (lt_of_isAlphanum h) h
  exact isSolid_of_ne (isBlank_of_ascii above (lt_of_isAlphanum h)) mark

theorem notMem_guardedSigns (h : isMeta c = false) : c ∉ guardedSigns := by
  intro mem
  have all : ∀ c ∈ guardedSigns, isMeta c = true := List.all_iff_forall_prop.mp (by decide)
  rw [all c mem] at h
  cases h

theorem mem_calmOperators (h : c ∈ calmOperators) :
    isMeta c = true ∧ isSolid c = true ∧ c ∉ guardedSigns ∧ c ≠ '\x7d' := by
  have all : ∀ c ∈ calmOperators, isMeta c = true ∧ c ≠ '#' ∧ c ∉ guardedSigns ∧ c ≠ '\x7d' :=
    List.all_iff_forall_prop.mp (by decide)
  obtain ⟨sign, mark, others⟩ := all c h
  exact ⟨sign, isSolid_of_isMeta sign mark, others⟩

theorem CalmSign.shielded {sign : List Char} (h : CalmSign sign) (own : Shielded rest) :
    Shielded (sign ++ rest) := by
  cases h with
  | plain plain => exact .bare (notMem_guardedSigns plain) own
  | escaped escape => exact .escaped escape own
  | operator mem => exact .bare (mem_calmOperators mem).2.2.1 own

/-! ## Quiet texts -/

/-- A quiet text begins with a calm sign and goes on quietly. -/
theorem isQuiet_cases (h : isQuiet text = true) :
    text = [] ∨ ∃ sign rest, text = sign ++ rest ∧ CalmSign sign ∧
      (∀ c ∈ sign, isSolid c = true ∧ c ≠ '\x7d') ∧ isQuiet rest = true := by
  unfold isQuiet at h
  split at h
  · exact .inl rfl
  · next c rest =>
    simp only [Bool.and_eq_true, bne_iff_ne] at h
    obtain ⟨⟨⟨escape, mark⟩, brace⟩, later⟩ := h
    refine .inr ⟨['\\', c], rest, rfl, .escaped escape, List.forall_mem_cons.mpr ⟨?_, ?_⟩, later⟩
    · exact ⟨isSolid_of_isMeta rfl (by decide), by decide⟩
    · exact List.forall_mem_singleton.mpr ⟨isSolid_of_isEscape escape mark, brace⟩
  · next c rest _ =>
    simp only [Bool.and_eq_true, Bool.or_eq_true, Bool.not_eq_true'] at h
    obtain ⟨operator | ⟨plain, solid⟩, later⟩ := h
    · have mem := List.contains_iff_mem.mp operator
      obtain ⟨-, solid, -, brace⟩ := mem_calmOperators mem
      exact .inr ⟨[c], rest, rfl, .operator mem, List.forall_mem_singleton.mpr ⟨solid, brace⟩, later⟩
    · refine .inr ⟨[c], rest, rfl, .plain plain, List.forall_mem_singleton.mpr ⟨solid, ?_⟩, later⟩
      rintro rfl
      exact absurd plain (by decide)

/-- What a row of calm signs preserves holds with a quiet text in front. -/
theorem isQuiet_induction {P : List Char → Prop} (h : isQuiet text = true) (start : P rest)
    (step : ∀ sign rest, CalmSign sign → (∀ c ∈ sign, isSolid c = true ∧ c ≠ '\x7d') → P rest →
      P (sign ++ rest)) : P (text ++ rest) := by
  induction length : text.length using Nat.strongRecOn generalizing text with
  | _ n ih =>
      obtain rfl | ⟨sign, more, rfl, own, solid, later⟩ := isQuiet_cases h
      · exact start
      · rw [List.append_assoc]
        have shorter : more.length < n := by
          rw [← length, List.length_append]
          cases own <;> simp
        exact step sign _ own solid (ih _ shorter later rfl)

theorem notMem_guardedSigns_of_isAlphanum (h : c.isAlphanum = true) : c ∉ guardedSigns := by
  intro mem
  have signs : ∀ c ∈ guardedSigns, c.isAlphanum = false := List.all_iff_forall_prop.mp (by decide)
  rw [signs c mem] at h
  cases h

/-- The signs of a group with a quiet text neither are blank nor begin a comment, and none of them is
a closing brace. -/
theorem mem_namedGroup {body : List Char} (h : IsPlainName name) (quiet : isQuiet body = true)
    (mem : c ∈ namedGroup name body) : isSolid c = true ∧ c ≠ '\x7d' := by
  have others : ∀ c ∈ "(?P<>)".toList, isSolid c = true ∧ c ≠ '\x7d' := by
    have all : ∀ c ∈ "(?P<>)".toList, (32 < c.toNat ∧ c.toNat < 128 ∧ c ≠ '#') ∧ c ≠ '\x7d' :=
      List.all_iff_forall_prop.mp (by decide)
    intro c mem
    obtain ⟨⟨above, ascii, mark⟩, brace⟩ := all c mem
    exact ⟨isSolid_of_ne (isBlank_of_ascii above ascii) mark, brace⟩
  have inside : ∀ c ∈ body ++ [], isSolid c = true ∧ c ≠ '\x7d' :=
    isQuiet_induction (P := fun text => ∀ c ∈ text, isSolid c = true ∧ c ≠ '\x7d') quiet nofun
      fun sign rest _ own later => List.forall_mem_append.mpr ⟨own, later⟩
  rw [List.append_nil] at inside
  simp only [namedGroup, List.mem_append, List.mem_cons, List.not_mem_nil, or_false] at mem
  obtain (mem | mem) | rfl | mem | rfl := mem
  · exact others c (List.all_iff_forall_prop.mp (by decide) c mem)
  · have alphanum := h.chars c mem
    refine ⟨isSolid_of_isAlphanum alphanum, ?_⟩
    rintro rfl
    exact absurd alphanum (by decide)
  · exact others '>' (by decide)
  · exact inside c mem
  · exact others ')' (by decide)

theorem CalmTo.cons (own : CalmSign [c]) (later : CalmTo tail rest) : CalmTo tail (c :: rest) :=
  .sign own later

theorem CalmTo.escape (own : isEscape c = true) (later : CalmTo tail rest) :
    CalmTo tail ('\\' :: c :: rest) :=
  .sign (.escaped own) later

theorem CalmTo.trans {middle : List Char} (h : CalmTo middle text) (h' : CalmTo tail middle) :
    CalmTo tail text := by
  induction h with
  | done => exact h'
  | sign own _ ih => exact .sign own ih
  | group own quiet _ ih => exact .group own quiet ih

theorem CalmTo.shielded (h : CalmTo tail text) (own : Shielded tail) : Shielded text := by
  induction h with
  | done => exact own
  | sign own later ih => exact own.shielded ih
  | @group name body rest own quiet later ih =>
      have closed : Shielded (')' :: rest) := .bare (by decide) ih
      have inside := isQuiet_induction quiet closed fun _ _ sign _ => sign.shielded
      have opened : ∀ c ∈ "(?P<".toList ++ name ++ ['>'], c ∉ guardedSigns := by
        refine List.forall_mem_append.mpr ⟨List.forall_mem_append.mpr ⟨?_, fun c mem => ?_⟩, ?_⟩
        · exact List.all_iff_forall_prop.mp (by decide)
        · exact notMem_guardedSigns_of_isAlphanum (own.chars c mem)
        · exact List.forall_mem_singleton.mpr (by decide)
      have whole : namedGroup name body ++ rest =
          ("(?P<".toList ++ name ++ ['>']) ++ (body ++ ')' :: rest) := by simp [namedGroup]
      exact whole ▸ .append opened inside

theorem Calm.shielded (h : Calm text) : Shielded text := CalmTo.shielded h .nil

/-- Signs of one line that begin with a solid one are kept, or they are all in the comment. -/
theorem Calm.skipBlanks_append (before : List Char) (calm : Calm (before ++ text))
    (solid : ∃ c more, before = c :: more ∧ isSolid c = true) (line : '\n' ∉ before)
    (later : Calm (skipBlanks true text)) (inComment : Bool) :
    Calm (skipBlanks inComment (before ++ text)) := by
  cases inComment with
  | true => exact (Regex.skipBlanks_append line text).symm ▸ later
  | false =>
      obtain ⟨c, more, rfl, solid⟩ := solid
      have kept : Regex.skipBlanks false (c :: more ++ text) = c :: more ++ text :=
        skip_cons solid true (more ++ text)
      exact kept.symm ▸ calm

theorem namedGroup_head (name body : List Char) :
    ∃ c more, namedGroup name body = c :: more ∧ isSolid c = true :=
  ⟨'(', _, rfl, isSolid_of_isMeta rfl (by decide)⟩

theorem notMem_of_isSolid {before : List Char} (h : ∀ c ∈ before, isSolid c = true) :
    '\n' ∉ before := fun mem => absurd (h '\n' mem) (by decide +kernel)

theorem Calm.skipBlanks (h : Calm text) (inComment : Bool) : Calm (skipBlanks inComment text) := by
  induction h generalizing inComment with
  | done => exact .done
  | @sign sign rest own later ih =>
      cases own with
      | @plain c plain =>
          rw [List.singleton_append, Regex.skipBlanks]
          split
          · exact ih _
          · split
            · exact ih _
            · split
              · exact ih _
              · exact .sign (.plain plain) later
      | @escaped c escape =>
          have line : '\n' ∉ ['\\', c] := by
            rintro (_ | ⟨_, _ | ⟨_, ⟨⟩⟩⟩)
            exact absurd escape (by decide)
          have solid : isSolid '\\' = true := isSolid_of_isMeta rfl (by decide)
          exact skipBlanks_append ['\\', c] (.sign (.escaped escape) later) ⟨'\\', [c], rfl, solid⟩
            line (ih true) inComment
      | @operator c mem =>
          have solid := (mem_calmOperators mem).2.1
          exact skipBlanks_append [c] (.sign (.operator mem) later) ⟨c, [], rfl, solid⟩
            (notMem_of_isSolid (List.forall_mem_singleton.mpr solid)) (ih true) inComment
  | @group name body rest own quiet later ih =>
      exact skipBlanks_append (namedGroup name body) (.group own quiet later)
        (namedGroup_head name body)
        (notMem_of_isSolid fun c mem => (mem_namedGroup own quiet mem).1) (ih true) inComment

theorem Calm.skip (h : Calm text) (verbose : Bool) : Calm (skip verbose text) := by
  cases verbose with
  | false => exact h
  | true => exact h.skipBlanks false

/-- How a calm text begins. -/
theorem Calm.cons_cases (h : Calm (c :: text)) : Calm text ∨ c = '\\' ∨ c = '(' := by
  generalize eq : c :: text = whole at h
  cases h with
  | done => cases eq
  | sign own later =>
      cases own with
      | plain | operator =>
          obtain ⟨rfl, rfl⟩ := List.cons.inj eq
          exact .inl later
      | escaped => exact .inr (.inl (List.cons.inj eq).1)
  | group => exact .inr (.inr (List.cons.inj eq).1)

/-! ## Braces -/

theorem gather_cons_snd {p : Char → Bool} (own : p c = true) (verbose : Bool) (n : Nat)
    (text : List Char) :
    (gather verbose p (n + 1) (c :: text)).2 = (gather verbose p n (skip verbose text)).2 := by
  rw [gather, if_pos own]

/-- Solid signs are gathered one behind the other. -/
theorem gather_append_snd {p : Char → Bool} {before : List Char} (ne : before ≠ [])
    (own : ∀ c ∈ before, p c = true ∧ isSolid c = true) (verbose : Bool) (n : Nat)
    (text : List Char) :
    (gather verbose p (n + before.length) (before ++ text)).2 =
      (gather verbose p n (skip verbose text)).2 := by
  induction before with
  | nil => exact absurd rfl ne
  | cons c before ih =>
      obtain ⟨first, others⟩ := List.forall_mem_cons.mp own
      rw [List.length_cons, List.cons_append, ← Nat.add_assoc, gather_cons_snd first.1]
      cases before with
      | nil => rfl
      | cons d before =>
          rw [List.cons_append, skip_cons (others d List.mem_cons_self).2]
          exact ih nofun others

/-- Whether nothing is left, or an escaped brace and calm text behind it. -/
def StopsAtBrace (left : List Char) : Prop := left = [] ∨ ∃ more, left = '\x7d' :: more ∧ Calm more

/-- Gathering goes on from one text as it goes on from a shorter calm text. -/
def GoesOn (verbose : Bool) (n : Nat) (text : List Char) : Prop :=
  ∃ k more, k < n ∧ more.length ≤ k ∧ Calm more ∧
    (gather verbose (· != '\x7d') n text).2 = (gather verbose (· != '\x7d') k more).2

/-- Solid signs are gathered, and then it is the turn of what is left behind blanks. -/
theorem goesOn_append {before : List Char} (ne : before ≠ [])
    (own : ∀ c ∈ before, (c != '\x7d') = true ∧ isSolid c = true)
    (enough : (before ++ text).length ≤ n) (later : Calm text) :
    GoesOn verbose n (before ++ text) := by
  have some := List.length_pos_iff.mpr ne
  have skipped := length_skip_le verbose text
  rw [List.length_append] at enough
  obtain ⟨k, rfl⟩ := Nat.exists_eq_add_of_le' (show before.length ≤ n by omega)
  refine ⟨k, skip verbose text, by omega, by omega, Calm.skip later verbose, ?_⟩
  exact gather_append_snd ne own verbose k text

/-- In verbose mode an escaped number sign is read as the beginning of a comment. -/
theorem goesOn_mark (enough : ('\\' :: '#' :: text).length ≤ n) (later : Calm text) :
    GoesOn verbose n ('\\' :: '#' :: text) := by
  simp only [List.length_cons] at enough
  obtain ⟨k, rfl⟩ := Nat.exists_eq_add_of_le' (show 2 ≤ n by omega)
  have first := gather_cons_snd (p := (· != '\x7d')) (show ('\\' != '\x7d') = true by decide)
    verbose (k + 1) ('#' :: text)
  cases verbose with
  | true =>
      have shorter := length_skipBlanks_le true text
      have inside : skip true ('#' :: text) = skipBlanks true text := by
        simp only [skip, skipBlanks, if_true, Bool.false_eq_true, if_false]
        rw [if_neg (Bool.eq_false_iff.mp (isBlank_of_isMeta rfl))]
      exact ⟨k + 1, _, by omega, by omega, Calm.skipBlanks later true, inside ▸ first⟩
  | false =>
      have second := gather_cons_snd (p := (· != '\x7d')) (show ('#' != '\x7d') = true by decide)
        false k text
      exact ⟨k, text, by omega, by omega, later, first.trans second⟩

/-- From a calm text, signs are gathered up to an escaped brace. -/
theorem Calm.gather_cases (h : Calm text) (verbose : Bool) (enough : text.length ≤ n) :
    StopsAtBrace (gather verbose (· != '\x7d') n text).2 ∨ GoesOn verbose n text := by
  cases h with
  | done => exact .inl (.inl (by cases n <;> rfl))
  | @sign sign rest own later =>
      cases own with
      | @plain c plain =>
          have noBrace : (c != '\x7d') = true := by
            refine bne_iff_ne.mpr ?_
            rintro rfl
            exact absurd plain (by decide)
          have skipped := length_skip_le verbose rest
          rw [List.singleton_append, List.length_cons] at enough
          obtain ⟨k, rfl⟩ := Nat.exists_eq_add_of_le' (show 1 ≤ n by omega)
          exact .inr ⟨k, _, by omega, by omega, Calm.skip later verbose,
            gather_cons_snd (p := (· != '\x7d')) noBrace verbose k rest⟩
      | @escaped c escape =>
          by_cases brace : c = '\x7d'
          · subst brace
            simp only [List.cons_append, List.nil_append, List.length_cons] at enough
            obtain ⟨k, rfl⟩ := Nat.exists_eq_add_of_le' (show 2 ≤ n by omega)
            have first := gather_cons_snd (p := (· != '\x7d')) (show ('\\' != '\x7d') = true by decide)
              verbose (k + 1) ('\x7d' :: rest)
            rw [skip_cons (isSolid_of_isMeta rfl (by decide))] at first
            exact .inl (.inr ⟨rest, first, later⟩)
          · by_cases mark : c = '#'
            · subst mark
              exact .inr (goesOn_mark enough later)
            · have signs : ∀ d ∈ ['\\', c], (d != '\x7d') = true ∧ isSolid d = true :=
                List.forall_mem_cons.mpr ⟨⟨rfl, isSolid_of_isMeta rfl (by decide)⟩,
                  List.forall_mem_singleton.mpr
                    ⟨bne_iff_ne.mpr brace, isSolid_of_isEscape escape mark⟩⟩
              exact .inr (goesOn_append (List.cons_ne_nil '\\' [c]) signs enough later)
      | @operator c mem =>
          obtain ⟨-, solid, -, brace⟩ := mem_calmOperators mem
          exact .inr (goesOn_append (List.cons_ne_nil c [])
            (List.forall_mem_singleton.mpr ⟨bne_iff_ne.mpr brace, solid⟩) enough later)
  | @group name body rest own quiet later =>
      obtain ⟨c, more, begins, -⟩ := namedGroup_head name body
      refine .inr (goesOn_append (by simp [begins]) (fun c mem => ?_) enough later)
      obtain ⟨solid, brace⟩ := mem_namedGroup own quiet mem
      exact ⟨bne_iff_ne.mpr brace, solid⟩

/-- Where signs other than a closing brace are gathered from a calm text and not all of it is
gathered, reading goes on at an escaped brace. -/
theorem Calm.stopsAtBrace (h : Calm text) (verbose : Bool) (enough : text.length ≤ n) :
    StopsAtBrace (gather verbose (· != '\x7d') n text).2 := by
  induction n using Nat.strongRecOn generalizing text with
  | ind n ih =>
      obtain stops | ⟨k, more, less, enough, later, same⟩ := Calm.gather_cases h verbose enough
      · exact stops
      · rw [same]
        exact ih k less later enough

/-! ## Digits and properties -/

theorem isSome_hexValue?_of_foldlM {digits : List Char} {m : Nat}
    (h : (digits.foldlM (fun n c => (hexValue? c).map fun d => n * 16 + d) m).isSome = true) :
    ∀ c ∈ digits, (hexValue? c).isSome = true := by
  induction digits generalizing m with
  | nil => exact List.forall_mem_nil _
  | cons c digits ih =>
      rw [List.foldlM_cons] at h
      cases own : hexValue? c with
      | none =>
          rw [own] at h
          cases h
      | some d =>
          rw [own] at h
          exact List.forall_mem_cons.mpr ⟨own ▸ rfl, ih h⟩

theorem isSome_hexValue? {digits : List Char} (h : (hexChar? digits).isSome = true) :
    ∀ c ∈ digits, (hexValue? c).isSome = true := by
  refine isSome_hexValue?_of_foldlM (m := 0) ?_
  cases own : hexNumber? digits with
  | none =>
      rw [hexChar?, own] at h
      cases h
  | some n =>
      show (hexNumber? digits).isSome = true
      rw [own]
      rfl

/-- Digits of a calm text stand for themselves. -/
theorem Calm.takeExactly {digits : List Char} (h : Calm text)
    (own : takeExactly verbose n text = some (digits, rest))
    (hex : ∀ c ∈ digits, (hexValue? c).isSome = true) : Calm rest := by
  induction n generalizing text digits with
  | zero =>
      obtain ⟨-, rfl⟩ := Prod.mk.inj (Option.some.inj own)
      exact h
  | succ n ih =>
      cases text with
      | nil => cases own
      | cons c text =>
          obtain ⟨⟨others, left⟩, further, same⟩ := Option.bind_eq_some_iff.mp own
          obtain ⟨rfl, rfl⟩ := Prod.mk.inj (Option.some.inj same)
          obtain ⟨first, hex⟩ := List.forall_mem_cons.mp hex
          have plain : Calm text := by
            obtain later | rfl | rfl := Calm.cons_cases h
            · exact later
            · exact absurd first (by decide)
            · exact absurd first (by decide)
          exact ih (Calm.skip plain verbose) further hex

/-- A property of one letter that a calm text gives is followed by a calm text, or its letter is the
parenthesis of a group. -/
theorem Calm.readProperty? {q : PropertyQuery} (h : Calm text)
    (own : readProperty? verbose text = some (q, rest)) :
    Calm rest ∨ (q = .named ['('] ∧ Shielded rest) := by
  have calm := Calm.skip h verbose
  unfold Regex.readProperty? at own
  split at own
  · cases own
  · next more brace =>
    exact absurd brace (h.shielded.skip_ne (by decide) (by decide))
  · next c more noBrace eq =>
    rw [eq] at calm
    split at own
    · cases own
    · next noBackslash =>
      obtain ⟨rfl, rfl⟩ := Prod.mk.inj (Option.some.inj own)
      obtain later | backslash | rfl := calm.cons_cases
      · exact .inl (Calm.skip later verbose)
      · exact absurd backslash noBackslash
      · obtain ⟨-, later⟩ | ⟨⟨⟩⟩ := calm.shielded.notMem_or_eq
        exact .inr ⟨rfl, later.skip verbose⟩

end Interception.Regex
