import Interception.Proofs.Ant.Extraction

/-!
# Patterns at fault

A token that is at fault is found out only when a text is tried against it. That happens exactly if
the tokens before it take what is before some text of the path, in one way or another: as no
alignment gets past a token at fault, the search behind a spread goes on until it has come to the
token from there, if it comes to it at all. Of several tokens at fault only the first can be come
to.
-/

namespace Interception.Ant

/-! ## The search behind a spread -/

section FirstTail

variable {α ε β : Type} {f : List α → Except ε (Option β)} {e : ε}

/-- A search that comes upon nothing but one error ends with it, wherever it is. -/
theorem firstTail_eq_error (only : ∀ rest, f rest = .ok none ∨ f rest = .error e)
    (skipped : List α) {rest : List α} (h : f rest = .error e) :
    firstTail f (skipped ++ rest) = .error e := by
  induction skipped with
  | nil =>
      cases rest with
      | nil => exact h
      | cons x xs =>
          rw [List.nil_append, firstTail, h]
          rfl
  | cons x xs ih =>
      rw [List.cons_append, firstTail]
      obtain none | failed := only (x :: (xs ++ rest))
      · rw [none]
        exact ih
      · rw [failed]
        rfl

theorem firstTail_eq_none {path : List α} (h : ∀ rest, rest <:+ path → f rest = .ok none) :
    firstTail f path = .ok none := by
  induction path with
  | nil => exact h [] List.suffix_rfl
  | cons x xs ih =>
      rw [firstTail, h (x :: xs) List.suffix_rfl]
      exact ih fun rest isEnd => h rest (isEnd.trans (List.suffix_cons x xs))

end FirstTail

/-! ## The token at fault -/

/-- Whether some text of the path is left for what follows the tokens. -/
def LeavesText (ignoreCase : Bool) (front : List Token) (path : List (List Char)) : Prop :=
  ∃ taken text rest, path = taken ++ text :: rest ∧ Covers ignoreCase front taken

variable {ignoreCase : Bool} {ending : Ending} {front back : List Token} {fault : Fault}
variable {path : List (List Char)}

theorem leavesText_nil_iff : LeavesText ignoreCase [] path ↔ path ≠ [] := by
  constructor
  · rintro ⟨taken, text, rest, rfl, _⟩
    simp
  · intro ne
    obtain ⟨text, rest, rfl⟩ := List.exists_cons_of_ne_nil ne
    exact ⟨[], text, rest, rfl, covers_nil_iff.mpr rfl⟩

theorem leavesText_cons_iff {token : Token} : LeavesText ignoreCase (token :: front) path ↔
    ∃ block rest, path = block ++ rest ∧ token.Takes ignoreCase block ∧
      LeavesText ignoreCase front rest := by
  constructor
  · rintro ⟨taken, text, rest, rfl, covers⟩
    obtain ⟨block, others, rfl, takes, covers⟩ := covers_cons_iff.mp covers
    exact ⟨block, others ++ text :: rest, List.append_assoc _ _ _, takes, others, text, rest, rfl,
      covers⟩
  · rintro ⟨block, _, rfl, takes, taken, text, rest, rfl, covers⟩
    exact ⟨block ++ taken, text, rest, (List.append_assoc _ _ _).symm,
      covers_cons_iff.mpr ⟨block, taken, rfl, takes, covers⟩⟩

theorem not_leavesText_one_nil {compiled : Except Fault Segment} :
    ¬ LeavesText ignoreCase (.one compiled :: front) [] := by
  rw [leavesText_cons_iff]
  rintro ⟨block, rest, nil, ⟨_, text, _, rfl, _⟩, _⟩
  simp at nil

theorem leavesText_one_cons_iff {segment : Segment} {text : List Char} :
    LeavesText ignoreCase (.one (.ok segment) :: front) (text :: path) ↔
      segment.accepts ignoreCase text = true ∧ LeavesText ignoreCase front path := by
  rw [leavesText_cons_iff]
  constructor
  · rintro ⟨block, rest, split, ⟨_, own, same, rfl, accepts⟩, leaves⟩
    obtain rfl := Except.ok.inj same
    obtain ⟨rfl, rfl⟩ := List.cons.inj split
    exact ⟨accepts, leaves⟩
  · rintro ⟨accepts, leaves⟩
    exact ⟨[text], path, rfl, ⟨segment, text, rfl, rfl, accepts⟩, leaves⟩

/-- A walk over sound tokens and then one at fault finds no alignment. It ends with the fault if a
text is left for the token at fault, and empty-handed otherwise. -/
theorem walk_fault (sound : ∀ token ∈ front, token.IsSound) (path : List (List Char)) :
    (LeavesText ignoreCase front path ∧
      walk ignoreCase ending (front ++ .one (.error fault) :: back) path = .error fault) ∨
    (¬ LeavesText ignoreCase front path ∧
      walk ignoreCase ending (front ++ .one (.error fault) :: back) path = .ok none) := by
  induction front generalizing path with
  | nil =>
      rw [leavesText_nil_iff]
      cases path with
      | nil => exact .inr ⟨by simp, by simp [walk, Token.isAny]⟩
      | cons text path => exact .inl ⟨by simp, rfl⟩
  | cons token front ih =>
      obtain ⟨head, tail⟩ := List.forall_mem_cons.mp sound
      have further := ih tail
      rw [List.cons_append]
      cases token with
      | spread =>
          rw [leavesText_cons_iff, walk_spread]
          by_cases reached : ∃ block rest, path = block ++ rest ∧
              Token.spread.Takes ignoreCase block ∧ LeavesText ignoreCase front rest
          · refine .inl ⟨reached, ?_⟩
            obtain ⟨block, rest, rfl, _, leaves⟩ := reached
            refine firstTail_eq_error (fun rest => ?_) block ?_
            · exact (further rest).symm.imp And.right And.right
            · exact ((further rest).resolve_right fun missed => missed.1 leaves).2
          · refine .inr ⟨reached, firstTail_eq_none ?_⟩
            rintro rest ⟨block, rfl⟩
            refine ((further rest).resolve_left fun found => ?_).2
            exact reached ⟨block, rest, rfl, trivial, found.1⟩
      | one compiled =>
          obtain ⟨segment, rfl⟩ := head
          cases path with
          | nil => exact .inr ⟨not_leavesText_one_nil, by simp [walk]⟩
          | cons text path =>
              rw [walk_one_cons, leavesText_one_cons_iff, Segment.accepts]
              cases segment.capture? ignoreCase text with
              | none => exact .inr ⟨by simp, rfl⟩
              | some own =>
                  obtain ⟨leaves, failed⟩ | ⟨misses, none⟩ := further path
                  · refine .inl ⟨⟨rfl, leaves⟩, ?_⟩
                    simp only [failed]
                    rfl
                  · refine .inr ⟨fun found => misses found.2, ?_⟩
                    simp only [none]
                    rfl

end Interception.Ant

namespace Interception.AntMatcher

open Ant

variable {m : AntMatcher} {pattern path : List Char} {front : List (List Char)} {fault : Fault}

/-! ## The first fault of a pattern -/

/-- Whether a token of a pattern can be read. There is nothing to be read in `**`. -/
def Parses (m : AntMatcher) (token : List Char) : Prop :=
  token = spreadToken ∨ ∃ segment, m.compile token = .ok segment

/-- Some tokens of the pattern parse, and what is wrong with the next one is the fault. -/
structure FirstFault (m : AntMatcher) (pattern : List Char) (front : List (List Char))
    (fault : Fault) : Prop where
  parses : ∀ token ∈ front, m.Parses token
  next : ∃ token back, m.tokens pattern = front ++ token :: back ∧ token ≠ spreadToken ∧
    m.compile token = .error fault

/-- Whether a text of the path is tried against the token behind those in front: both or neither
begin with the separator, and the tokens in front cover what is before some text of the path. -/
def ComesPast (m : AntMatcher) (pattern : List Char) (front : List (List Char))
    (path : List Char) : Prop :=
  Text.startsWith m.separator pattern = Text.startsWith m.separator path ∧
    ∃ taken text rest, m.tokens path = taken ++ text :: rest ∧ m.Cuts front taken

theorem isSound_ofText_iff {token : List Char} :
    (Token.ofText m.compile token).IsSound ↔ m.Parses token := by
  rw [Token.ofText, Parses]
  split_ifs with spread
  · exact ⟨fun _ => .inl spread, fun _ => trivial⟩
  · exact ⟨.inr, fun parses => parses.resolve_left spread⟩

/-- If not all tokens parse, there is a first one that does not. -/
theorem exists_firstFault_iff :
    (∃ front fault, m.FirstFault pattern front fault) ↔
      ∃ token ∈ m.tokens pattern, ¬ m.Parses token := by
  constructor
  · rintro ⟨front, fault, _, token, back, split, notSpread, failed⟩
    refine ⟨token, split ▸ List.mem_append_cons_self, ?_⟩
    rintro (isSpread | ⟨segment, parsed⟩)
    · exact notSpread isSpread
    · rw [failed] at parsed
      cases parsed
  · rintro ⟨token, mem, faulty⟩
    classical
    have some : ((m.tokens pattern).find? fun token => ¬ m.Parses token).isSome = true :=
      List.find?_isSome.mpr ⟨token, mem, decide_eq_true faulty⟩
    obtain ⟨first, found⟩ := Option.isSome_iff_exists.mp some
    obtain ⟨own, front, back, split, before⟩ := List.find?_eq_some_iff_append.mp found
    have faulty : ¬ m.Parses first := of_decide_eq_true own
    obtain ⟨notSpread, failed⟩ := not_or.mp faulty
    cases compiled : m.compile first with
    | error fault =>
        refine ⟨front, fault, ?_, first, back, split, notSpread, compiled⟩
        simpa using before
    | ok segment => exact absurd ⟨segment, compiled⟩ failed

/-- What comes of a path for a pattern with a fault: the fault if a text is tried against the token
at fault, and no match otherwise. -/
theorem FirstFault.capture_eq (h : m.FirstFault pattern front fault) (path : List Char) :
    (m.ComesPast pattern front path ∧ m.capture pattern path = .error fault) ∨
      (¬ m.ComesPast pattern front path ∧ m.capture pattern path = .ok none) := by
  obtain ⟨parses, token, back, split, notSpread, failed⟩ := h
  by_cases begins : Text.startsWith m.separator pattern = Text.startsWith m.separator path
  · have leaves_iff : LeavesText (!m.caseSensitive) (front.map (Token.ofText m.compile))
        (m.tokens path) ↔ m.ComesPast pattern front path := by
      simp only [LeavesText, covers_ofText_iff, ComesPast, begins, true_and]
    have compiled : Token.ofText m.compile token = .one (.error fault) := by
      rw [Token.ofText, if_neg notSpread, failed]
    rw [capture_eq_walk begins, ← leaves_iff, split, List.map_append, List.map_cons, compiled]
    refine walk_fault (List.forall_mem_map.mpr fun token mem => ?_) _
    exact isSound_ofText_iff.mpr (parses token mem)
  · exact .inr ⟨fun comes => begins comes.1, capture_of_startsWith_ne begins⟩

/-- A pattern with a token that does not parse matches nothing. What is reported is the fault of the
first such token, in the name of the whole pattern, and it is reported exactly for the paths that
the search follows up to this token; for all others the answer is no. A pattern whose tokens all
parse is never at fault. -/
theorem isMatch_firstFault (m : AntMatcher) (pattern path : List Char) :
    ((∃ token ∈ m.tokens pattern, ¬ m.Parses token) →
      ∃ front fault, m.FirstFault pattern front fault) ∧
    (∀ front fault, m.FirstFault pattern front fault →
      m.isMatch pattern path ≠ .ok true ∧
      (∀ e, m.isMatch pattern path = .error e ↔
        m.ComesPast pattern front path ∧ e = m.faultIn pattern fault) ∧
      (m.isMatch pattern path = .ok false ↔ ¬ m.ComesPast pattern front path)) ∧
    ((∀ token ∈ m.tokens pattern, m.Parses token) → ∀ e, m.isMatch pattern path ≠ .error e) := by
  refine ⟨exists_firstFault_iff.mpr, ?_, ?_⟩
  · intro front fault first
    obtain ⟨comes, failed⟩ | ⟨misses, none⟩ := first.capture_eq path
    · rw [isMatch_of_capture_error failed]
      refine ⟨nofun, fun e => ⟨fun h => ⟨comes, (Except.error.inj h).symm⟩, ?_⟩, ?_⟩
      · rintro ⟨_, rfl⟩
        rfl
      · exact ⟨nofun, fun misses => absurd comes misses⟩
    · rw [isMatch_of_capture none]
      exact ⟨nofun, fun e => ⟨nofun, fun h => absurd h.1 misses⟩, fun _ => misses, fun _ => rfl⟩
  · intro parses e
    obtain ⟨answer, answered⟩ :=
      isMatch_total (fun token mem => isSound_ofText_iff.mpr (parses token mem)) path
    rw [answered]
    nofun

end Interception.AntMatcher
