import Interception.Proofs.Chain
import Mathlib.Data.List.Induction
import Mathlib.Order.Bounds.Defs

/-!
# Histories of a chain

A chain may be used in any order and any number of times. What is then seen of it is a row of
episodes: interceptors are added, a pass calls them before the handler, they are called after the
handler, or a completion calls those that are owed one.

What is owed is told by the history so far: `Owes history last` if the last pass with a success
reached the position `last` and nothing has been completed since. In a lawful history a completion
calls exactly the positions from there down to the first. Then no interceptor is completed more
often than it let a request go on, at whatever call the history is cut off.
-/

namespace Interception

variable {σ : Type}

/-! ## Calls by position -/

namespace Call

/-- The position of an interceptor that lets the request go on with this call. -/
def granted? : Call σ → Option Nat
  | .preHandle position _ _ (.ok true) => some position
  | _ => none

/-- The position of an interceptor that is completed with this call. -/
def completed? : Call σ → Option Nat
  | .afterCompletion position .. => some position
  | _ => none

end Call

/-- The positions of interceptors that let the request go on, call by call. -/
def grants (calls : List (Call σ)) : List Nat := calls.filterMap Call.granted?

/-- The positions of interceptors that are completed, call by call. -/
def completions (calls : List (Call σ)) : List Nat := calls.filterMap Call.completed?

@[simp] theorem grants_append (calls more : List (Call σ)) :
    grants (calls ++ more) = grants calls ++ grants more := List.filterMap_append

@[simp] theorem completions_append (calls more : List (Call σ)) :
    completions (calls ++ more) = completions calls ++ completions more := List.filterMap_append

/-- Whether the calls complete the given positions, one after the other, and do nothing else. -/
def Completes (positions : List Nat) (calls : List (Call σ)) : Prop :=
  List.Forall₂ (fun position call => ∃ request failure on result,
    call = .afterCompletion position request failure on result) positions calls

/-- Whether the calls complete the positions from `last` down to the first, each once. -/
def CompletesFrom (last : Nat) (calls : List (Call σ)) : Prop :=
  Completes (List.range (last + 1)).reverse calls

theorem Completes.completions_eq {positions : List Nat} {calls : List (Call σ)}
    (h : Completes positions calls) : completions calls = positions := by
  unfold Completes at h
  induction h with
  | nil => rfl
  | cons own _ ih =>
      obtain ⟨request, failure, on, result, rfl⟩ := own
      exact congrArg (_ :: ·) ih

theorem Completes.grants_eq {positions : List Nat} {calls : List (Call σ)}
    (h : Completes positions calls) : grants calls = [] := by
  unfold Completes at h
  induction h with
  | nil => rfl
  | cons own _ ih =>
      obtain ⟨request, failure, on, result, rfl⟩ := own
      exact ih

theorem CompletesFrom.ne_nil {last : Nat} {calls : List (Call σ)}
    (h : CompletesFrom last calls) : calls ≠ [] := by
  rintro rfl
  have none := List.Forall₂.length_eq h
  simp at none

/-! ## Episodes -/

/-- What a use of a chain is seen to do. -/
inductive Episode (σ : Type) where
  /-- An interceptor is added at the end. -/
  | push
  /-- Interceptors are called before the handler, from the first one on. -/
  | pass (calls : List (Call σ))
  /-- Interceptors are called after the handler. -/
  | postHandling (calls : List (Call σ))
  /-- The completion of what is owed is asked for. -/
  | completion (calls : List (Call σ))

namespace Episode

def calls : Episode σ → List (Call σ)
  | .push => []
  | .pass calls => calls
  | .postHandling calls => calls
  | .completion calls => calls

def isPush : Episode σ → Bool
  | .push => true
  | _ => false

def IsPass : Episode σ → Prop
  | .pass _ => True
  | _ => False

def IsCompletion : Episode σ → Prop
  | .completion _ => True
  | _ => False

/-- Whether the episode leaves what is owed as it was: a pass without success does, and a completion
that calls nothing. -/
def IsIdle : Episode σ → Prop
  | .push => True
  | .pass calls => grants calls = []
  | .postHandling _ => True
  | .completion calls => calls = []

end Episode

/-- The calls of all episodes in order. -/
def callsOf (history : List (Episode σ)) : List (Call σ) := history.flatMap Episode.calls

@[simp] theorem callsOf_append (history more : List (Episode σ)) :
    callsOf (history ++ more) = callsOf history ++ callsOf more := List.flatMap_append

theorem callsOf_cons (e : Episode σ) (history : List (Episode σ)) :
    callsOf (e :: history) = e.calls ++ callsOf history := List.flatMap_cons

/-- The interceptors from the first up to the position `last` are owed a completion: `last` is the
highest position that succeeded in the last pass with a success, and nothing has been completed
since that pass. -/
def Owes (history : List (Episode σ)) (last : Nat) : Prop :=
  ∃ earlier calls later, history = earlier ++ .pass calls :: later ∧
    IsGreatest {position | position ∈ grants calls} last ∧ ∀ e ∈ later, e.IsIdle

/-! ## What is owed, episode by episode -/

/-- What there is to know about a chain between two episodes. -/
structure Ledger where
  /-- How many interceptors the chain has. -/
  length : Nat
  /-- The last position that is owed a completion. -/
  owed : Option Nat

/-- The ledger after an episode. -/
def Episode.settle (l : Ledger) : Episode σ → Ledger
  | .push => ⟨l.length + 1, l.owed⟩
  | .pass calls => ⟨l.length, (grants calls).max?.or l.owed⟩
  | .postHandling _ => l
  | .completion calls => if calls.isEmpty then l else ⟨l.length, none⟩

namespace Ledger

/-- The ledger of a chain of so many interceptors that has not been used. -/
def start (length : Nat) : Ledger := ⟨length, none⟩

/-- The ledger after a number of episodes. -/
def after (l : Ledger) (history : List (Episode σ)) : Ledger := history.foldl Episode.settle l

@[simp] theorem after_nil (l : Ledger) : l.after ([] : List (Episode σ)) = l := rfl

@[simp] theorem after_cons (l : Ledger) (e : Episode σ) (history : List (Episode σ)) :
    l.after (e :: history) = (e.settle l).after history := rfl

@[simp] theorem after_append (l : Ledger) (history more : List (Episode σ)) :
    l.after (history ++ more) = (l.after history).after more := List.foldl_append

/-- The chain has the interceptors that it had, and those that were added. -/
theorem length_after (l : Ledger) (history : List (Episode σ)) :
    (l.after history).length = l.length + history.countP Episode.isPush := by
  induction history generalizing l with
  | nil => rfl
  | cons e history ih =>
      rw [after_cons, ih, List.countP_cons]
      cases e with
      | push =>
          simp only [Episode.settle, Episode.isPush, if_true]
          omega
      | completion calls => cases calls <;> rfl
      | _ => rfl

end Ledger

theorem isGreatest_iff_max? {positions : List Nat} {last : Nat} :
    IsGreatest {position | position ∈ positions} last ↔ positions.max? = some last := by
  rw [List.max?_eq_some_iff]
  exact Iff.rfl

theorem max?_range_succ (count : Nat) : (List.range (count + 1)).max? = some count := by
  rw [List.max?_eq_some_iff]
  exact ⟨by simp, fun other mem => by simpa [Nat.lt_succ_iff] using mem⟩

theorem not_owes_nil (last : Nat) : ¬ Owes ([] : List (Episode σ)) last := by
  rintro ⟨earlier, calls, later, split, _⟩
  simp at split

/-- The last episode decides, unless it is idle. -/
theorem owes_concat_iff {history : List (Episode σ)} {e : Episode σ} {last : Nat} :
    Owes (history ++ [e]) last ↔
      (∃ calls, e = .pass calls ∧ (grants calls).max? = some last) ∨
        (e.IsIdle ∧ Owes history last) := by
  constructor
  · rintro ⟨earlier, calls, later, split, greatest, idle⟩
    obtain rfl | ⟨later, final, rfl⟩ := later.eq_nil_or_concat
    · obtain ⟨rfl, own⟩ := List.append_inj' split rfl
      obtain rfl := List.singleton_inj.mp own
      exact .inl ⟨calls, rfl, isGreatest_iff_max?.mp greatest⟩
    · rw [List.concat_eq_append, ← List.cons_append, ← List.append_assoc] at split
      obtain ⟨rfl, own⟩ := List.append_inj' split rfl
      obtain rfl := List.singleton_inj.mp own
      refine .inr ⟨idle e (by simp), earlier, calls, later, rfl, greatest, ?_⟩
      intro other mem
      exact idle other (by simp [mem])
  · rintro (⟨calls, rfl, greatest⟩ | ⟨own, earlier, calls, later, rfl, greatest, idle⟩)
    · exact ⟨history, calls, [], rfl, isGreatest_iff_max?.mpr greatest, by simp⟩
    · refine ⟨earlier, calls, later ++ [e], by simp, greatest, ?_⟩
      intro other mem
      obtain mem | mem := List.mem_append.mp mem
      · exact idle other mem
      · obtain rfl := List.mem_singleton.mp mem
        exact own

/-- Reckoning episode by episode comes to what is owed. -/
theorem owed_eq_some_iff {history : List (Episode σ)} {length last : Nat} :
    ((Ledger.start length).after history).owed = some last ↔ Owes history last := by
  induction history using List.reverseRecOn generalizing last with
  | nil => exact ⟨fun h => by simp [Ledger.start] at h, fun h => absurd h (not_owes_nil last)⟩
  | append_singleton history e ih =>
      rw [Ledger.after_append, Ledger.after_cons, Ledger.after_nil, owes_concat_iff, ← ih]
      cases e with
      | push => simp [Episode.settle, Episode.IsIdle]
      | pass calls =>
          cases found : (grants calls).max? with
          | none =>
              have idle := List.max?_eq_none_iff.mp found
              simp [Episode.settle, Episode.IsIdle, idle]
          | some highest =>
              have busy : grants calls ≠ [] := by
                intro none
                simp [none] at found
              simp [Episode.settle, Episode.IsIdle, found, busy]
      | postHandling calls => simp [Episode.settle, Episode.IsIdle]
      | completion calls => cases calls <;> simp [Episode.settle, Episode.IsIdle]

theorem owed_eq_none_iff {history : List (Episode σ)} {length : Nat} :
    ((Ledger.start length).after history).owed = none ↔ ∀ last, ¬ Owes history last := by
  rw [Option.eq_none_iff_forall_ne_some]
  exact forall_congr' fun last => not_congr owed_eq_some_iff

/-! ## Lawful histories -/

/-- What an episode may be after a ledger: a pass lets the request go on for the first positions,
each once, and a completion does what is owed. -/
def Episode.LawfulAfter (l : Ledger) : Episode σ → Prop
  | .push => True
  | .pass calls => completions calls = [] ∧ ∃ count ≤ l.length, grants calls = List.range count
  | .postHandling calls => grants calls = [] ∧ completions calls = []
  | .completion calls =>
    match l.owed with
    | some last => CompletesFrom last calls
    | none => calls = []

namespace Episode.LawfulAfter

variable {l : Ledger} {e : Episode σ}

/-- Only a pass lets requests go on. -/
theorem grants_eq (h : e.LawfulAfter l) (noPass : ¬ e.IsPass) : grants e.calls = [] := by
  cases e with
  | push => rfl
  | pass calls => exact absurd trivial noPass
  | postHandling calls => exact h.1
  | completion calls =>
      obtain ⟨length, _ | last⟩ := l
      · obtain rfl : calls = [] := h
        rfl
      · exact Completes.grants_eq h

/-- Only a completion completes. -/
theorem completions_eq (h : e.LawfulAfter l) (noCompletion : ¬ e.IsCompletion) :
    completions e.calls = [] := by
  cases e with
  | push => rfl
  | pass calls => exact h.1
  | postHandling calls => exact h.2
  | completion calls => exact absurd trivial noCompletion

theorem grants_eq_or_completions_eq (h : e.LawfulAfter l) :
    grants e.calls = [] ∨ completions e.calls = [] := by
  cases e with
  | pass calls => exact .inr h.1
  | _ => exact .inl (h.grants_eq id)

end Episode.LawfulAfter

/-- Every episode is as it may be after the ledger that it finds. -/
def Lawful : Ledger → List (Episode σ) → Prop
  | _, [] => True
  | l, e :: later => e.LawfulAfter l ∧ Lawful (e.settle l) later

theorem lawful_append_iff {l : Ledger} {earlier later : List (Episode σ)} :
    Lawful l (earlier ++ later) ↔ Lawful l earlier ∧ Lawful (l.after earlier) later := by
  induction earlier generalizing l with
  | nil => simp [Lawful]
  | cons e earlier ih => rw [List.cons_append, Lawful, Lawful, ih, and_assoc, Ledger.after_cons]

/-! ## What lawful histories come to -/

/-- Whether what is owed is owed to interceptors that the chain has. -/
def Ledger.InRange (l : Ledger) : Prop := ∀ last, l.owed = some last → last < l.length

theorem Ledger.inRange_start (length : Nat) : (start length).InRange := by
  rintro last ⟨⟩

/-- A position is completed at most as often as it let the request go on, and less often where it is
owed a completion. -/
structure Balanced (position : Nat) (l : Ledger) (calls : List (Call σ)) : Prop where
  le : (completions calls).count position ≤ (grants calls).count position
  lt : ∀ last, l.owed = some last → position ≤ last →
    (completions calls).count position < (grants calls).count position

namespace Episode.LawfulAfter

variable {l : Ledger} {e : Episode σ} {position : Nat} {before : List (Call σ)}

theorem inRange (h : e.LawfulAfter l) (range : l.InRange) : (e.settle l).InRange := by
  cases e with
  | push => exact fun last owed => Nat.lt_succ_of_lt (range last owed)
  | pass calls =>
      obtain ⟨_, count, le, granted⟩ := h
      intro last owed
      cases count with
      | zero => exact range last (by simpa [settle, granted] using owed)
      | succ count =>
          obtain rfl : count = last := by simpa [settle, granted, max?_range_succ] using owed
          exact le
  | postHandling calls => exact range
  | completion calls =>
      cases calls with
      | nil => exact range
      | cons call calls => rintro last ⟨⟩

theorem balanced (h : e.LawfulAfter l) (balance : Balanced position l before) :
    Balanced position (e.settle l) (before ++ e.calls) := by
  cases e with
  | push => simpa [settle, calls] using ⟨balance.le, balance.lt⟩
  | pass calls =>
      obtain ⟨none, count, _, granted⟩ := h
      have le : (completions (before ++ calls)).count position ≤
          (grants (before ++ calls)).count position := by
        rw [completions_append, none, List.append_nil, grants_append, List.count_append]
        exact Nat.le_add_right_of_le balance.le
      refine ⟨le, ?_⟩
      intro last owed below
      rw [Episode.calls, completions_append, none, List.append_nil, grants_append, granted,
        List.count_append, List.count_range]
      cases count with
      | zero => exact balance.lt last (by simpa [settle, granted] using owed) below
      | succ count =>
          obtain rfl : count = last := by simpa [settle, granted, max?_range_succ] using owed
          rw [if_pos (Nat.lt_succ_of_le below)]
          exact Nat.lt_succ_of_le balance.le
  | postHandling calls =>
      obtain ⟨none, none'⟩ := h
      constructor
      · simpa [Episode.calls, none, none'] using balance.le
      · simpa [Episode.calls, settle, none, none'] using balance.lt
  | completion calls =>
      obtain ⟨length, _ | highest⟩ := l
      · obtain rfl : calls = [] := h
        simpa [settle, Episode.calls] using ⟨balance.le, balance.lt⟩
      · have completed : CompletesFrom highest calls := h
        constructor
        · rw [Episode.calls, completions_append, grants_append, Completes.grants_eq completed,
            Completes.completions_eq completed, List.append_nil, List.count_append,
            List.count_reverse, List.count_range]
          split
          · exact balance.lt highest rfl (Nat.le_of_lt_succ ‹_›)
          · exact balance.le
        · simp [settle, completed.ne_nil]

end Episode.LawfulAfter

namespace Lawful

variable {l : Ledger} {history earlier later : List (Episode σ)} {position last : Nat}
variable {calls : List (Call σ)}

theorem inRange (h : Lawful l history) (range : l.InRange) : (l.after history).InRange := by
  induction history generalizing l with
  | nil => exact range
  | cons e history ih => exact ih h.2 (h.1.inRange range)

theorem balanced (h : Lawful l history) (balance : Balanced position l calls) :
    Balanced position (l.after history) (calls ++ callsOf history) := by
  induction history generalizing l calls with
  | nil => simpa [callsOf] using balance
  | cons e history ih =>
      rw [callsOf_cons, ← List.append_assoc]
      exact ih h.2 (h.1.balanced balance)

theorem exists_lawfulAfter (h : Lawful l history) {e : Episode σ} (mem : e ∈ history) :
    ∃ l, Episode.LawfulAfter l e := by
  obtain ⟨earlier, later, rfl⟩ := List.append_of_mem mem
  exact ⟨_, (lawful_append_iff.mp h).2.1⟩

/-- A completion does what is owed. -/
theorem completion {length : Nat}
    (h : Lawful (.start length) (earlier ++ .completion calls :: later)) :
    (∀ last, Owes earlier last →
      CompletesFrom last calls ∧ last < length + earlier.countP Episode.isPush) ∧
    ((∀ last, ¬ Owes earlier last) → calls = []) := by
  obtain ⟨lawful, own, _⟩ := lawful_append_iff.mp h
  rw [Episode.LawfulAfter] at own
  constructor
  · intro last owes
    have owed : ((Ledger.start length).after earlier).owed = some last :=
      owed_eq_some_iff.mpr owes
    rw [owed] at own
    have range := lawful.inRange (Ledger.inRange_start length) last owed
    rw [Ledger.length_after] at range
    exact ⟨own, range⟩
  · intro none
    rw [owed_eq_none_iff.mpr none] at own
    exact own

theorem balanced_start (length position : Nat) :
    Balanced position (.start length) ([] : List (Call σ)) :=
  ⟨Nat.le_refl _, by rintro last ⟨⟩⟩

/-- Wherever a lawful history is cut off, be it in the midst of a pass or of a completion, no
position has been completed more often than it let the request go on. -/
theorem count_completions_le (h : Lawful l history) (balance : Balanced position l calls)
    {cut : List (Call σ)} (isCut : cut <+: callsOf history) :
    (completions (calls ++ cut)).count position ≤ (grants (calls ++ cut)).count position := by
  induction history generalizing l calls cut with
  | nil =>
      obtain rfl : cut = [] := List.prefix_nil.mp isCut
      simpa using balance.le
  | cons e history ih =>
      have next := h.1.balanced balance
      obtain ⟨rest, whole⟩ := isCut
      rw [callsOf_cons] at whole
      obtain ⟨more, split, _⟩ | ⟨more, rfl, split⟩ := List.append_eq_append_iff.mp whole
      · -- The calls of one episode leave either the grants as they were, or the completions.
        have le := next.le
        simp only [grants_append, completions_append, List.count_append] at le ⊢
        obtain none | none := h.1.grants_eq_or_completions_eq
        · rw [none, split, completions_append, List.count_append, List.count_nil] at le
          rw [split, grants_append, List.append_eq_nil_iff] at none
          rw [none.1, List.count_nil]
          omega
        · rw [split, completions_append, List.append_eq_nil_iff] at none
          have before := balance.le
          rw [none.1, List.count_nil]
          omega
      · rw [← List.append_assoc]
        exact ih h.2 next ⟨rest, split.symm⟩

/-- What is owed is done by the first completion that follows, if no pass comes before it. -/
theorem mem_completions_of_owed (h : Lawful l history) (owed : l.owed = some last)
    (below : position ≤ last) (noPass : ∀ e ∈ history, ¬ e.IsPass)
    (asked : ∃ e ∈ history, e.IsCompletion) : position ∈ completions (callsOf history) := by
  induction history generalizing l with
  | nil => simp at asked
  | cons e history ih =>
      obtain ⟨_, others⟩ := List.forall_mem_cons.mp noPass
      rw [callsOf_cons, completions_append, List.mem_append]
      cases e with
      | push => exact .inr (ih h.2 owed others (by simpa [Episode.IsCompletion] using asked))
      | pass calls => exact absurd trivial (noPass (.pass calls) List.mem_cons_self)
      | postHandling calls =>
          exact .inr (ih h.2 owed others (by simpa [Episode.IsCompletion] using asked))
      | completion calls =>
          have own := h.1
          rw [Episode.LawfulAfter, owed] at own
          left
          rw [Episode.calls, Completes.completions_eq own]
          simpa [Nat.lt_succ_iff] using below

theorem grants_callsOf_eq (h : Lawful l history) (noPass : ∀ e ∈ history, ¬ e.IsPass) :
    grants (callsOf history) = [] := by
  rw [grants, callsOf, List.filterMap_flatMap, List.flatMap_eq_nil_iff]
  intro e mem
  obtain ⟨l, own⟩ := h.exists_lawfulAfter mem
  exact own.grants_eq (noPass e mem)

theorem completions_callsOf_eq (h : Lawful l history)
    (noCompletion : ∀ e ∈ history, ¬ e.IsCompletion) : completions (callsOf history) = [] := by
  rw [completions, callsOf, List.filterMap_flatMap, List.flatMap_eq_nil_iff]
  intro e mem
  obtain ⟨l, own⟩ := h.exists_lawfulAfter mem
  exact own.completions_eq (noCompletion e mem)

/-- With a single pass, a position that let the request go on is completed once if a completion
follows, and not at all otherwise. -/
theorem count_completions_of_single_pass {length : Nat}
    (h : Lawful (.start length) (earlier ++ .pass calls :: later))
    (noPass : ∀ e ∈ earlier ++ later, ¬ e.IsPass) (granted : position ∈ grants calls) :
    ((∃ e ∈ later, e.IsCompletion) →
      (completions (callsOf (earlier ++ .pass calls :: later))).count position = 1) ∧
    ((∀ e ∈ later, ¬ e.IsCompletion) →
      (completions (callsOf (earlier ++ .pass calls :: later))).count position = 0) := by
  obtain ⟨before, after⟩ := List.forall_mem_append.mp noPass
  obtain ⟨first, ⟨none, count, _, range⟩, rest⟩ := lawful_append_iff.mp h
  have fresh := balanced_start (σ := σ) length position
  have grantsBefore := first.grants_callsOf_eq before
  have completionsBefore : (completions (callsOf earlier)).count position = 0 := by
    have bound := (first.balanced fresh).le
    rw [List.nil_append, grantsBefore] at bound
    exact Nat.le_zero.mp bound
  have atMostOnce := (h.balanced fresh).le
  simp only [callsOf_append, callsOf_cons, grants_append, completions_append, List.count_append,
    grantsBefore, rest.grants_callsOf_eq after, Episode.calls, none, completionsBefore, range,
    List.append_nil, List.nil_append, Nat.zero_add] at atMostOnce ⊢
  constructor
  · intro asked
    have lt : position < count := by simpa [range] using granted
    obtain ⟨last, rfl⟩ := Nat.exists_eq_succ_of_ne_zero (Nat.ne_zero_of_lt lt)
    have owed : (Episode.settle ((Ledger.start length).after earlier) (.pass calls)).owed =
        some last := by
      rw [Episode.settle, range, max?_range_succ, Option.some_or]
    have mem := rest.mem_completions_of_owed owed (Nat.le_of_lt_succ lt) after asked
    rw [List.count_range, if_pos lt] at atMostOnce
    exact Nat.le_antisymm atMostOnce (List.count_pos_iff.mpr mem)
  · intro never
    rw [rest.completions_callsOf_eq never, List.count_nil]

end Lawful

end Interception
