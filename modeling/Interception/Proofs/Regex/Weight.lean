import Interception.Proofs.Regex.Footprint

/-!
# How large rows of expressions become

A row of characters, sets, runs of a set and groups of these has a weight in bytes: what its parts
take together. Its automata are accepted if the weight fits into the limit, and what has been
accepted fits.
-/

namespace Interception.Regex

open Footprint

/-- Expressions of which the bytes are known: what stands for one character, a run, and a group. -/
inductive IsSimple : Regex → Prop where
  | literal (text : List Char) : IsSimple (.literal text)
  | set {s : CharSet} (apart : StartsApart s) : IsSimple (.set s)
  | anchor (a : Anchor) : IsSimple (.anchor a)
  | run {s : CharSet} (apart : StartsApart s) (inhabited : s.isEmpty = false) (greedy : Bool) :
      IsSimple (.repeated (.set s) 0 none greedy)
  | group (index : Nat) (name : Option String) {r : Regex} (own : IsSimple r) :
      IsSimple (.group index name r)

/-- The bytes that a simple expression takes; a group takes some only where it captures. -/
def weight (direction : Direction) : Regex → Nat
  | .literal text => 32 * (text.flatMap String.utf8EncodeChar).length
  | .set s => setBytes direction s
  | .anchor _ => 32
  | .repeated r _ _ _ => 32 + r.weight direction + 2 * forkWay
  | .group _ _ r =>
    match direction with
    | .forwards => 32 + r.weight direction + 32
    | .backwards => r.weight direction
  | _ => 0

/-- The bytes that a row of expressions takes. -/
def weights (direction : Direction) (rs : List Regex) : Nat := (rs.map (weight direction)).sum

variable {direction : Direction} {r : Regex} {rs : List Regex}

/-! ## Counting single expressions -/

section Counting

theorem bind_close_whole (counted : Option Footprint) :
    counted.bind Branch.whole.close? = counted := by
  cases counted <;> rfl

theorem count?_literal (text : List Char) : (literal text).count? direction .whole =
    add? (text.flatMap String.utf8EncodeChar).length 0 := by
  funext f
  exact bind_close_whole _

theorem count?_set (s : CharSet) : (set s).count? direction .whole = addSet? direction s := by
  funext f
  exact bind_close_whole _

theorem count?_anchor (a : Anchor) : (anchor a).count? direction .whole = add? 1 0 := by
  funext f
  exact bind_close_whole _

theorem takesText_set {s : CharSet} (inhabited : s.isEmpty = false) : (set s).takesText = true := by
  simp [takesText, minLength?, inhabited]

theorem count?_run {s : CharSet} (inhabited : s.isEmpty = false) (greedy : Bool) :
    (repeated (.set s) 0 none greedy).count? direction .whole = fun f =>
      ((f.add? 1 0).bind (addSet? direction s)).bind (add? 0 (2 * forkWay)) := by
  funext f
  refine (bind_close_whole _).trans ?_
  rw [count?_set, takesText_set inhabited, Option.bind_assoc]
  rfl

theorem count?_group_forwards (index : Nat) (name : Option String) (r : Regex) :
    (group index name r).count? .forwards .whole = fun f =>
      ((f.add? 1 0).bind (r.count? .forwards .whole)).bind (add? 1 0) := by
  funext f
  show ((f.add? 1 0).bind fun f => (r.count? .forwards .whole f).bind fun f =>
    (f.add? 1 0).bind Branch.whole.close?) = _
  simp only [bind_close_whole]
  rw [Option.bind_assoc]

theorem count?_group_backwards (index : Nat) (name : Option String) (r : Regex) :
    (group index name r).count? .backwards .whole = r.count? .backwards .whole := by
  funext f
  exact bind_close_whole _

theorem count?_seq_forwards (a b : Regex) : (seq a b).count? .forwards .whole = fun f =>
    (a.count? .forwards .whole f).bind (b.count? .forwards .whole) := by
  funext f
  exact bind_close_whole _

theorem count?_seq_backwards (a b : Regex) : (seq a b).count? .backwards .whole = fun f =>
    (b.count? .backwards .whole f).bind (a.count? .backwards .whole) := by
  funext f
  exact bind_close_whole _

end Counting

theorem IsSimple.takesAtMost (h : IsSimple r) :
    TakesAtMost (r.count? direction .whole) (r.weight direction) := by
  induction h with
  | literal text =>
      rw [count?_literal]
      exact takesAtMost_add? _ 0
  | set apart =>
      rw [count?_set]
      exact takesAtMost_addSet? direction _
  | anchor a =>
      rw [count?_anchor]
      exact takesAtMost_add? 1 0
  | @run s apart inhabited greedy =>
      rw [count?_run inhabited]
      have own := ((takesAtMost_add? 1 0).bind (takesAtMost_addSet? direction s)).bind
        (takesAtMost_add? 0 (2 * forkWay))
      exact own.mono (Nat.le_of_eq (by simp [weight]))
  | @group index name r own ih =>
      cases direction with
      | forwards =>
          rw [count?_group_forwards]
          exact ((takesAtMost_add? 1 0).bind ih).bind (takesAtMost_add? 1 0)
      | backwards =>
          rw [count?_group_backwards]
          exact ih

theorem IsSimple.takesAtLeast (h : IsSimple r) :
    TakesAtLeast (r.count? .backwards .whole) (r.weight .backwards) := by
  induction h with
  | literal text =>
      rw [count?_literal]
      exact takesAtLeast_add? _ 0
  | set apart =>
      rw [count?_set]
      exact takesAtLeast_addSet? apart
  | anchor a =>
      rw [count?_anchor]
      exact takesAtLeast_add? 1 0
  | run apart inhabited greedy =>
      rw [count?_run inhabited]
      have own := ((takesAtLeast_add? 1 0).bind (takesAtLeast_addSet? apart)).bind
        (takesAtLeast_add? 0 (2 * forkWay))
      exact own.mono (Nat.le_of_eq (by simp [weight]))
  | group index name own ih =>
      rw [count?_group_backwards]
      exact ih

/-! ## Rows -/

theorem IsSimple.parts (h : IsSimple r) : r.parts = [r] := by
  cases h <;> rfl

theorem flatMap_parts (h : ∀ r ∈ rs, IsSimple r) : rs.flatMap Regex.parts = rs := by
  induction rs with
  | nil => rfl
  | cons r rs ih =>
      obtain ⟨own, others⟩ := List.forall_mem_cons.mp h
      rw [List.flatMap_cons, own.parts, ih others, List.singleton_append]

theorem weights_cons (r : Regex) (rs : List Regex) :
    weights direction (r :: rs) = r.weight direction + weights direction rs :=
  List.sum_cons

theorem weights_append (rs ss : List Regex) :
    weights direction (rs ++ ss) = weights direction rs + weights direction ss := by
  rw [weights, List.map_append, List.sum_append]
  rfl

/-- Two literals take together what they take as one. -/
theorem weight_literal_append (text more : List Char) :
    (literal (text ++ more)).weight direction =
      (literal text).weight direction + (literal more).weight direction := by
  simp only [weight, List.flatMap_append, List.length_append]
  omega

/-- Joining literals changes nothing about the bytes of a row. -/
theorem joinLiterals_simple (direction : Direction) (h : ∀ r ∈ rs, IsSimple r) :
    (∀ r ∈ joinLiterals rs, IsSimple r) ∧
      weights direction (joinLiterals rs) = weights direction rs := by
  fun_induction joinLiterals rs with
  | case1 => exact ⟨h, rfl⟩
  | case2 text rest more others joined ih =>
      obtain ⟨_, behind⟩ := List.forall_mem_cons.mp h
      obtain ⟨simple, same⟩ := ih behind
      rw [joined] at simple same
      obtain ⟨_, rest⟩ := List.forall_mem_cons.mp simple
      refine ⟨List.forall_mem_cons.mpr ⟨.literal _, rest⟩, ?_⟩
      rw [weights_cons, weight_literal_append, weights_cons, ← same, weights_cons, Nat.add_assoc]
  | case3 text rest others ih =>
      obtain ⟨own, behind⟩ := List.forall_mem_cons.mp h
      obtain ⟨simple, same⟩ := ih behind
      refine ⟨List.forall_mem_cons.mpr ⟨own, simple⟩, ?_⟩
      rw [weights_cons, weights_cons, same]
  | case4 r rest notLiteral ih =>
      obtain ⟨own, behind⟩ := List.forall_mem_cons.mp h
      obtain ⟨simple, same⟩ := ih behind
      refine ⟨List.forall_mem_cons.mpr ⟨own, simple⟩, ?_⟩
      rw [weights_cons, weights_cons, same]

theorem takesAtMost_ofParts (ne : rs ≠ []) (h : ∀ r ∈ rs, IsSimple r) :
    TakesAtMost ((ofParts rs).count? direction .whole) (weights direction rs) := by
  induction rs with
  | nil => exact absurd rfl ne
  | cons r rs ih =>
      obtain ⟨own, others⟩ := List.forall_mem_cons.mp h
      cases rs with
      | nil => exact own.takesAtMost.mono (Nat.le_add_right _ _)
      | cons s rs =>
          have rest := ih (List.cons_ne_nil s rs) others
          rw [ofParts, weights_cons]
          · cases direction with
            | forwards =>
                rw [count?_seq_forwards]
                exact own.takesAtMost.bind rest
            | backwards =>
                rw [count?_seq_backwards, Nat.add_comm]
                exact rest.bind own.takesAtMost
          · exact List.cons_ne_nil s rs

theorem takesAtLeast_ofParts (ne : rs ≠ []) (h : ∀ r ∈ rs, IsSimple r) :
    TakesAtLeast ((ofParts rs).count? .backwards .whole) (weights .backwards rs) := by
  induction rs with
  | nil => exact absurd rfl ne
  | cons r rs ih =>
      obtain ⟨own, others⟩ := List.forall_mem_cons.mp h
      cases rs with
      | nil => exact own.takesAtLeast.mono (Nat.le_refl _)
      | cons s rs =>
          have rest := ih (List.cons_ne_nil s rs) others
          rw [ofParts, weights_cons]
          · rw [count?_seq_backwards, Nat.add_comm]
            exact rest.bind own.takesAtLeast
          · exact List.cons_ne_nil s rs

theorem joinLiterals_ne_nil (ne : rs ≠ []) : joinLiterals rs ≠ [] := by
  fun_cases joinLiterals rs with
  | case1 => exact absurd rfl ne
  | case2 => exact List.cons_ne_nil _ _
  | case3 => exact List.cons_ne_nil _ _
  | case4 => exact List.cons_ne_nil _ _

theorem takesAtMost_concat (ne : rs ≠ []) (h : ∀ r ∈ rs, IsSimple r) :
    TakesAtMost ((concat rs).count? direction .whole) (weights direction rs) := by
  obtain ⟨simple, same⟩ := joinLiterals_simple direction h
  rw [concat, flatMap_parts h, ← same]
  exact takesAtMost_ofParts (joinLiterals_ne_nil ne) simple

theorem takesAtLeast_concat (ne : rs ≠ []) (h : ∀ r ∈ rs, IsSimple r) :
    TakesAtLeast ((concat rs).count? .backwards .whole) (weights .backwards rs) := by
  obtain ⟨simple, same⟩ := joinLiterals_simple .backwards h
  rw [concat, flatMap_parts h, ← same]
  exact takesAtLeast_ofParts (joinLiterals_ne_nil ne) simple

/-! ## Whole automata -/

/-- A row that begins with the beginning of the text is bound to it. -/
theorem startsText_concat (h : ∀ r ∈ rs, IsSimple r) :
    (concat (.anchor .textStart :: rs)).startsText = true := by
  have whole : ∀ r ∈ .anchor .textStart :: rs, IsSimple r :=
    List.forall_mem_cons.mpr ⟨.anchor _, h⟩
  rw [concat, flatMap_parts whole, joinLiterals]
  · cases joinLiterals rs with
    | nil => rfl
    | cons r rest => simp [ofParts, startsText]
  · nofun

theorem joinLiterals_concat_anchor (rs : List Regex) (a : Anchor) :
    joinLiterals (rs ++ [.anchor a]) = joinLiterals rs ++ [.anchor a] := by
  fun_induction joinLiterals rs with
  | case1 => rfl
  | case2 text rest more others joined ih =>
      rw [List.cons_append, joinLiterals, ih, joined]
      rfl
  | case3 text rest notLiteral ih =>
      rw [List.cons_append, joinLiterals, ih]
      cases own : joinLiterals rest with
      | nil => rfl
      | cons first further =>
          cases first with
          | literal more => exact (notLiteral more further own).elim
          | _ => rfl
  | case4 r rest notLiteral ih =>
      rw [List.cons_append, joinLiterals, ih]
      · rfl
      · exact notLiteral

theorem endsText_ofParts (rs : List Regex) :
    (ofParts (rs ++ [.anchor .textEnd])).endsText = true := by
  induction rs with
  | nil => rfl
  | cons r rs ih =>
      rw [List.cons_append, ofParts]
      · simp [endsText, ih]
      · exact List.append_ne_nil_of_right_ne_nil _ (List.cons_ne_nil _ _)

/-- A row that ends with the end of the text is bound to it. -/
theorem endsText_concat (h : ∀ r ∈ rs, IsSimple r) :
    (concat (rs ++ [.anchor .textEnd])).endsText = true := by
  have whole : ∀ r ∈ rs ++ [.anchor .textEnd], IsSimple r := by
    refine List.forall_mem_append.mpr ⟨h, List.forall_mem_singleton.mpr (.anchor _)⟩
  rw [concat, flatMap_parts whole, joinLiterals_concat_anchor]
  exact endsText_ofParts _

theorem total?_forwards (starts : r.startsText = true) : r.total? .forwards =
    (((Footprint.empty.add? 1 0).bind (add? 1 0)).bind (r.count? .forwards .whole)).bind
      (add? 2 0) := by
  rw [total?, lead?, if_pos starts, Option.bind_assoc, Option.bind_assoc]
  rfl

theorem total?_backwards (ends : r.endsText = true) : r.total? .backwards =
    ((Footprint.empty.add? 1 0).bind (r.count? .backwards .whole)).bind (add? 1 0) := by
  rw [total?, lead?, if_pos ends, Option.bind_assoc]
  rfl

/-- An expression that is bound to both ends of the text is accepted if its weight fits in. -/
theorem fits_of_weight {forwards backwards : Nat}
    (starts : r.startsText = true) (ends : r.endsText = true)
    (atMost : TakesAtMost (r.count? .forwards .whole) forwards)
    (atMost' : TakesAtMost (r.count? .backwards .whole) backwards)
    (room : 128 + forwards ≤ limit) (room' : 64 + backwards ≤ limit) : r.fits = true := by
  have first := (((takesAtMost_add? 1 0).bind (takesAtMost_add? 1 0)).bind atMost).bind
    (takesAtMost_add? 2 0)
  have second := ((takesAtMost_add? 1 0).bind atMost').bind (takesAtMost_add? 1 0)
  have nothing : Footprint.empty.bytes = 0 := rfl
  obtain ⟨f, counted, _⟩ := first .empty (by omega)
  obtain ⟨g, counted', _⟩ := second .empty (by omega)
  have whole : r.total? .forwards = some f := (total?_forwards starts).trans counted
  have whole' : r.total? .backwards = some g := (total?_backwards ends).trans counted'
  rw [fits, whole, whole']
  rfl

/-- What is accepted fits in. -/
theorem weight_le_of_fits {backwards : Nat} (ends : r.endsText = true)
    (atLeast : TakesAtLeast (r.count? .backwards .whole) backwards) (h : r.fits = true) :
    64 + backwards ≤ limit := by
  have before := (takesAtLeast_add? 1 0).bind atLeast
  obtain ⟨g, counted⟩ := Option.isSome_iff_exists.mp (Bool.and_eq_true_iff.mp h).2
  rw [total?_backwards ends] at counted
  obtain ⟨f, counted, last⟩ := Option.bind_eq_some_iff.mp counted
  have own := before .empty f counted
  obtain ⟨room, _⟩ := add?_eq_some_iff.mp last
  rw [bytes_add] at room
  omega

end Interception.Regex
