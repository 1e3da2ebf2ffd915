import Interception.CharSet
import Mathlib.Data.List.Basic
import Mathlib.Tactic.SplitIfs

/-!
# Membership in sets of characters

The bounds of a set increase. Read from the left, each one that is not beyond a character turns its
membership round, and a binary search counts how often that happens. Two sets are put together bound
by bound: whatever lies between two neighbouring bounds is in what comes out if the operation says so
about its memberships.
-/

namespace Interception

/-! ## Ranks -/

section Rank

variable {bounds : Array Nat} {x fuel low high : Nat}

theorem getElem_le_getElem (increasing : bounds.toList.Pairwise (· < ·)) {i j : Nat} (h : i ≤ j)
    (inside : j < bounds.size) : bounds[i] ≤ bounds[j] := by
  obtain less | rfl := Nat.lt_or_eq_of_le h
  · exact Nat.le_of_lt (List.pairwise_iff_getElem.mp increasing i j _ inside less)
  · exact Nat.le_refl _

/-- A search tells the bounds that are at most `x` from those beyond it, if those before `low` and
those from `high` on have been told apart. -/
theorem rank_search (increasing : bounds.toList.Pairwise (· < ·)) (enough : high ≤ low + fuel)
    (inside : low ≤ high ∧ high ≤ bounds.size)
    (below : ∀ i, (h : i < bounds.size) → i < low → bounds[i] ≤ x)
    (beyond : ∀ i, (h : i < bounds.size) → high ≤ i → x < bounds[i]) :
    rank.search bounds x fuel low high ≤ bounds.size ∧
      ∀ i, (h : i < bounds.size) → (bounds[i] ≤ x ↔ i < rank.search bounds x fuel low high) := by
  induction fuel generalizing low high with
  | zero =>
      refine ⟨by rw [rank.search]; omega, fun i h => ?_⟩
      rw [rank.search]
      have := beyond i h
      have := below i h
      omega
  | succ fuel ih =>
      rw [rank.search]
      split_ifs with open'
      · have middle : (low + high) / 2 < bounds.size := by omega
        simp only [Array.getD, middle, dite_true]
        split_ifs with under
        · refine ih (by omega) (by omega) (fun i h before => ?_) beyond
          exact Nat.le_trans (getElem_le_getElem increasing (by omega) middle) under
        · refine ih (by omega) (by omega) below fun i h after => ?_
          exact Nat.lt_of_lt_of_le (Nat.lt_of_not_le under) (getElem_le_getElem increasing after h)
      · refine ⟨by omega, fun i h => ?_⟩
        have := beyond i h
        have := below i h
        omega

end Rank

namespace CharSet

variable {s t : CharSet} {c : Char}

/-- The bounds of the set increase. -/
def IsSorted (s : CharSet) : Prop := s.bounds.toList.Pairwise (· < ·)

/-- Whether `x` is a member, if `inside` tells it for what is before the first of the bounds. -/
def memberFrom (inside : Bool) (x : Nat) : List Nat → Bool
  | [] => inside
  | bound :: bounds => if bound ≤ x then memberFrom (!inside) x bounds else inside

theorem memberFrom_of_lt {inside : Bool} {x : Nat} {bounds : List Nat}
    (h : ∀ bound ∈ bounds, x < bound) : memberFrom inside x bounds = inside := by
  cases bounds with
  | nil => rfl
  | cons bound bounds => exact if_neg (Nat.not_le_of_lt (h bound List.mem_cons_self))

theorem memberFrom_eq {inside : Bool} {x r : Nat} {bounds : List Nat} (le : r ≤ bounds.length)
    (h : ∀ i, (hi : i < bounds.length) → (bounds[i] ≤ x ↔ i < r)) :
    memberFrom inside x bounds = (inside ^^ r % 2 == 1) := by
  induction bounds generalizing inside r with
  | nil =>
      obtain rfl := Nat.le_zero.mp le
      simp [memberFrom]
  | cons bound bounds ih =>
      have first := h 0 (Nat.zero_lt_succ _)
      rw [List.getElem_cons_zero] at first
      rw [memberFrom]
      split_ifs with under
      · obtain ⟨r, rfl⟩ := Nat.exists_eq_succ_of_ne_zero (Nat.ne_of_gt (first.mp under))
        rw [@ih (!inside) r (Nat.le_of_succ_le_succ le)]
        · obtain even | odd := Nat.mod_two_eq_zero_or_one r
          · have : (r + 1) % 2 = 1 := by omega
            simp [even, this]
          · have : (r + 1) % 2 = 0 := by omega
            simp [odd, this]
        · intro i hi
          have next := h (i + 1) (Nat.succ_lt_succ hi)
          rw [List.getElem_cons_succ] at next
          omega
      · obtain rfl : r = 0 := by omega
        simp

theorem IsSorted.contains_eq (h : s.IsSorted) (c : Char) :
    s.contains c = memberFrom false c.toNat s.bounds.toList := by
  obtain ⟨le, told⟩ := rank_search (x := c.toNat) h (Nat.le_add_left _ 0)
    ⟨Nat.zero_le _, Nat.le_refl _⟩ (fun i _ before => absurd before (Nat.not_lt_zero i))
    (fun i inside after => absurd inside (Nat.not_lt_of_le after))
  rw [memberFrom_eq le told]
  simp [contains, rank]

/-! ## Operations -/

/-- The bounds of what an operation makes of memberships, given those before the bounds. -/
structure Combines (op : Bool → Bool → Bool) (a b : Bool) (xs ys out : List Nat) : Prop where
  sorted : out.Pairwise (· < ·)
  subset : ∀ bound ∈ out, bound ∈ xs ∨ bound ∈ ys
  member : ∀ x, memberFrom (op a b) x out = op (memberFrom a x xs) (memberFrom b x ys)

variable {op : Bool → Bool → Bool} {a b a' b' : Bool} {xs ys xs' ys' rest : List Nat} {bound : Nat}

/-- A bound changes memberships to those behind it, and it stays where the outcome changes. -/
theorem Combines.cons (h : Combines op a' b' xs' ys' rest)
    (mem : bound ∈ xs ∨ bound ∈ ys) (left : ∀ x ∈ xs', x ∈ xs ∧ bound < x)
    (right : ∀ y ∈ ys', y ∈ ys ∧ bound < y)
    (fromLeft : ∀ x, memberFrom a x xs = if bound ≤ x then memberFrom a' x xs' else a)
    (fromRight : ∀ x, memberFrom b x ys = if bound ≤ x then memberFrom b' x ys' else b) :
    Combines op a b xs ys (if op a' b' = op a b then rest else bound :: rest) := by
  have behind : ∀ x ∈ rest, bound < x := by
    intro x own
    obtain own | own := h.subset x own
    · exact (left x own).2
    · exact (right x own).2
  have subset : ∀ x ∈ rest, x ∈ xs ∨ x ∈ ys := by
    intro x own
    exact (h.subset x own).imp (fun own => (left x own).1) fun own => (right x own).1
  have member : ∀ x, op (memberFrom a x xs) (memberFrom b x ys) =
      if bound ≤ x then memberFrom (op a' b') x rest else op a b := by
    intro x
    rw [fromLeft, fromRight, h.member]
    split_ifs <;> rfl
  split_ifs with same
  · refine ⟨h.sorted, subset, fun x => ?_⟩
    rw [member, same]
    split_ifs with under
    · rfl
    · exact memberFrom_of_lt fun y own => by have := behind y own; omega
  · refine ⟨List.pairwise_cons.mpr ⟨behind, h.sorted⟩, ?_, fun x => ?_⟩
    · exact List.forall_mem_cons.mpr ⟨mem, subset⟩
    · rw [member, memberFrom, Bool.eq_not_of_ne (Ne.symm same), Bool.not_not]

/-- Where there is one bound only, the other list does not change before it. -/
theorem memberFrom_of_forall_lt {inside : Bool} (h : ∀ y ∈ ys, bound < y) (x : Nat) :
    memberFrom inside x ys = if bound ≤ x then memberFrom inside x ys else inside := by
  split_ifs with under
  · rfl
  · exact memberFrom_of_lt fun y own => by have := h y own; omega

theorem combines_combineFrom (left : xs.Pairwise (· < ·)) (right : ys.Pairwise (· < ·)) :
    Combines op a b xs ys (combineFrom op a b xs ys) := by
  have own {z : Nat} {zs : List Nat} (behind : ∀ x ∈ zs, z < x) : ∀ x ∈ zs, x ∈ z :: zs ∧ z < x :=
    fun x mem => ⟨List.mem_cons_of_mem z mem, behind x mem⟩
  have all {z w : Nat} {zs : List Nat} (less : w < z) (behind : ∀ x ∈ zs, z < x) :
      ∀ x ∈ z :: zs, x ∈ z :: zs ∧ w < x :=
    fun x mem => ⟨mem, (List.mem_cons.mp mem).elim (· ▸ less) fun mem =>
      Nat.lt_trans less (behind x mem)⟩
  induction size : xs.length + ys.length using Nat.strongRecOn generalizing a b xs ys with
  | _ size ih =>
      obtain _ | ⟨x, xs⟩ := xs <;> obtain _ | ⟨y, ys⟩ := ys
      · exact ⟨by simp, by simp, fun x => by simp [memberFrom]⟩
      · obtain ⟨above, right'⟩ := List.pairwise_cons.mp right
        rw [combineFrom]
        exact (ih _ (by simp [← size]) left right' rfl).cons (.inr List.mem_cons_self)
          (List.forall_mem_nil _) (own above)
          (memberFrom_of_forall_lt (List.forall_mem_nil _)) fun _ => rfl
      · obtain ⟨above, left'⟩ := List.pairwise_cons.mp left
        rw [combineFrom]
        exact (ih _ (by simp [← size]) left' right rfl).cons (.inl List.mem_cons_self) (own above)
          (List.forall_mem_nil _) (fun _ => rfl)
          (memberFrom_of_forall_lt (List.forall_mem_nil _))
      · obtain ⟨above, left'⟩ := List.pairwise_cons.mp left
        obtain ⟨above', right'⟩ := List.pairwise_cons.mp right
        simp only [List.length_cons] at size
        rw [combineFrom]
        obtain before | rfl | after := Nat.lt_trichotomy x y
        · rw [if_pos before]
          exact (ih _ (by simp; omega) left' right rfl).cons (.inl List.mem_cons_self) (own above)
            (all before above') (fun _ => rfl)
            (memberFrom_of_forall_lt fun z mem => (all before above' z mem).2)
        · rw [if_neg (Nat.lt_irrefl x), if_neg (Nat.lt_irrefl x)]
          exact (ih _ (by omega) left' right' rfl).cons (.inl List.mem_cons_self) (own above)
            (own above') (fun _ => rfl) fun _ => rfl
        · rw [if_neg (Nat.lt_asymm after), if_pos after]
          exact (ih _ (by simp; omega) left right' rfl).cons (.inr List.mem_cons_self)
            (all after above) (own above')
            (memberFrom_of_forall_lt fun z mem => (all after above z mem).2) fun _ => rfl

theorem IsSorted.combine (hs : s.IsSorted) (ht : t.IsSorted) (op : Bool → Bool → Bool) :
    (combine op s t).IsSorted :=
  (combines_combineFrom hs ht).sorted

theorem contains_combine (hs : s.IsSorted) (ht : t.IsSorted) (absent : op false false = false) :
    (combine op s t).contains c = op (s.contains c) (t.contains c) := by
  have combined : Combines op false false s.bounds.toList t.bounds.toList _ :=
    combines_combineFrom hs ht
  have member := combined.member c.toNat
  rw [absent] at member
  rw [(hs.combine ht op).contains_eq, hs.contains_eq, ht.contains_eq, ← member]
  rfl

theorem IsSorted.union (hs : s.IsSorted) (ht : t.IsSorted) : (s.union t).IsSorted :=
  hs.combine ht _

theorem contains_union (hs : s.IsSorted) (ht : t.IsSorted) :
    (s.union t).contains c = (s.contains c || t.contains c) :=
  contains_combine hs ht rfl

/-! ## Sets of given characters -/

theorem isSorted_empty : empty.IsSorted := List.Pairwise.nil

theorem isSorted_only (c : Char) : (only c).IsSorted := by
  simp [IsSorted, only]

/-- Sets of which each one is sorted, and what they contain together. -/
structure Unites (sets : List CharSet) (s : CharSet) : Prop where
  sorted : s.IsSorted
  contains : ∀ c, s.contains c = sets.any (·.contains c)

variable {sets : List CharSet}

theorem unionPairs_spec (h : ∀ s ∈ sets, s.IsSorted) :
    (∀ s ∈ unionPairs sets, s.IsSorted) ∧
      ∀ c : Char, (unionPairs sets).any (·.contains c) = sets.any (·.contains c) := by
  fun_induction unionPairs sets with
  | case1 s t rest ih =>
      obtain ⟨hs, others⟩ := List.forall_mem_cons.mp h
      obtain ⟨ht, others⟩ := List.forall_mem_cons.mp others
      obtain ⟨sorted, contains⟩ := ih others
      refine ⟨List.forall_mem_cons.mpr ⟨hs.union ht, sorted⟩, fun c => ?_⟩
      rw [List.any_cons, contains, contains_union hs ht, List.any_cons, List.any_cons, Bool.or_assoc]
  | case2 rest _ => exact ⟨h, fun _ => rfl⟩

theorem unites_foldl (start : s.IsSorted) (h : ∀ t ∈ sets, t.IsSorted) :
    Unites (s :: sets) (sets.foldl union s) := by
  induction sets generalizing s with
  | nil => exact ⟨start, fun c => by simp⟩
  | cons t sets ih =>
      obtain ⟨ht, others⟩ := List.forall_mem_cons.mp h
      obtain ⟨sorted, contains⟩ := ih (start.union ht) others
      refine ⟨sorted, fun c => ?_⟩
      rw [List.foldl_cons, contains, List.any_cons, contains_union start ht, List.any_cons,
        List.any_cons, Bool.or_assoc]

theorem unites_unionRounds (n : Nat) (h : ∀ s ∈ sets, s.IsSorted) :
    Unites sets (unionRounds n sets) := by
  induction n generalizing sets with
  | zero =>
      obtain ⟨sorted, contains⟩ := unites_foldl isSorted_empty h
      exact ⟨sorted, fun c => by rw [unionRounds, contains]; simp⟩
  | succ n ih =>
      obtain ⟨own, same⟩ := unionPairs_spec h
      obtain ⟨sorted, contains⟩ := ih own
      exact ⟨sorted, fun c => by rw [unionRounds, contains, same]⟩

theorem contains_ofChars (chars : List Char) (c : Char) :
    (ofChars chars).contains c = chars.contains c := by
  have sorted : ∀ s ∈ chars.map only, s.IsSorted :=
    List.forall_mem_map.mpr fun x _ => isSorted_only x
  rw [ofChars, unions, (unites_unionRounds _ sorted).contains, List.any_map, List.contains_eq_any_beq]
  congr 1
  funext x
  rw [Function.comp_apply, contains_only, Bool.beq_comm]

/-- A set of which one character is told, and which has one, is that of this character. -/
theorem eq_only_of_single? {d : Char} (h : s.single? = some d) (mem : s.contains c = true) :
    s = only c ∧ d = c := by
  obtain ⟨⟨_ | ⟨low, _ | ⟨high, _ | _⟩⟩⟩⟩ := s
  · cases h
  · cases h
  · replace h : (if high = low + 1 then some (Char.ofNat low) else none) = some d := h
    split_ifs at h with next
    subst next
    have sorted : IsSorted ⟨#[low, low + 1]⟩ := by simp [IsSorted]
    rw [sorted.contains_eq] at mem
    obtain rfl : low = c.toNat := by
      simp only [memberFrom] at mem
      split_ifs at mem with above beyond
      · cases mem
      · omega
    exact ⟨rfl, (Option.some.inj h).symm.trans (Char.ofNat_toNat c)⟩
  · cases h

theorem contains_all (c : Char) : all.contains c = true := by
  have sorted : all.IsSorted := by simp [IsSorted, all]
  have valid : c.toNat < 0xD800 ∨ 0xE000 ≤ c.toNat ∧ c.toNat < 0x110000 := by
    have own := c.valid
    rw [UInt32.isValidChar, Nat.isValidChar] at own
    have same : c.toNat = c.val.toNat := rfl
    omega
  have last : ¬ 0x110000 ≤ c.toNat := by omega
  rw [sorted.contains_eq]
  by_cases surrogate : 0xD800 ≤ c.toNat <;> by_cases high : 0xE000 ≤ c.toNat
  all_goals
    simp [all, memberFrom, surrogate, high, last]
    try omega

theorem contains_compl (h : s.IsSorted) : s.compl.contains c = !s.contains c := by
  have sorted : all.IsSorted := by simp [IsSorted, all]
  rw [compl, diff, contains_combine sorted h rfl, contains_all, Bool.true_and]

end CharSet

end Interception
