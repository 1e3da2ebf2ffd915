import Interception.Regex.Footprint.Expression
import Mathlib.Algebra.GroupWithZero.Nat
import Mathlib.Data.List.Nodup

/-!
# How large automata become

What a set takes in an automaton is known within bounds, wherever in the automaton it stands. Read
forwards, nodes of the tree that are alike may be built once, so that there is a bound from above.
Read backwards, rows of bytes that begin differently share no state, so that the bound is reached.

A state that is looked up in a table is there or not depending on hashes, and with them on how many
states stand before it. The bounds do not need to know: a lookup that fails only adds a state, and
one that cannot succeed always does.
-/

namespace Interception.Regex.Footprint

/-! ## Counting within the limit -/

/-- The count takes at most so many bytes: it is accepted wherever there is room for them. -/
def TakesAtMost (count : Footprint → Option Footprint) (n : Nat) : Prop :=
  ∀ f : Footprint, f.bytes + n ≤ limit → ∃ g, count f = some g ∧ g.bytes ≤ f.bytes + n

/-- The count takes at least so many bytes where it is accepted. -/
def TakesAtLeast (count : Footprint → Option Footprint) (n : Nat) : Prop :=
  ∀ f g : Footprint, count f = some g → f.bytes + n ≤ g.bytes

variable {count more : Footprint → Option Footprint} {n k : Nat} {f g : Footprint}

theorem add?_eq_some_iff {states lists : Nat} : f.add? states lists = some g ↔
    (⟨f.states + states, f.lists + lists⟩ : Footprint).bytes ≤ limit ∧
      ⟨f.states + states, f.lists + lists⟩ = g := by
  rw [add?]
  split_ifs with room
  · simp [room]
  · simp [room]

theorem bytes_add (f : Footprint) (states lists : Nat) :
    (⟨f.states + states, f.lists + lists⟩ : Footprint).bytes = f.bytes + (32 * states + lists) := by
  simp only [bytes]
  omega

theorem takesAtMost_add? (states lists : Nat) :
    TakesAtMost (add? states lists) (32 * states + lists) := by
  intro f room
  rw [← bytes_add] at room
  exact ⟨_, add?_eq_some_iff.mpr ⟨room, rfl⟩, Nat.le_of_eq (bytes_add f states lists)⟩

theorem takesAtLeast_add? (states lists : Nat) :
    TakesAtLeast (add? states lists) (32 * states + lists) := by
  intro f g accepted
  obtain ⟨_, rfl⟩ := add?_eq_some_iff.mp accepted
  exact Nat.le_of_eq (bytes_add f states lists).symm

theorem TakesAtMost.bind (h : TakesAtMost count n) (h' : TakesAtMost more k) :
    TakesAtMost (fun f => (count f).bind more) (n + k) := by
  intro f room
  obtain ⟨g, counted, le⟩ := h f (by omega)
  obtain ⟨g', counted', le'⟩ := h' g (by omega)
  refine ⟨g', ?_, by omega⟩
  show (count f).bind more = some g'
  rw [counted, Option.bind_some, counted']

theorem TakesAtLeast.bind (h : TakesAtLeast count n) (h' : TakesAtLeast more k) :
    TakesAtLeast (fun f => (count f).bind more) (n + k) := by
  intro f g' accepted
  obtain ⟨g, counted, counted'⟩ := Option.bind_eq_some_iff.mp accepted
  have le := h f g counted
  have le' := h' g g' counted'
  omega

theorem TakesAtMost.mono (h : TakesAtMost count n) (le : n ≤ k) : TakesAtMost count k := by
  intro f room
  obtain ⟨g, counted, own⟩ := h f (by omega)
  exact ⟨g, counted, by omega⟩

theorem TakesAtLeast.mono (h : TakesAtLeast count n) (le : k ≤ n) : TakesAtLeast count k := by
  intro f g accepted
  have own := h f g accepted
  omega

/-! ## Sets, read backwards -/

namespace Backwards

/-- The states and the way in the fork for the rows of a set. -/
def rowsBytes (rows : List (List ByteRange)) : Nat :=
  (rows.map fun row => 32 * row.length + forkWay).sum

theorem bytes_state_le (b : Backwards) (link : Link) :
    (b.state link).2.footprint.bytes ≤ b.footprint.bytes + 32 := by
  rw [state]
  simp only
  split
  · exact Nat.le_add_right _ _
  · simp only [bytes]
    omega

theorem bytes_chain_le (row : List ByteRange) (next : Nat) (b : Backwards) :
    (row.foldl (fun (next, b) range => b.state ⟨next, range⟩) (next, b)).2.footprint.bytes ≤
      b.footprint.bytes + 32 * row.length := by
  induction row generalizing next b with
  | nil => exact Nat.le_refl _
  | cons range row ih =>
      have here := bytes_state_le b ⟨next, range⟩
      have further := ih (b.state ⟨next, range⟩).1 (b.state ⟨next, range⟩).2
      rw [List.foldl_cons, List.length_cons]
      exact Nat.le_trans further (by omega)

theorem bytes_addRow (target : Nat) (b : Backwards) (row : List ByteRange) :
    (addRow target b row).footprint.bytes =
      (row.foldl (fun (next, b) range => b.state ⟨next, range⟩) (target, b)).2.footprint.bytes +
        forkWay := by
  rw [addRow]
  simp only [bytes]
  omega

theorem bytes_addRows_le (target : Nat) (rows : List (List ByteRange)) (b : Backwards) :
    (rows.foldl (addRow target) b).footprint.bytes ≤ b.footprint.bytes + rowsBytes rows := by
  induction rows generalizing b with
  | nil => exact Nat.le_refl _
  | cons row rows ih =>
      have here := bytes_chain_le row target b
      have further := ih (addRow target b row)
      rw [bytes_addRow] at further
      rw [List.foldl_cons, rowsBytes, List.map_cons, List.sum_cons]
      rw [rowsBytes] at further
      omega

/-! ### Rows that begin differently -/

/-- Every link in the table either leads to the target, for a range that a row has begun with, or to
a state that was built later, but not to the state that was built last. -/
structure Spread (target : Nat) (begun : List (Option ByteRange)) (b : Backwards) : Prop where
  built : target < b.footprint.states
  links : ∀ (place : Nat) (link : Link) (state : Nat), b.table[place]? = some (link, state) →
    (link.next = target ∧ some link.range ∈ begun) ∨
      (target < link.next ∧ link.next + 1 < b.footprint.states)

variable {target next : Nat} {begun : List (Option ByteRange)} {b : Backwards} {link : Link}

/-- A link that is not in the table takes a state. -/
theorem state_of_new (new : ∀ place state : Nat, b.table[place]? ≠ some (link, state)) :
    ∃ place, b.state link = (b.footprint.states,
      ⟨⟨b.footprint.states + 1, b.footprint.lists⟩,
        b.table.insert place (link, b.footprint.states)⟩) := by
  refine ⟨placeIn 1000 [link.next, link.range.low.toNat, link.range.high.toNat], ?_⟩
  have missing : Table.find? b.table
      (placeIn 1000 [link.next, link.range.low.toNat, link.range.high.toNat]) link = none := by
    rw [Table.find?]
    split
    · rename_i own state found
      rw [if_neg]
      rintro rfl
      exact new _ _ found
    · rfl
  rw [state]
  simp only [missing]

/-- What is in the table after a new link was put into it. -/
theorem Spread.insert (h : Spread target begun b) (link : Link)
    {begun' : List (Option ByteRange)} (sub : begun ⊆ begun') (place : Nat)
    (own : (link.next = target ∧ some link.range ∈ begun') ∨
      (target < link.next ∧ link.next < b.footprint.states)) :
    Spread target begun' ⟨⟨b.footprint.states + 1, b.footprint.lists⟩,
      b.table.insert place (link, b.footprint.states)⟩ where
  built := Nat.lt_succ_of_lt h.built
  links := by
    intro place' link' state found
    rw [Std.TreeMap.getElem?_insert] at found
    split_ifs at found
    · obtain ⟨rfl, _⟩ := Prod.mk.inj (Option.some.inj found)
      exact own.imp_right fun later => ⟨later.1, Nat.succ_lt_succ later.2⟩
    · obtain ⟨same, mem⟩ | ⟨later, before⟩ := h.links place' link' state found
      · exact .inl ⟨same, sub mem⟩
      · exact .inr ⟨later, Nat.lt_succ_of_lt before⟩

/-- A chain goes on from the state that was built last, so that all of its links are new. -/
theorem Spread.chain (h : Spread target begun b) (last : next + 1 = b.footprint.states)
    (behind : target < next) (row : List ByteRange) :
    let after := (row.foldl (fun (next, b) range => b.state ⟨next, range⟩) (next, b)).2
    Spread target begun after ∧ after.footprint.bytes = b.footprint.bytes + 32 * row.length := by
  induction row generalizing next b with
  | nil => exact ⟨h, rfl⟩
  | cons range row ih =>
      have new : ∀ place state : Nat, b.table[place]? ≠ some (⟨next, range⟩, state) := by
        intro place state found
        obtain ⟨same, _⟩ | ⟨_, before⟩ := h.links place _ state found
        · exact absurd same (Nat.ne_of_gt behind)
        · exact absurd before (by simp only; omega)
      obtain ⟨place, made⟩ := state_of_new new
      have spread := h.insert ⟨next, range⟩ (List.Subset.refl _) place
        (.inr ⟨behind, by simp only; omega⟩)
      have further := ih spread rfl h.built
      simp only [List.foldl_cons, made] at further ⊢
      refine ⟨further.1, further.2.trans ?_⟩
      simp only [bytes, List.length_cons]
      omega

theorem Spread.addRow (h : Spread target begun b) {row : List ByteRange}
    (new : row.head? ∉ begun) :
    Spread target (row.head? :: begun) (Backwards.addRow target b row) ∧
      (Backwards.addRow target b row).footprint.bytes =
        b.footprint.bytes + (32 * row.length + forkWay) := by
  rw [bytes_addRow]
  cases row with
  | nil =>
      refine ⟨⟨h.built, fun place link state found => ?_⟩, rfl⟩
      exact (h.links place link state found).imp_left (And.imp_right (List.mem_cons_of_mem _))
  | cons range row =>
      have missing : ∀ place state : Nat, b.table[place]? ≠ some (⟨target, range⟩, state) := by
        intro place state found
        obtain ⟨_, mem⟩ | ⟨later, _⟩ := h.links place _ state found
        · exact new mem
        · exact absurd later (Nat.lt_irrefl _)
      obtain ⟨place, made⟩ := state_of_new missing
      have spread := h.insert ⟨target, range⟩ (List.subset_cons_self (some range) begun)
        place (.inl ⟨rfl, List.mem_cons_self⟩)
      obtain ⟨own, size⟩ := spread.chain rfl h.built row
      rw [Backwards.addRow]
      simp only [List.foldl_cons, made, List.head?_cons] at own size ⊢
      refine ⟨⟨own.built, own.links⟩, ?_⟩
      rw [size]
      simp only [bytes, List.length_cons]
      omega

/-- Rows that begin differently share no states. -/
theorem Spread.addRows (h : Spread target begun b) {rows : List (List ByteRange)}
    (distinct : (rows.map List.head?).Nodup) (new : ∀ row ∈ rows, row.head? ∉ begun) :
    (rows.foldl (Backwards.addRow target) b).footprint.bytes =
      b.footprint.bytes + rowsBytes rows := by
  induction rows generalizing begun b with
  | nil => rfl
  | cons row rows ih =>
      obtain ⟨own, others⟩ := List.forall_mem_cons.mp new
      obtain ⟨apart, distinct⟩ := List.nodup_cons.mp distinct
      obtain ⟨spread, size⟩ := h.addRow own
      have further := ih spread distinct fun row' mem => by
        refine List.not_mem_cons_of_ne_of_not_mem ?_ (others row' mem)
        intro same
        exact apart (same ▸ List.mem_map_of_mem mem)
      rw [List.foldl_cons, further, size, rowsBytes, rowsBytes, List.map_cons, List.sum_cons]
      omega

end Backwards

/-- Whether the rows of bytes of a set begin differently. -/
def StartsApart (s : CharSet) : Prop := ((byteRows s).map List.head?).Nodup

instance (s : CharSet) : Decidable (StartsApart s) :=
  inferInstanceAs (Decidable ((byteRows s).map List.head?).Nodup)

theorem bytes_addBackwards_le (s : CharSet) (f : Footprint) :
    (addBackwards s f).bytes ≤ f.bytes + (64 + Backwards.rowsBytes (byteRows s)) := by
  have le := Backwards.bytes_addRows_le (f.states + 1) (byteRows s) ⟨⟨f.states + 2, f.lists⟩, ∅⟩
  refine Nat.le_trans le ?_
  simp only [bytes]
  omega

theorem bytes_addBackwards {s : CharSet} (apart : StartsApart s) (f : Footprint) :
    (addBackwards s f).bytes = f.bytes + (64 + Backwards.rowsBytes (byteRows s)) := by
  have start : Backwards.Spread (f.states + 1) [] ⟨⟨f.states + 2, f.lists⟩, ∅⟩ :=
    ⟨Nat.lt_succ_self _, by simp⟩
  rw [addBackwards]
  refine (start.addRows apart fun row _ => List.not_mem_nil).trans ?_
  simp only [bytes]
  omega

/-! ## Sets, read forwards -/

namespace Forwards

/-- How many ways a node has, finished or not. -/
def wayCount (node : OpenNode) : Nat := node.ways.length + if node.last.isSome then 1 else 0

/-- The bytes of what has been built, and what the nodes that are not finished can come to: a state
for each of them, and their ways. -/
def potential (b : Forwards) : Nat :=
  b.footprint.bytes + 32 * b.nodes.length + rangeWay * (b.nodes.map wayCount).sum

variable {b : Forwards}

theorem length_ways_close (node : OpenNode) (next : Nat) :
    (node.close next).ways.length = wayCount node := by
  obtain ⟨ways, last⟩ := node
  cases last <;> rfl

theorem wayCount_close (node : OpenNode) (next : Nat) :
    wayCount (node.close next) = wayCount node := by
  obtain ⟨ways, last⟩ := node
  cases last <;> rfl

theorem bytes_state_le (b : Forwards) (ways : List Way) :
    (b.state ways).2.footprint.bytes ≤ b.footprint.bytes + (32 + rangeWay * ways.length) ∧
      (b.state ways).2.nodes = b.nodes := by
  rw [state]
  simp only
  split
  · exact ⟨Nat.le_add_right _ _, rfl⟩
  · refine ⟨?_, rfl⟩
    simp only [bytes]
    omega

/-- A node that is finished is paid for. -/
theorem potential_finish_le (n next : Nat) (b : Forwards) :
    (b.finish n next).potential ≤ b.potential := by
  induction n generalizing next b with
  | zero =>
      obtain ⟨footprint, table, nodes⟩ := b
      cases nodes with
      | nil => exact Nat.le_refl _
      | cons node nodes => simp [finish, potential, wayCount_close]
  | succ n ih =>
      obtain ⟨footprint, table, nodes⟩ := b
      cases nodes with
      | nil => exact Nat.le_refl _
      | cons node nodes =>
          obtain ⟨le, same⟩ :=
            bytes_state_le ⟨footprint, table, nodes⟩ (node.close next).ways.reverse
          refine Nat.le_trans (ih (Forwards.state _ _).1 (Forwards.state _ _).2) ?_
          rw [List.length_reverse, length_ways_close, rangeWay] at le
          simp only [potential, same, List.length_cons, List.map_cons, List.sum_cons, rangeWay]
          have here : (⟨footprint, table, nodes⟩ : Forwards).footprint.bytes = footprint.bytes :=
            rfl
          omega

/-- What a row of bytes adds at most: a state for every range but the first, and a way for each. -/
def rowBytes (row : List ByteRange) : Nat := 40 * row.length - 32

theorem wayCount_last_le (node : OpenNode) (range : ByteRange) :
    wayCount { node with last := some range } ≤ wayCount node + 1 := by
  simp only [wayCount, Option.isSome_some, if_true]
  omega

theorem wayCount_below (rest : List ByteRange) :
    ((rest.map fun range => (⟨[], some range⟩ : OpenNode)).map wayCount).sum = rest.length := by
  induction rest with
  | nil => rfl
  | cons range rest ih =>
      simp only [List.map_cons, List.sum_cons, ih, List.length_cons, wayCount]
      simp only [List.length_nil, Option.isSome_some, if_true]
      omega

theorem potential_addRow_le (target : Nat) (b : Forwards) (row : List ByteRange) :
    (b.addRow target row).potential ≤ b.potential + rowBytes row := by
  rw [addRow]
  simp only
  have finished := potential_finish_le
    (b.nodes.length - (shared row b.nodes.reverse + 1)) target b
  have shorter := List.length_drop (l := row) (i := shared row b.nodes.reverse)
  split
  · rename_i range rest node nodes split own
    have last := wayCount_last_le node range
    rw [split, List.length_cons] at shorter
    rw [potential, own] at finished
    simp only [List.length_cons, List.map_cons, List.sum_cons] at finished
    simp only [potential, List.length_append, List.length_reverse, List.length_map,
      List.length_cons, List.map_append, List.map_reverse, List.sum_append, List.sum_reverse,
      wayCount_below, List.map_cons, List.sum_cons, rowBytes, rangeWay] at finished ⊢
    omega
  · exact Nat.le_trans finished (Nat.le_add_right _ _)

theorem potential_addRows_le (target : Nat) (rows : List (List ByteRange)) (b : Forwards) :
    (rows.foldl (addRow target) b).potential ≤ b.potential + (rows.map rowBytes).sum := by
  induction rows generalizing b with
  | nil => exact Nat.le_refl _
  | cons row rows ih =>
      have here := potential_addRow_le target b row
      have further := ih (b.addRow target row)
      rw [List.foldl_cons, List.map_cons, List.sum_cons]
      omega

end Forwards

theorem bytes_addForwards_le (s : CharSet) (f : Footprint) :
    (addForwards s f).bytes ≤ f.bytes + (64 + ((byteRows s).map Forwards.rowBytes).sum) := by
  have start : (⟨⟨f.states + 1, f.lists⟩, ∅, [⟨[], none⟩]⟩ : Forwards).potential =
      f.bytes + 64 := by
    simp [Forwards.potential, Forwards.wayCount, bytes]
    omega
  have rows := Forwards.potential_addRows_le f.states (byteRows s)
    ⟨⟨f.states + 1, f.lists⟩, ∅, [⟨[], none⟩]⟩
  rw [start] at rows
  rw [addForwards]
  generalize (byteRows s).foldl (Forwards.addRow f.states)
    ⟨⟨f.states + 1, f.lists⟩, ∅, [⟨[], none⟩]⟩ = b at rows ⊢
  have finished := Nat.le_trans
    (Forwards.potential_finish_le (b.nodes.length - 1) f.states b) rows
  generalize b.finish (b.nodes.length - 1) f.states = built at finished ⊢
  refine Nat.le_trans ?_ (Nat.le_trans finished (Nat.le_of_eq (Nat.add_assoc _ _ _)))
  obtain ⟨footprint, table, nodes⟩ := built
  cases nodes with
  | nil => exact Nat.le_refl _
  | cons root nodes =>
      have le := (Forwards.bytes_state_le ⟨footprint, table, root :: nodes⟩ root.ways.reverse).1
      have ways : root.ways.length ≤ Forwards.wayCount root := Nat.le_add_right _ _
      refine Nat.le_trans le ?_
      simp only [Forwards.potential, List.length_cons, List.map_cons, List.sum_cons, rangeWay,
        List.length_reverse]
      omega

/-! ## Sets -/

/-- The bytes for a set: known for one within ASCII; and otherwise an upper bound, which is reached
backwards by a set whose rows begin differently. -/
def setBytes (direction : Direction) (s : CharSet) : Nat :=
  if s.bounds.all (· ≤ 128) then 64 + rangeWay * s.runs.length
  else
    match direction with
    | .forwards => 64 + ((byteRows s).map Forwards.rowBytes).sum
    | .backwards => 64 + Backwards.rowsBytes (byteRows s)

theorem add?_nothing (f : Footprint) : f.add? 0 0 = if f.bytes ≤ limit then some f else none := rfl

theorem takesAtMost_addSet? (direction : Direction) (s : CharSet) :
    TakesAtMost (addSet? direction s) (setBytes direction s) := by
  intro f room
  unfold setBytes at room ⊢
  by_cases ascii : s.bounds.all (· ≤ 128) = true
  · unfold addSet?
    rw [if_pos ascii]
    rw [if_pos ascii] at room ⊢
    exact takesAtMost_add? 2 (rangeWay * s.runs.length) f room
  · unfold addSet?
    rw [if_neg ascii]
    rw [if_neg ascii] at room ⊢
    cases direction with
    | forwards =>
        have le := bytes_addForwards_le s f
        exact ⟨_, (add?_nothing _).trans (if_pos (Nat.le_trans le room)), le⟩
    | backwards =>
        have le := bytes_addBackwards_le s f
        exact ⟨_, (add?_nothing _).trans (if_pos (Nat.le_trans le room)), le⟩

theorem takesAtLeast_addSet? {s : CharSet} (apart : StartsApart s) :
    TakesAtLeast (addSet? .backwards s) (setBytes .backwards s) := by
  intro f g accepted
  unfold setBytes
  by_cases ascii : s.bounds.all (· ≤ 128) = true
  · unfold addSet? at accepted
    rw [if_pos ascii] at accepted
    rw [if_pos ascii]
    exact takesAtLeast_add? 2 (rangeWay * s.runs.length) f g accepted
  · unfold addSet? at accepted
    rw [if_neg ascii] at accepted
    rw [if_neg ascii]
    obtain ⟨_, rfl⟩ := add?_eq_some_iff.mp accepted
    exact Nat.le_of_eq (bytes_addBackwards apart f).symm

end Interception.Regex.Footprint
