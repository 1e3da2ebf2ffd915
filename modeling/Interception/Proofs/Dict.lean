import Interception.Dict
import Mathlib.Data.List.Nodup
import Mathlib.Data.List.Sort

/-!
# Dictionaries as maps

The order in which a dictionary lists its pairs is of no account. `Same` says that two dictionaries
are one map: they look up alike, which is to say that they list the same pairs, in some order each.
The entries put into the order of the keys are those pairs again.
-/

namespace Interception

/-! ## Lists by key -/

/-- Entries in the order of their keys, each key once. -/
abbrev Ordered {α : Type} (entries : List (String × α)) : Prop :=
  entries.Pairwise fun a b => a.1 < b.1

section Listings

variable {α : Type} {entries others : List (String × α)}

/-- Where each key has one entry, it is looked up. -/
theorem mem_iff_lookup (once : (entries.map Prod.fst).Nodup) {key : String} {value : α} :
    (key, value) ∈ entries ↔ entries.lookup key = some value := by
  induction entries with
  | nil => simp
  | cons entry entries ih =>
      obtain ⟨first, own⟩ := entry
      obtain ⟨others, rest⟩ := List.nodup_cons.mp once
      by_cases here : key = first
      · have missing : (first, value) ∉ entries := fun mem =>
          others (List.mem_map.mpr ⟨(first, value), mem, rfl⟩)
        rw [here, List.mem_cons, List.lookup_cons_self]
        simp [missing, eq_comm]
      · simp [List.lookup_cons, beq_false_of_ne here, here, ih rest]

/-- Looking up does not depend on the order of entries. -/
theorem lookup_eq_of_perm (once : (others.map Prod.fst).Nodup) (perm : entries.Perm others)
    (key : String) : entries.lookup key = others.lookup key := by
  have once' : (entries.map Prod.fst).Nodup := (perm.map Prod.fst).nodup_iff.mpr once
  apply Option.ext
  intro value
  rw [← mem_iff_lookup once, ← mem_iff_lookup once', perm.mem_iff]

theorem Ordered.nodup_keys (h : Ordered entries) : (entries.map Prod.fst).Nodup := by
  rw [List.Nodup, List.pairwise_map]
  refine h.imp fun less same => ?_
  rw [same] at less
  exact String.lt_irrefl _ less

/-- Where each key has one entry, the same entries are listed in some order. -/
theorem perm_of_mem_iff (once : (entries.map Prod.fst).Nodup) (once' : (others.map Prod.fst).Nodup)
    (same : ∀ entry, entry ∈ entries ↔ entry ∈ others) : entries.Perm others :=
  (List.perm_ext_iff_of_nodup (.of_map _ once) (.of_map _ once')).mpr same

/-- The entries of a map have one order by key. -/
theorem Ordered.eq_of_mem_iff (h : Ordered entries) (h' : Ordered others)
    (same : ∀ entry, entry ∈ entries ↔ entry ∈ others) : entries = others := by
  have perm := perm_of_mem_iff h.nodup_keys h'.nodup_keys same
  refine perm.eq_of_pairwise (fun a b _ _ less more => ?_) h h'
  exact absurd (String.lt_trans less more) (String.lt_irrefl _)

end Listings

namespace Ordered

variable {α : Type} {entries : List (String × α)}

theorem eq_of_not_lt {a b : String} (h : ¬ a < b) (h' : ¬ b < a) : a = b :=
  String.le_antisymm (String.not_lt.1 h') (String.not_lt.1 h)

theorem mem_insert {key : String} {value : α} {e : String × α}
    (h : e ∈ insert key value entries) : e = (key, value) ∨ e ∈ entries := by
  induction entries with
  | nil => simpa [insert] using h
  | cons entry entries ih =>
    obtain ⟨k, v⟩ := entry
    simp only [insert] at h
    split at h
    · simpa using h
    · split at h
      · rcases List.mem_cons.1 h with h | h
        · exact .inr (h ▸ List.mem_cons_self)
        · exact (ih h).imp_right (List.mem_cons_of_mem _)
      · rcases List.mem_cons.1 h with h | h
        · exact .inl h
        · exact .inr (List.mem_cons_of_mem _ h)

theorem insert_ordered (h : Ordered entries) (key : String) (value : α) :
    Ordered (insert key value entries) := by
  induction entries with
  | nil => simp [insert]
  | cons entry entries ih =>
    obtain ⟨k, v⟩ := entry
    obtain ⟨hhead, htail⟩ := List.pairwise_cons.1 h
    simp only [insert]
    split
    · rename_i hlt
      refine List.pairwise_cons.2 ⟨?_, h⟩
      intro e he
      rcases List.mem_cons.1 he with rfl | he
      · exact hlt
      · exact String.lt_trans hlt (hhead e he)
    · split
      · rename_i hlt
        refine List.pairwise_cons.2 ⟨?_, ih htail⟩
        intro e he
        rcases mem_insert he with rfl | he
        · exact hlt
        · exact hhead e he
      · rename_i h1 h2
        have hk : key = k := eq_of_not_lt h1 h2
        subst hk
        exact List.pairwise_cons.2 ⟨hhead, htail⟩

theorem lookup_insert (key : String) (value : α) (entries : List (String × α)) (name : String) :
    (insert key value entries).lookup name =
      if name = key then some value else entries.lookup name := by
  induction entries with
  | nil =>
    by_cases hn : name = key
    · simp [insert, hn]
    · simp [insert, List.lookup_cons, hn, beq_false_of_ne hn]
  | cons entry entries ih =>
    obtain ⟨k, v⟩ := entry
    simp only [insert]
    split
    · by_cases hn : name = key
      · simp [hn]
      · simp [List.lookup_cons, hn, beq_false_of_ne hn]
    · split
      · rename_i hlt
        by_cases hk : name = k
        · have hne : name ≠ key := by
            intro he
            exact String.lt_irrefl _ (he ▸ hk ▸ hlt)
          simp [hk, hk ▸ hne]
        · simp only [List.lookup_cons, beq_false_of_ne hk, ih]
      · rename_i h1 h2
        have hk : key = k := eq_of_not_lt h1 h2
        subst hk
        by_cases hn : name = key
        · simp [hn]
        · simp [List.lookup_cons, hn, beq_false_of_ne hn]

theorem foldl_insert_ordered (h : Ordered entries) (pairs : List (String × α)) :
    Ordered (pairs.foldl (fun entries pair => insert pair.1 pair.2 entries) entries) := by
  induction pairs generalizing entries with
  | nil => exact h
  | cons pair pairs ih => exact ih (insert_ordered h pair.1 pair.2)

/-- Of several pairs for one key, the last one counts. -/
theorem lookup_foldl_insert (pairs entries : List (String × α)) (key : String) :
    (pairs.foldl (fun entries pair => insert pair.1 pair.2 entries) entries).lookup key =
      (pairs.reverse.lookup key).or (entries.lookup key) := by
  induction pairs generalizing entries with
  | nil => rfl
  | cons pair pairs ih =>
      obtain ⟨own, value⟩ := pair
      rw [List.foldl_cons, ih, lookup_insert, List.reverse_cons, List.lookup_append, Option.or_assoc]
      congr 1
      by_cases here : key = own
      · simp [here]
      · simp [List.lookup_cons, here, beq_false_of_ne here]

end Ordered

/-! ## One map -/

namespace Dict

variable {α : Type} {d d' other : Dict α} {key : String} {value : α}

theorem mem_pairs_iff : (key, value) ∈ d.pairs ↔ d.get? key = some value :=
  mem_iff_lookup d.distinct

theorem get?_erase_eq_some_iff {first : String} :
    (d.erase first).get? key = some value ↔ key ≠ first ∧ d.get? key = some value := by
  rw [get?_erase]
  by_cases here : key = first
  · simp [here]
  · simp [here]

theorem entries_ordered (d : Dict α) : Ordered d.entries :=
  Ordered.foldl_insert_ordered .nil d.pairs

theorem lookup_entries (d : Dict α) (key : String) : d.entries.lookup key = d.get? key := by
  rw [entries, Ordered.collect, Ordered.lookup_foldl_insert, List.lookup_nil, Option.or_none]
  exact lookup_eq_of_perm d.distinct (List.reverse_perm d.pairs) key

theorem mem_entries_iff : (key, value) ∈ d.entries ↔ d.get? key = some value := by
  rw [mem_iff_lookup d.entries_ordered.nodup_keys, lookup_entries]

theorem entries_perm (d : Dict α) : d.entries.Perm d.pairs :=
  perm_of_mem_iff d.entries_ordered.nodup_keys d.distinct fun _ =>
    mem_entries_iff.trans mem_pairs_iff.symm

theorem length_entries (d : Dict α) : d.entries.length = d.size := d.entries_perm.length_eq

/-- The dictionaries are one map, whatever order their pairs are listed in. -/
def Same (d d' : Dict α) : Prop := ∀ key, d.get? key = d'.get? key

theorem same_iff_perm : d.Same d' ↔ d.pairs.Perm d'.pairs := by
  constructor
  · intro same
    refine perm_of_mem_iff d.distinct d'.distinct fun ⟨key, value⟩ => ?_
    rw [mem_pairs_iff, mem_pairs_iff, same key]
  · exact lookup_eq_of_perm d'.distinct

/-- The pairs of a map may be set in any order. -/
theorem get?_insertAll_of_perm {entries : List (String × α)} (perm : entries.Perm other.pairs)
    (d : Dict α) (key : String) :
    (d.insertAll entries).get? key = (other.get? key).or (d.get? key) := by
  rw [get?_insertAll, lookup_eq_of_perm other.distinct ((List.reverse_perm entries).trans perm)]
  rfl

theorem get?_merge (d other : Dict α) (key : String) :
    (d.merge other).get? key = (other.get? key).or (d.get? key) :=
  get?_insertAll_of_perm (.refl _) d key

/-- Where each key has one entry, every entry counts. -/
theorem get?_ofList_of_nodup {entries : List (String × α)} (once : (entries.map Prod.fst).Nodup) :
    (ofList entries).get? key = some value ↔ (key, value) ∈ entries := by
  rw [get?_ofList, lookup_eq_of_perm once (List.reverse_perm entries), mem_iff_lookup once]

end Dict

end Interception
