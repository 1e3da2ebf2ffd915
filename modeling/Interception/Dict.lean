/-!
# Dictionaries

A dictionary sends text keys to values. Its pairs stand in some order, each key once, and the order
is of no account: dictionaries that look up alike may list their pairs differently. Where an order
is needed, for a text or a list of names, the pairs are first put into the order of their keys.
Keys are compared character by character, which is also the order of their UTF-8 bytes.
-/

namespace Interception

namespace Ordered

variable {α : Type}

/-- Puts an entry in its place by the order of keys, instead of one with the same key. -/
def insert (key : String) (value : α) : List (String × α) → List (String × α)
  | [] => [(key, value)]
  | (k, v) :: entries =>
    if key < k then (key, value) :: (k, v) :: entries
    else if k < key then (k, v) :: insert key value entries
    else (key, value) :: entries

/-- Puts pairs in their places, one after the other. -/
def collect (pairs : List (String × α)) : List (String × α) :=
  pairs.foldl (fun entries pair => insert pair.1 pair.2 entries) []

end Ordered

/-- A finite map from text keys. -/
structure Dict (α : Type) where
  pairs : List (String × α)
  distinct : (pairs.map Prod.fst).Nodup

namespace Dict

variable {α : Type}

def empty : Dict α := ⟨[], List.nodup_nil⟩

instance : EmptyCollection (Dict α) := ⟨empty⟩

def get? (d : Dict α) (key : String) : Option α := d.pairs.lookup key

def contains (d : Dict α) (key : String) : Bool := (d.get? key).isSome

/-- Removes a key. -/
def erase (d : Dict α) (key : String) : Dict α :=
  ⟨d.pairs.filter fun pair => pair.1 != key, d.distinct.sublist (List.filter_sublist.map _)⟩

theorem key_notMem_erase (d : Dict α) (key : String) : key ∉ (d.erase key).pairs.map Prod.fst := by
  intro mem
  obtain ⟨pair, left, rfl⟩ := List.mem_map.mp mem
  simpa using (List.mem_filter.mp left).2

/-- Sets the value of a key. -/
def insert (d : Dict α) (key : String) (value : α) : Dict α :=
  ⟨(key, value) :: (d.erase key).pairs,
    List.nodup_cons.mpr ⟨d.key_notMem_erase key, (d.erase key).distinct⟩⟩

/-- Takes a key out: its value, if it has one, and what is left. -/
def remove (d : Dict α) (key : String) : Option α × Dict α := (d.get? key, d.erase key)

/-- Sets the values of many keys one after the other. -/
def insertAll (d : Dict α) (entries : List (String × α)) : Dict α :=
  entries.foldl (fun d e => d.insert e.1 e.2) d

/-- The dictionary of a list of entries; of several for one key the last one counts. -/
def ofList (entries : List (String × α)) : Dict α := empty.insertAll entries

/-- The pairs of both; where both have a key, that of the second. -/
def merge (d other : Dict α) : Dict α := d.insertAll other.pairs

def size (d : Dict α) : Nat := d.pairs.length

def isEmpty (d : Dict α) : Bool := d.pairs.isEmpty

/-- The pairs in the order of their keys. -/
def entries (d : Dict α) : List (String × α) := Ordered.collect d.pairs

/-- The keys in order. -/
def keys (d : Dict α) : List String := d.entries.map (·.1)

@[simp] theorem get?_empty (key : String) : (empty : Dict α).get? key = none := rfl

theorem get?_erase (d : Dict α) (key name : String) :
    (d.erase key).get? name = if name = key then none else d.get? name := by
  obtain ⟨pairs, distinct⟩ := d
  simp only [get?, erase]
  clear distinct
  induction pairs with
  | nil => simp
  | cons pair pairs ih =>
    obtain ⟨k, v⟩ := pair
    by_cases hk : k = key
    · rw [List.filter_cons_of_neg (by simpa using hk), ih]
      split
      · rfl
      · rename_i hn
        rw [List.lookup_cons, beq_false_of_ne fun h => hn (h.trans hk)]
    · rw [List.filter_cons_of_pos (by simpa using hk), List.lookup_cons, List.lookup_cons, ih]
      by_cases hn : name = k
      · simp [hn, hk]
      · simp [beq_false_of_ne hn]

theorem get?_insert (d : Dict α) (key : String) (value : α) (name : String) :
    (d.insert key value).get? name = if name = key then some value else d.get? name := by
  have rest := d.get?_erase key name
  simp only [get?, insert, List.lookup_cons] at rest ⊢
  by_cases hn : name = key
  · simp [hn]
  · simp [hn, beq_false_of_ne hn, rest]

/-- Of several values that are set for one key, the last one counts. -/
theorem get?_insertAll (d : Dict α) (entries : List (String × α)) (key : String) :
    (d.insertAll entries).get? key = (entries.reverse.lookup key).or (d.get? key) := by
  induction entries generalizing d with
  | nil => rfl
  | cons entry entries ih =>
    obtain ⟨k, v⟩ := entry
    have later : d.insertAll ((k, v) :: entries) = (d.insert k v).insertAll entries := rfl
    rw [later, ih, get?_insert, List.reverse_cons, List.lookup_append]
    cases entries.reverse.lookup key with
    | some value => rfl
    | none =>
      by_cases hk : key = k
      · simp [hk]
      · simp [List.lookup_cons, hk, beq_false_of_ne hk]

theorem get?_ofList (entries : List (String × α)) (key : String) :
    (ofList entries).get? key = entries.reverse.lookup key := by
  rw [ofList, get?_insertAll, get?_empty, Option.or_none]

/-- A key has the value of the last entry for it. -/
theorem get?_ofList_eq_some_iff {entries : List (String × α)} {key : String} {value : α} :
    (ofList entries).get? key = some value ↔
      ∃ earlier later, entries = earlier ++ (key, value) :: later ∧ ∀ e ∈ later, e.1 ≠ key := by
  rw [get?_ofList, List.lookup_eq_some_iff]
  constructor
  · rintro ⟨later, earlier, split, others⟩
    refine ⟨earlier.reverse, later.reverse, ?_, ?_⟩
    · rw [List.reverse_eq_iff] at split
      simpa using split
    · intro e he
      exact (bne_iff_ne.1 (others e (List.mem_reverse.1 he))).symm
  · rintro ⟨earlier, later, rfl, others⟩
    refine ⟨later.reverse, earlier.reverse, by simp, ?_⟩
    intro e he
    exact bne_iff_ne.2 (others e (List.mem_reverse.1 he)).symm

end Dict

end Interception
