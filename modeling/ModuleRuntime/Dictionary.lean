import ModuleRuntime.Number.Instances

/-!
# Dictionaries

A dictionary is a finite map whose entries stand in the order in which their keys were first put.
Putting a key again replaces its value where it stands. No key stands twice, so look-up and the list
of entries say the same.
-/

set_option autoImplicit false

namespace ModuleRuntime

/-- A finite map with its entries in insertion order. -/
structure Dictionary (α β : Type) where
  entries : List (α × β)
  nodup_keys : (entries.map Prod.fst).Nodup

namespace Dictionary

variable {α β γ : Type}

/-- The dictionary without entries. -/
def empty : Dictionary α β :=
  ⟨[], by simp⟩

instance : Inhabited (Dictionary α β) :=
  ⟨empty⟩

/-- A dictionary is its entries. -/
@[ext]
theorem ext {d e : Dictionary α β} (h : d.entries = e.entries) : d = e := by
  cases d; cases e; simp_all

/-- The keys in insertion order. -/
def keys (d : Dictionary α β) : List α :=
  d.entries.map Prod.fst

/-- The values in the order of their keys. -/
def values (d : Dictionary α β) : List β :=
  d.entries.map Prod.snd

/-- The number of entries. -/
def size (d : Dictionary α β) : Nat :=
  d.entries.length

/-- The dictionary with every value changed by a function of its key and itself. -/
def mapValues (f : α → β → γ) (d : Dictionary α β) : Dictionary α γ where
  entries := d.entries.map fun (k, v) => (k, f k v)
  nodup_keys := by simpa [List.map_map, Function.comp_def] using d.nodup_keys

/-- The entries that satisfy a condition. -/
def filter (p : α → β → Bool) (d : Dictionary α β) : Dictionary α β where
  entries := d.entries.filter fun (k, v) => p k v
  nodup_keys := d.nodup_keys.sublist (List.filter_sublist.map _)

variable [DecidableEq α]

/-- The value of a key in a list of entries. -/
def lookup (k : α) : List (α × β) → Option β
  | [] => none
  | (k', v) :: rest => if k' = k then some v else lookup k rest

/-- The value of a key. -/
def find? (d : Dictionary α β) (k : α) : Option β :=
  lookup k d.entries

/-- Whether a key has a value. -/
def contains (d : Dictionary α β) (k : α) : Bool :=
  (d.find? k).isSome

/-- The entries after putting a value: in the place of the old one, else at the end. -/
def putEntry (k : α) (v : β) : List (α × β) → List (α × β)
  | [] => [(k, v)]
  | (k', v') :: rest => if k' = k then (k, v) :: rest else (k', v') :: putEntry k v rest

/-- The keys after a value was put under a key. -/
theorem keys_putEntry (k : α) (v : β) (l : List (α × β)) :
    (putEntry k v l).map Prod.fst
      = if k ∈ l.map Prod.fst then l.map Prod.fst else l.map Prod.fst ++ [k] := by
  induction l with
  | nil => simp [putEntry]
  | cons e rest ih =>
    obtain ⟨k', v'⟩ := e
    by_cases h : k' = k
    · simp [putEntry, h]
    · have h' : ¬k = k' := fun e => h e.symm
      rw [putEntry, if_neg h, List.map_cons, ih]
      by_cases hm : k ∈ rest.map Prod.fst
      · simp [hm]
      · simp only [hm, if_false, List.map_cons, List.mem_cons, h', or_self, List.cons_append]

/-- The dictionary with a value for a key. -/
def put (d : Dictionary α β) (k : α) (v : β) : Dictionary α β where
  entries := putEntry k v d.entries
  nodup_keys := by
    rw [keys_putEntry]
    split
    · exact d.nodup_keys
    · next h =>
      refine List.nodup_append.mpr ⟨d.nodup_keys, by simp, ?_⟩
      intro a ha b hb hab
      simp only [List.mem_singleton] at hb
      exact h (hb ▸ hab ▸ ha)

/-- The dictionary without a key. -/
def erase (d : Dictionary α β) (k : α) : Dictionary α β :=
  d.filter fun k' _ => k' ≠ k

/-- The dictionary of a list of entries; of several with one key the last one counts. -/
def ofList (entries : List (α × β)) : Dictionary α β :=
  entries.foldl (fun d (k, v) => d.put k v) empty

instance [DecidableEq β] : DecidableEq (Dictionary α β) := fun d e =>
  decidable_of_iff (d.entries = e.entries) ⟨ext, fun h => h ▸ rfl⟩

/-! ## Look-up after each operation -/

/-- Nothing is found in an empty dictionary. -/
@[simp]
theorem find?_empty (k : α) : (empty : Dictionary α β).find? k = none := rfl

/-- What is found after a value was put under a key. -/
theorem lookup_putEntry (k k' : α) (v : β) (l : List (α × β)) :
    lookup k' (putEntry k v l) = if k = k' then some v else lookup k' l := by
  induction l with
  | nil => simp [putEntry, lookup]
  | cons e rest ih =>
    obtain ⟨a, b⟩ := e
    by_cases h : a = k
    · by_cases h' : k = k' <;> simp [putEntry, lookup, h, h']
    · by_cases h' : k = k'
      · subst h'; simp [putEntry, lookup, h, ih]
      · simp [putEntry, lookup, h, ih, h']

/-- What is found after a value was put under a key. -/
@[simp]
theorem find?_put (d : Dictionary α β) (k k' : α) (v : β) :
    (d.put k v).find? k' = if k = k' then some v else d.find? k' :=
  lookup_putEntry k k' v d.entries

/-- What is found after the entries of a key were dropped. -/
theorem lookup_filter_ne (k k' : α) (l : List (α × β)) :
    lookup k' (l.filter fun e => decide (e.1 ≠ k)) = if k = k' then none else lookup k' l := by
  induction l with
  | nil => simp [lookup]
  | cons e rest ih =>
    obtain ⟨a, b⟩ := e
    by_cases h : a = k
    · by_cases h' : k = k'
      · subst h'; subst h; simpa [lookup] using ih
      · have : ¬a = k' := fun e => h' (h ▸ e)
        simpa [lookup, h, h', this] using ih
    · by_cases h' : k = k'
      · subst h'; simpa [lookup, h] using ih
      · rw [List.filter_cons_of_pos (by simp [h]), lookup, lookup, ih]
        simp only [if_neg h']

/-- What is found after a key was erased. -/
@[simp]
theorem find?_erase (d : Dictionary α β) (k k' : α) :
    (d.erase k).find? k' = if k = k' then none else d.find? k' :=
  lookup_filter_ne k k' d.entries

/-! ## The keys after each operation -/

/-- Nothing is found under a key that is not there. -/
theorem lookup_eq_none_iff (k : α) (l : List (α × β)) :
    lookup k l = none ↔ k ∉ l.map Prod.fst := by
  induction l with
  | nil => simp [lookup]
  | cons e rest ih =>
    obtain ⟨a, b⟩ := e
    by_cases h : a = k
    · simp [lookup, h]
    · have h' : ¬k = a := fun e => h e.symm
      rw [lookup, if_neg h, ih]
      simp [h']

/-- A dictionary contains its keys. -/
theorem contains_iff (d : Dictionary α β) (k : α) : d.contains k = true ↔ k ∈ d.keys := by
  rw [contains, Option.isSome_iff_ne_none, ne_eq]
  show ¬lookup k d.entries = none ↔ _
  rw [lookup_eq_none_iff, Decidable.not_not, keys]

/-- Putting a value adds its key at the end, unless the key is there. -/
theorem keys_put (d : Dictionary α β) (k : α) (v : β) :
    (d.put k v).keys = if k ∈ d.keys then d.keys else d.keys ++ [k] :=
  keys_putEntry k v d.entries

/-- The keys that are left stand in their order. -/
theorem keys_erase (d : Dictionary α β) (k : α) :
    (d.erase k).keys = d.keys.filter fun k' => k' ≠ k := by
  show (d.entries.filter fun e => decide (e.1 ≠ k)).map Prod.fst
    = (d.entries.map Prod.fst).filter fun k' => k' ≠ k
  rw [List.filter_map]
  rfl

/-- The entries are the keys with their values. -/
theorem mem_entries_iff (d : Dictionary α β) (k : α) (v : β) :
    (k, v) ∈ d.entries ↔ d.find? k = some v := by
  obtain ⟨l, hn⟩ := d
  show (k, v) ∈ l ↔ lookup k l = some v
  induction l with
  | nil => simp [lookup]
  | cons e rest ih =>
    obtain ⟨a, b⟩ := e
    rw [List.map_cons, List.nodup_cons] at hn
    by_cases h : a = k
    · subst h
      rw [lookup, if_pos rfl, List.mem_cons, Option.some.injEq, Prod.mk.injEq]
      refine ⟨fun hm => ?_, fun hv => .inl ⟨rfl, hv.symm⟩⟩
      rcases hm with ⟨_, hv⟩ | hm
      · exact hv.symm
      · exact absurd (List.mem_map_of_mem hm) hn.1
    · rw [lookup, if_neg h, ← ih hn.2, List.mem_cons, Prod.mk.injEq]
      exact ⟨fun hm => hm.resolve_left fun hk => h hk.1.symm, .inr⟩

/-! ## Putting a new key and erasing an old one -/

/-- A value under a new key goes to the end. -/
theorem putEntry_of_not_mem {k : α} {l : List (α × β)} (h : k ∉ l.map Prod.fst) (v : β) :
    putEntry k v l = l ++ [(k, v)] := by
  induction l with
  | nil => rfl
  | cons e rest ih =>
    obtain ⟨a, b⟩ := e
    rw [List.map_cons, List.mem_cons, not_or] at h
    rw [putEntry, if_neg (fun e => h.1 e.symm), ih h.2, List.cons_append]

/-- A new key stands at the end. -/
theorem entries_put_of_not_mem {d : Dictionary α β} {k : α} (h : k ∉ d.keys) (v : β) :
    (d.put k v).entries = d.entries ++ [(k, v)] :=
  putEntry_of_not_mem h v

/-- Erasing a key that is not there changes nothing. -/
theorem erase_of_not_mem {d : Dictionary α β} {k : α} (h : k ∉ d.keys) : d.erase k = d := by
  refine ext (List.filter_eq_self.mpr fun e he => ?_)
  have hne : e.1 ≠ k := fun hk => h (hk ▸ List.mem_map_of_mem he)
  simp [hne]

/-- Erasing a key that was new gives the dictionary back. -/
theorem erase_put_of_not_mem {d : Dictionary α β} {k : α} (h : k ∉ d.keys) (v : β) :
    (d.put k v).erase k = d := by
  refine ext ?_
  calc ((d.put k v).erase k).entries
      = (d.entries ++ [(k, v)]).filter fun e => decide (e.1 ≠ k) := by
        rw [← entries_put_of_not_mem h v]; rfl
    _ = (d.erase k).entries := by rw [List.filter_append]; simp [erase, filter]
    _ = d.entries := by rw [erase_of_not_mem h]

/-- New entries with distinct keys stand behind the others, in their order. -/
theorem entries_foldl_put {d : Dictionary α β} {l : List (α × β)}
    (hnew : ∀ k ∈ l.map Prod.fst, k ∉ d.keys) (hnodup : (l.map Prod.fst).Nodup) :
    (l.foldl (fun d (k, v) => d.put k v) d).entries = d.entries ++ l := by
  induction l generalizing d with
  | nil => exact (List.append_nil _).symm
  | cons e rest ih =>
    obtain ⟨k, v⟩ := e
    obtain ⟨hother, hrest⟩ := List.nodup_cons.mp hnodup
    have hk : k ∉ d.keys := hnew k List.mem_cons_self
    rw [List.foldl_cons, ih (fun k' hk' => ?_) hrest, entries_put_of_not_mem hk,
      List.append_assoc, List.singleton_append]
    rw [keys_put, if_neg hk, List.mem_append, List.mem_singleton, not_or]
    exact ⟨hnew k' (List.mem_cons_of_mem _ hk'), fun heq => hother (heq ▸ hk')⟩

/-- The dictionary of entries with distinct keys has just these entries. -/
theorem entries_ofList {l : List (α × β)} (h : (l.map Prod.fst).Nodup) : (ofList l).entries = l :=
  entries_foldl_put (fun _ _ => List.not_mem_nil) h

/-- The value of a key is left if it satisfies the condition. -/
theorem find?_filter (p : α → β → Bool) (d : Dictionary α β) (k : α) :
    (d.filter p).find? k = (d.find? k).filter (p k) := by
  refine Option.ext fun v => ?_
  rw [← mem_entries_iff, Option.filter_eq_some_iff, ← mem_entries_iff]
  exact List.mem_filter

/-- A value stands under some key. -/
theorem mem_values_iff (d : Dictionary α β) (v : β) :
    v ∈ d.values ↔ ∃ k, d.find? k = some v := by
  rw [values, List.mem_map]
  constructor
  · rintro ⟨⟨k, w⟩, hm, rfl⟩
    exact ⟨k, (mem_entries_iff d k w).mp hm⟩
  · rintro ⟨k, hk⟩
    exact ⟨(k, v), (mem_entries_iff d k v).mpr hk, rfl⟩

/-- The value of a new key stands at the end. -/
theorem values_put_of_not_mem {d : Dictionary α β} {k : α} (h : k ∉ d.keys) (v : β) :
    (d.put k v).values = d.values ++ [v] := by
  rw [values, entries_put_of_not_mem h, List.map_append]
  rfl

/-- Putting a value adds one entry, unless the key is there. -/
theorem size_put (d : Dictionary α β) (k : α) (v : β) :
    (d.put k v).size = if d.contains k then d.size else d.size + 1 := by
  have hsize (e : Dictionary α β) : e.size = e.keys.length := (List.length_map ..).symm
  rw [hsize, hsize, keys_put]
  by_cases h : k ∈ d.keys
  · rw [if_pos h, if_pos ((contains_iff d k).mpr h)]
  · rw [if_neg h, if_neg fun hc => h ((contains_iff d k).mp hc), List.length_append]
    rfl

/-- When a value is put, a sum over the values changes by that value and the old one. -/
theorem sum_values_put (f : β → Nat) (d : Dictionary α β) (k : α) (v : β) :
    ((d.put k v).values.map f).sum + ((d.find? k).map f).getD 0 = (d.values.map f).sum + f v := by
  show (((putEntry k v d.entries).map Prod.snd).map f).sum + ((lookup k d.entries).map f).getD 0 =
    ((d.entries.map Prod.snd).map f).sum + f v
  induction d.entries with
  | nil => simp [putEntry, lookup]
  | cons e rest ih =>
    obtain ⟨a, b⟩ := e
    by_cases h : a = k
    · simp only [putEntry, lookup, h, if_true, List.map_cons, List.sum_cons, Option.map_some,
        Option.getD_some]
      omega
    · simp only [putEntry, lookup, h, if_false, List.map_cons, List.sum_cons]
      omega

/-- Entries with distinct keys are determined by their keys and what is looked up. -/
theorem eq_of_lookup {l l' : List (α × β)} (hkeys : l'.map Prod.fst = l.map Prod.fst)
    (hnodup : (l.map Prod.fst).Nodup) (hlookup : ∀ k, lookup k l' = lookup k l) : l' = l := by
  induction l generalizing l' with
  | nil => exact List.map_eq_nil_iff.mp hkeys
  | cons e rest ih =>
    obtain ⟨k, v⟩ := e
    obtain ⟨⟨k', v'⟩, rest', rfl, rfl, hrest⟩ := List.map_eq_cons_iff.mp hkeys
    obtain ⟨hnew, hnodup⟩ := List.nodup_cons.mp hnodup
    have hvalue : v' = v := by
      have hfirst := hlookup k'
      rw [lookup, lookup, if_pos rfl, if_pos rfl] at hfirst
      exact Option.some.inj hfirst
    have hothers : rest' = rest := by
      refine ih hrest hnodup fun key => ?_
      by_cases hkey : k' = key
      · subst hkey
        have hnone := (lookup_eq_none_iff k' rest).mpr hnew
        have hnone' := (lookup_eq_none_iff k' rest').mpr (hrest ▸ hnew)
        rw [hnone, hnone']
      · have hlater := hlookup key
        rw [lookup, lookup, if_neg hkey, if_neg hkey] at hlater
        exact hlater
    rw [hvalue, hothers]

/-- A dictionary is determined by its keys and what is looked up. -/
theorem eq_of_find? {d e : Dictionary α β} (hkeys : e.keys = d.keys)
    (hfind : ∀ k, e.find? k = d.find? k) : e = d :=
  ext (eq_of_lookup hkeys d.nodup_keys hfind)

omit [DecidableEq α] in
/-- A condition on the values alone leaves those that satisfy it. -/
theorem values_filter (p : β → Bool) (d : Dictionary α β) :
    (d.filter fun _ v => p v).values = d.values.filter p :=
  List.filter_map.symm

end Dictionary

end ModuleRuntime
