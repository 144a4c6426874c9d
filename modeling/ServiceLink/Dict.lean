/-! Finite maps with text keys. The entries are held in strictly increasing key order, so two maps with
the same entries are equal and every listing of a map is in key order. The operations on bare entry
lists come first, because JSON objects use them too. -/

namespace ServiceLink

namespace Entries

variable {α β : Type}

/-- The first entry with the key is the one that counts. -/
def find? (key : String) : List (String × α) → Option α
  | [] => none
  | (k, a) :: rest => if k = key then some a else find? key rest

/-- Put an entry at its place in key order, in place of one with the same key. -/
def insert (key : String) (a : α) : List (String × α) → List (String × α)
  | [] => [(key, a)]
  | (k, b) :: rest =>
    if key < k then (key, a) :: (k, b) :: rest
    else if key = k then (key, a) :: rest
    else (k, b) :: insert key a rest

/-- Entries in key order; of several with one key the last stays. -/
def ofList (entries : List (String × α)) : List (String × α) :=
  entries.foldl (fun sorted entry => insert entry.1 entry.2 sorted) []

def Ordered (entries : List (String × α)) : Prop :=
  entries.Pairwise (fun a b => a.1 < b.1)

theorem mem_insert {key : String} {a : α} {entries : List (String × α)} {e : String × α}
    (h : e ∈ insert key a entries) : e = (key, a) ∨ e ∈ entries := by
  induction entries with
  | nil => simpa [insert] using h
  | cons head rest ih =>
    simp only [insert] at h
    split at h
    · simpa using h
    · split at h
      · rcases List.mem_cons.1 h with h | h
        · exact .inl h
        · exact .inr (List.mem_cons_of_mem _ h)
      · rcases List.mem_cons.1 h with h | h
        · exact .inr (h ▸ List.mem_cons_self)
        · exact (ih h).imp_right (List.mem_cons_of_mem _)

theorem Ordered.insert {key : String} {a : α} {entries : List (String × α)}
    (h : Ordered entries) : Ordered (insert key a entries) := by
  induction entries with
  | nil => simp [Entries.insert, Ordered]
  | cons head rest ih =>
    obtain ⟨hhead, hrest⟩ := List.pairwise_cons.1 h
    simp only [Entries.insert]
    split
    · rename_i hlt
      refine List.pairwise_cons.2 ⟨fun e he => ?_, h⟩
      rcases List.mem_cons.1 he with rfl | he
      · exact hlt
      · exact String.lt_trans hlt (hhead e he)
    · split
      · rename_i heq
        exact List.pairwise_cons.2 ⟨fun e he => heq ▸ hhead e he, hrest⟩
      · rename_i hlt hne
        refine List.pairwise_cons.2 ⟨fun e he => ?_, ih hrest⟩
        rcases mem_insert he with rfl | he
        · exact Std.lt_of_le_of_ne (Std.not_lt.1 hlt) (fun h => hne h.symm)
        · exact hhead e he

theorem ordered_ofList (entries : List (String × α)) : Ordered (ofList entries) := by
  suffices ∀ sorted : List (String × α), Ordered sorted →
      Ordered (entries.foldl (fun sorted entry => Entries.insert entry.1 entry.2 sorted) sorted) from
    this [] .nil
  induction entries with
  | nil => exact fun _ h => h
  | cons head rest ih => exact fun sorted h => ih _ h.insert

theorem Ordered.map {entries : List (String × α)} {f : String × α → β}
    (h : Ordered entries) : Ordered (entries.map fun e => (e.1, f e)) :=
  List.pairwise_map.2 h

theorem find?_insert {key k : String} {a : α} {entries : List (String × α)} :
    find? k (insert key a entries) = if key = k then some a else find? k entries := by
  induction entries with
  | nil => simp [insert, find?]
  | cons head rest ih =>
    simp only [insert]
    split
    · simp [find?]
    · split
      · rename_i heq
        by_cases hk : key = k <;> simp [find?, ← heq, hk]
      · rename_i hne
        simp only [find?, ih]
        by_cases hh : head.1 = k
        · have : key ≠ k := fun h => hne (h.trans hh.symm)
          simp [hh, this]
        · simp [hh]

theorem find?_filter_ne {key k : String} {entries : List (String × α)} :
    find? k (entries.filter (·.1 ≠ key)) = if key = k then none else find? k entries := by
  induction entries with
  | nil => simp [find?]
  | cons head rest ih =>
    rw [List.filter_cons]
    by_cases hh : head.1 = key
    · have hk : (if key = k then none else find? k (head :: rest)) =
          if key = k then none else find? k rest := by
        by_cases hk : key = k <;> simp [find?, hh, hk]
      simpa [hh, hk] using ih
    · by_cases hk : head.1 = k
      · have : key ≠ k := fun h => hh (hk.trans h.symm)
        simp [find?, hk, this, this.symm]
      · simpa [find?, hh, hk] using ih

theorem find?_map {k : String} {f : String × α → β} {entries : List (String × α)} :
    find? k (entries.map fun e => (e.1, f e)) = (find? k entries).map fun a => f (k, a) := by
  induction entries with
  | nil => rfl
  | cons head rest ih =>
    by_cases hk : head.1 = k
    · subst hk
      simp [find?]
    · simp [find?, ih, hk]

/-- In key order no entry hides another. -/
theorem Ordered.find?_eq_some {entries : List (String × α)} (h : Ordered entries) {k : String} {a : α} :
    find? k entries = some a ↔ (k, a) ∈ entries := by
  induction entries with
  | nil => simp [find?]
  | cons head rest ih =>
    obtain ⟨hhead, hrest⟩ := List.pairwise_cons.1 h
    rw [List.mem_cons, ← ih hrest]
    by_cases hk : head.1 = k
    · have hnone : find? k rest ≠ some a := fun hfound =>
        String.lt_irrefl k (hk ▸ hhead (k, a) ((ih hrest).1 hfound))
      obtain ⟨k', b⟩ := head
      cases hk
      simp [find?, hnone, eq_comm]
    · have hne : (k, a) ≠ head := fun heq => hk (heq ▸ rfl)
      simp [find?, hk, hne]

end Entries

structure Dict (α : Type) where
  entries : List (String × α)
  ordered : Entries.Ordered entries

namespace Dict

variable {α β : Type}

instance [DecidableEq α] : DecidableEq (Dict α) := fun a b =>
  decidable_of_iff (a.entries = b.entries) (by cases a; cases b; simp)

def empty : Dict α := ⟨[], .nil⟩

instance : Inhabited (Dict α) := ⟨empty⟩

@[ext] theorem ext {a b : Dict α} (h : a.entries = b.entries) : a = b := by
  cases a; cases b; simp_all

def find? (d : Dict α) (key : String) : Option α := Entries.find? key d.entries

def contains (d : Dict α) (key : String) : Bool := (d.find? key).isSome

def insert (d : Dict α) (key : String) (a : α) : Dict α :=
  ⟨Entries.insert key a d.entries, d.ordered.insert⟩

/-- The map of these entries; of several with one key the last stays. -/
def ofList (entries : List (String × α)) : Dict α :=
  ⟨Entries.ofList entries, Entries.ordered_ofList entries⟩

def erase (d : Dict α) (key : String) : Dict α :=
  ⟨d.entries.filter (·.1 ≠ key), d.ordered.sublist List.filter_sublist⟩

/-- Change the value under one key; a map without the key stays as it is. -/
def modify (d : Dict α) (key : String) (f : α → α) : Dict α :=
  ⟨d.entries.map fun e => (e.1, if e.1 = key then f e.2 else e.2), d.ordered.map⟩

/-- Change every value. -/
def map (d : Dict α) (f : α → β) : Dict β :=
  ⟨d.entries.map fun e => (e.1, f e.2), d.ordered.map⟩

def keys (d : Dict α) : List String := d.entries.map (·.1)

def values (d : Dict α) : List α := d.entries.map (·.2)

/-! ### Looking up -/

@[simp] theorem find?_empty {k : String} : (empty : Dict α).find? k = none := rfl

theorem find?_insert {d : Dict α} {key k : String} {a : α} :
    (d.insert key a).find? k = if key = k then some a else d.find? k := Entries.find?_insert

theorem find?_erase {d : Dict α} {key k : String} :
    (d.erase key).find? k = if key = k then none else d.find? k := Entries.find?_filter_ne

theorem find?_modify {d : Dict α} {key k : String} {f : α → α} :
    (d.modify key f).find? k = (d.find? k).map fun a => if k = key then f a else a :=
  Entries.find?_map

theorem find?_map {d : Dict α} {k : String} {f : α → β} : (d.map f).find? k = (d.find? k).map f :=
  Entries.find?_map

theorem find?_eq_some_iff {d : Dict α} {k : String} {a : α} :
    d.find? k = some a ↔ (k, a) ∈ d.entries := d.ordered.find?_eq_some

theorem mem_values {d : Dict α} {a : α} : a ∈ d.values ↔ ∃ k, d.find? k = some a := by
  simp [values, find?_eq_some_iff]

@[simp] theorem keys_modify {d : Dict α} {key : String} {f : α → α} :
    (d.modify key f).keys = d.keys := by
  simp [keys, modify, Function.comp_def]

end Dict
end ServiceLink
