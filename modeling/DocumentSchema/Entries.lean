/-!
# Entries in order

Values under distinct keys, in the order in which the keys first came up. Members of an object,
parameters, contexts, the fields of a schema, the schemas of a registry and the nodes of a file
system are kept this way: a new key goes to the end, and a key that is there already keeps its place
and gets the new value.
-/

namespace DocumentSchema

/-- Values under keys, in order. -/
abbrev Entries (κ α : Type) := List (κ × α)

namespace Entries

variable {κ α : Type} [DecidableEq κ]

/-- A key's value is replaced where the key stands; a new key goes to the end. -/
def insert : Entries κ α → κ → α → Entries κ α
  | [], key, value => [(key, value)]
  | (k, v) :: rest, key, value =>
    if k = key then (k, value) :: rest else (k, v) :: insert rest key value

/-- Every entry of the second is put into the first. -/
def update (entries extra : Entries κ α) : Entries κ α :=
  extra.foldl (fun all (key, value) ↦ insert all key value) entries

/-- Entries in the order given, a repeated key at its first place with its last value. -/
def ofList (entries : List (κ × α)) : Entries κ α := update [] entries

/-- The value of a key. -/
def get? (entries : Entries κ α) (key : κ) : Option α := entries.lookup key

/-- The keys in order. -/
def keys (entries : Entries κ α) : List κ := entries.map (·.1)

/-- The key is present. -/
def contains (entries : Entries κ α) (key : κ) : Bool := entries.any (·.1 = key)

@[simp] theorem insert_nil (key : κ) (value : α) : insert [] key value = [(key, value)] := rfl

@[simp] theorem get?_nil (key : κ) : get? ([] : Entries κ α) key = none := rfl

omit [DecidableEq κ] in
@[simp] theorem keys_nil : keys ([] : Entries κ α) = [] := rfl

omit [DecidableEq κ] in
@[simp] theorem keys_cons (entry : κ × α) (entries : Entries κ α) :
    keys (entry :: entries) = entry.1 :: keys entries := rfl

theorem get?_cons (entry : κ × α) (entries : Entries κ α) (key : κ) :
    get? (entry :: entries) key = if key = entry.1 then some entry.2 else get? entries key := by
  obtain ⟨k, v⟩ := entry
  by_cases h : key = k
  · simp [get?, h]
  · rw [if_neg h, get?, List.lookup_cons, beq_false_of_ne h, get?]

theorem get?_insert (entries : Entries κ α) (key other : κ) (value : α) :
    get? (insert entries key value) other
      = if other = key then some value else get? entries other := by
  induction entries with
  | nil => rw [insert, get?_cons]
  | cons entry rest ih =>
    obtain ⟨k, v⟩ := entry
    rw [insert]
    split
    · rename_i hk
      subst hk
      simp only [get?_cons]
      split <;> rfl
    · rename_i hk
      simp only [get?_cons, ih]
      split
      · rename_i h
        rw [if_neg fun h' ↦ hk (h.symm.trans h')]
      · rfl

theorem keys_insert (entries : Entries κ α) (key : κ) (value : α) :
    keys (insert entries key value)
      = if key ∈ keys entries then keys entries else keys entries ++ [key] := by
  induction entries with
  | nil => simp
  | cons entry rest ih =>
    by_cases h : entry.1 = key
    · simp [insert, h]
    · simp only [insert, h, if_false, keys_cons, ih, List.mem_cons, Ne.symm h, false_or]
      split <;> simp

/-- A new key goes to the end. -/
theorem insert_of_notMem {entries : Entries κ α} {key : κ} (h : key ∉ keys entries) (value : α) :
    insert entries key value = entries ++ [(key, value)] := by
  induction entries with
  | nil => rfl
  | cons entry rest ih =>
    rw [keys_cons, List.mem_cons, not_or] at h
    rw [insert, if_neg (Ne.symm h.1), ih h.2, List.cons_append]

theorem get?_eq_none_iff {entries : Entries κ α} {key : κ} :
    get? entries key = none ↔ key ∉ keys entries := by
  induction entries with
  | nil => simp
  | cons entry rest ih =>
    rw [get?_cons, keys_cons, List.mem_cons, not_or]
    split
    · rename_i h
      simp [h]
    · rename_i h
      simp [h, ih]

theorem mem_of_get?_eq_some {entries : Entries κ α} {key : κ} {value : α}
    (h : get? entries key = some value) : (key, value) ∈ entries := by
  obtain ⟨before, after, rfl, -⟩ := List.lookup_eq_some_iff.mp h
  simp

/-- Where no key is repeated, an entry is what its key looks up. -/
theorem mem_iff_get?_eq_some {entries : Entries κ α} (h : (keys entries).Nodup) {key : κ}
    {value : α} : (key, value) ∈ entries ↔ get? entries key = some value := by
  induction entries with
  | nil => simp
  | cons entry rest ih =>
    obtain ⟨first, other⟩ := entry
    rw [keys_cons, List.nodup_cons] at h
    rw [get?_cons, List.mem_cons, ih h.2, Prod.mk.injEq]
    by_cases hkey : key = first
    · subst hkey
      have hrest : get? rest key = none := get?_eq_none_iff.mpr h.1
      simp [hrest, eq_comm]
    · simp [hkey]

theorem contains_iff {entries : Entries κ α} {key : κ} :
    contains entries key = true ↔ key ∈ keys entries := by
  simp [contains, keys]

theorem nodup_keys_insert {entries : Entries κ α} (h : (keys entries).Nodup) (key : κ)
    (value : α) : (keys (insert entries key value)).Nodup := by
  rw [keys_insert]
  split
  · exact h
  · rename_i hkey
    rw [List.nodup_append]
    refine ⟨h, by simp, ?_⟩
    rintro a ha b hb rfl
    exact hkey (by simpa [List.mem_singleton.1 hb] using ha)

/-! ### Putting entries into others -/

@[simp] theorem update_nil (entries : Entries κ α) : update entries [] = entries := rfl

theorem update_cons (entries : Entries κ α) (entry : κ × α) (extra : Entries κ α) :
    update entries (entry :: extra) = update (insert entries entry.1 entry.2) extra := rfl

theorem mem_keys_insert {entries : Entries κ α} {key other : κ} {value : α} :
    other ∈ keys (insert entries key value) ↔ other = key ∨ other ∈ keys entries := by
  rw [keys_insert]
  split
  · rename_i hkey
    refine ⟨Or.inr, ?_⟩
    rintro (rfl | hother)
    · exact hkey
    · exact hother
  · rw [List.mem_append, List.mem_singleton, or_comm]

/-- Of two values that are put under a key the later stays. -/
@[simp] theorem insert_insert_self (entries : Entries κ α) (key : κ) (first second : α) :
    insert (insert entries key first) key second = insert entries key second := by
  induction entries with
  | nil => simp [insert]
  | cons entry rest ih =>
    by_cases hkey : entry.1 = key
    · simp [insert, hkey]
    · simp [insert, hkey, ih]

/-- A key that is present keeps its place, so a value can be put there before or after another key
is put in. -/
theorem insert_insert_comm {entries : Entries κ α} {key other : κ} (hkey : key ∈ keys entries)
    (hne : key ≠ other) (value otherValue : α) :
    insert (insert entries other otherValue) key value
      = insert (insert entries key value) other otherValue := by
  induction entries with
  | nil => cases hkey
  | cons entry rest ih =>
    by_cases hfirst : entry.1 = key
    · simp [insert, hfirst, hne]
    · rw [keys_cons, List.mem_cons] at hkey
      have hrest := hkey.resolve_left (Ne.symm hfirst)
      by_cases hother : entry.1 = other
      · simp [insert, hother, Ne.symm hne]
      · simp [insert, hfirst, hother, ih hrest]

theorem insert_update {entries extra : Entries κ α} {key : κ} (hkey : key ∈ keys entries)
    (hextra : key ∉ keys extra) (value : α) :
    insert (update entries extra) key value = update (insert entries key value) extra := by
  induction extra generalizing entries with
  | nil => rfl
  | cons entry rest ih =>
    rw [keys_cons, List.mem_cons, not_or] at hextra
    rw [update_cons, update_cons, ih (mem_keys_insert.mpr (Or.inr hkey)) hextra.2,
      insert_insert_comm hkey hextra.1]

theorem update_insert {extra : Entries κ α} (h : (keys extra).Nodup) (entries : Entries κ α)
    (key : κ) (value : α) :
    update entries (insert extra key value) = insert (update entries extra) key value := by
  induction extra generalizing entries with
  | nil => rfl
  | cons entry rest ih =>
    obtain ⟨first, old⟩ := entry
    rw [keys_cons, List.nodup_cons] at h
    rw [insert]
    split
    · rename_i hfirst
      subst hfirst
      rw [update_cons, update_cons, insert_update (mem_keys_insert.mpr (Or.inl rfl)) h.1,
        insert_insert_self]
    · rw [update_cons, update_cons, ih h.2]

/-- **Entries can be put in one after the other, or together.** -/
theorem update_update {first : Entries κ α} (h : (keys first).Nodup)
    (entries second : Entries κ α) :
    update (update entries first) second = update entries (update first second) := by
  induction second generalizing first with
  | nil => rfl
  | cons entry rest ih =>
    rw [update_cons, update_cons, ← ih (nodup_keys_insert h _ _), update_insert h]

/-- Entries are chosen by their keys before or after another is put in. -/
theorem filter_insert (choose : κ → Bool) (entries : Entries κ α) (key : κ) (value : α) :
    (insert entries key value).filter (choose ·.1)
      = if choose key then insert (entries.filter (choose ·.1)) key value
        else entries.filter (choose ·.1) := by
  induction entries with
  | nil => simp [List.filter_cons]
  | cons entry rest ih =>
    rw [insert]
    by_cases hfirst : entry.1 = key
    · cases hchoose : choose key <;> simp [insert, hfirst, hchoose]
    · cases hchoose : choose entry.1 <;> cases hkey : choose key <;>
        simp [insert, hfirst, hchoose, hkey, ih]

theorem filter_update (choose : κ → Bool) (entries extra : Entries κ α) :
    (update entries extra).filter (choose ·.1)
      = update (entries.filter (choose ·.1)) (extra.filter (choose ·.1)) := by
  induction extra generalizing entries with
  | nil => rfl
  | cons entry rest ih =>
    rw [update_cons, ih, filter_insert, List.filter_cons]
    split
    · rw [update_cons]
    · rfl

end Entries

end DocumentSchema
