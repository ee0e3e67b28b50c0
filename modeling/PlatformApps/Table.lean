/-
# Tables sorted by key

Labels, annotations, secret data and the contents of the object store are finite maps
whose listing order is part of the behaviour: by key, each key once. The list-level
operations come first, since JSON objects use them too; `Table` adds the order as an
invariant. The main statements are the `find?` equations of each operation and
`Table.ext`: two tables with the same look-ups are equal.
-/

namespace PlatformApps

/-- A decidable strict linear order, used to keep entries sorted. -/
class Key (κ : Type) extends LT κ where
  decidableLt : DecidableLT κ
  decidableEq : DecidableEq κ
  irrefl : ∀ a : κ, ¬ a < a
  trans : ∀ {a b c : κ}, a < b → b < c → a < c
  connected : ∀ {a b : κ}, a ≠ b → a < b ∨ b < a

instance Key.instDecidableLT {κ : Type} [Key κ] : DecidableLT κ := Key.decidableLt
instance Key.instDecidableEq {κ : Type} [Key κ] : DecidableEq κ := Key.decidableEq

/-- Texts are ordered by code points. -/
instance : Key String where
  decidableLt := inferInstance
  decidableEq := inferInstance
  irrefl := String.lt_irrefl
  trans := String.lt_trans
  connected := fun {a b} different => by
    rcases Decidable.em (a < b) with less | notLess
    · exact Or.inl less
    · exact Or.inr (Decidable.byContradiction fun notGreater =>
        different (String.le_antisymm (String.not_lt.mp notGreater) (String.not_lt.mp notLess)))

/-- Pairs are ordered by their first part, then by their second. -/
instance {κ μ : Type} [Key κ] [Key μ] : Key (κ × μ) where
  lt a b := a.1 < b.1 ∨ a.1 = b.1 ∧ a.2 < b.2
  decidableLt := fun a b => inferInstanceAs (Decidable (a.1 < b.1 ∨ a.1 = b.1 ∧ a.2 < b.2))
  decidableEq := inferInstance
  irrefl := fun a less => less.elim (Key.irrefl a.1) fun both => Key.irrefl a.2 both.2
  trans := by
    rintro ⟨a, x⟩ ⟨b, y⟩ ⟨c, z⟩ (first | ⟨first, second⟩) (third | ⟨third, fourth⟩)
    · exact Or.inl (Key.trans first third)
    · exact Or.inl (third ▸ first)
    · exact Or.inl (first ▸ third)
    · exact Or.inr ⟨first.trans third, Key.trans second fourth⟩
  connected := by
    rintro ⟨a, x⟩ ⟨b, y⟩ different
    by_cases same : a = b
    · subst same
      have : x ≠ y := fun equal => different (by rw [equal])
      rcases Key.connected this with less | less
      · exact Or.inl (Or.inr ⟨rfl, less⟩)
      · exact Or.inr (Or.inr ⟨rfl, less⟩)
    · rcases Key.connected same with less | less
      · exact Or.inl (Or.inl less)
      · exact Or.inr (Or.inl less)

namespace Entries

variable {κ α : Type} [Key κ]

/-- Keys strictly increase along the list. -/
def Sorted (entries : List (κ × α)) : Prop :=
  entries.Pairwise fun earlier later => earlier.1 < later.1

/-- The value at a key. -/
def find? (key : κ) : List (κ × α) → Option α
  | [] => none
  | (other, value) :: rest => if key = other then some value else find? key rest

/-- Sets the value at a key, in key order. -/
def insert (key : κ) (value : α) : List (κ × α) → List (κ × α)
  | [] => [(key, value)]
  | (other, old) :: rest =>
    if key < other then (key, value) :: (other, old) :: rest
    else if key = other then (key, value) :: rest
    else (other, old) :: insert key value rest

/-- Removes a key. -/
def erase (key : κ) : List (κ × α) → List (κ × α)
  | [] => []
  | (other, value) :: rest =>
    if key = other then erase key rest else (other, value) :: erase key rest

theorem mem_insert {key : κ} {value : α} {entries : List (κ × α)} {entry : κ × α}
    (found : entry ∈ insert key value entries) : entry = (key, value) ∨ entry ∈ entries := by
  induction entries with
  | nil => simpa [insert] using found
  | cons head rest ih =>
    obtain ⟨other, old⟩ := head
    simp only [insert] at found
    split at found
    · simpa using found
    · split at found
      · rcases List.mem_cons.mp found with equal | inside
        · exact Or.inl equal
        · exact Or.inr (List.mem_cons_of_mem _ inside)
      · rcases List.mem_cons.mp found with equal | inside
        · exact Or.inr (equal ▸ List.mem_cons_self)
        · exact (ih inside).imp id (List.mem_cons_of_mem _)

theorem mem_of_mem_erase {key : κ} {entries : List (κ × α)} {entry : κ × α}
    (found : entry ∈ erase key entries) : entry ∈ entries := by
  induction entries with
  | nil => simp [erase] at found
  | cons head rest ih =>
    obtain ⟨other, old⟩ := head
    simp only [erase] at found
    split at found
    · exact List.mem_cons_of_mem _ (ih found)
    · rcases List.mem_cons.mp found with equal | inside
      · exact equal ▸ List.mem_cons_self
      · exact List.mem_cons_of_mem _ (ih inside)

theorem Sorted.insert {key : κ} {value : α} {entries : List (κ × α)}
    (sorted : Sorted entries) : Sorted (Entries.insert key value entries) := by
  induction entries with
  | nil => simp [Entries.insert, Sorted]
  | cons head rest ih =>
    obtain ⟨other, old⟩ := head
    have first := (List.pairwise_cons.mp sorted).1
    have tail := (List.pairwise_cons.mp sorted).2
    simp only [Entries.insert]
    split
    · rename_i less
      refine List.pairwise_cons.mpr ⟨?_, sorted⟩
      intro entry inside
      rcases List.mem_cons.mp inside with equal | inside
      · exact equal ▸ less
      · exact Key.trans less (first entry inside)
    · split
      · rename_i equal
        subst equal
        exact List.pairwise_cons.mpr ⟨first, tail⟩
      · rename_i notLess different
        refine List.pairwise_cons.mpr ⟨?_, ih tail⟩
        intro entry inside
        rcases mem_insert inside with equal | inside
        · subst equal
          exact (Key.connected different).resolve_left notLess
        · exact first entry inside

theorem Sorted.erase {key : κ} {entries : List (κ × α)} (sorted : Sorted entries) :
    Sorted (Entries.erase key entries) := by
  induction entries with
  | nil => simp [Entries.erase, Sorted]
  | cons head rest ih =>
    obtain ⟨other, old⟩ := head
    have first := (List.pairwise_cons.mp sorted).1
    have tail := (List.pairwise_cons.mp sorted).2
    simp only [Entries.erase]
    split
    · exact ih tail
    · exact List.pairwise_cons.mpr
        ⟨fun entry inside => first entry (mem_of_mem_erase inside), ih tail⟩

theorem find?_insert (key other : κ) (value : α) (entries : List (κ × α)) :
    find? other (insert key value entries) =
      if other = key then some value else find? other entries := by
  induction entries with
  | nil => simp [insert, find?]
  | cons head rest ih =>
    obtain ⟨front, old⟩ := head
    simp only [insert]
    split
    · by_cases equal : other = key <;> simp [find?, equal]
    · split
      · rename_i same
        subst same
        by_cases equal : other = key <;> simp [find?, equal]
      · rename_i different
        by_cases equal : other = front
        · subst equal
          simp [find?, Ne.symm different]
        · simp [find?, equal, ih]

theorem find?_erase (key other : κ) (entries : List (κ × α)) :
    find? other (erase key entries) = if other = key then none else find? other entries := by
  induction entries with
  | nil => simp [erase, find?]
  | cons head rest ih =>
    obtain ⟨front, old⟩ := head
    simp only [erase]
    split
    · rename_i same
      subst same
      rw [ih]
      by_cases equal : other = key <;> simp [find?, equal]
    · rename_i different
      by_cases equal : other = front
      · subst equal
        simp [find?, Ne.symm different]
      · simp [find?, equal, ih]

theorem mem_of_find? {key : κ} {value : α} {entries : List (κ × α)}
    (found : find? key entries = some value) : (key, value) ∈ entries := by
  induction entries with
  | nil => simp [find?] at found
  | cons head rest ih =>
    obtain ⟨other, old⟩ := head
    by_cases equal : key = other
    · simp [find?, equal] at found
      simp [equal, found]
    · simp [find?, equal] at found
      exact List.mem_cons_of_mem _ (ih found)

theorem find?_of_mem {key : κ} {value : α} {entries : List (κ × α)} (sorted : Sorted entries)
    (inside : (key, value) ∈ entries) : find? key entries = some value := by
  induction entries with
  | nil => simp at inside
  | cons head rest ih =>
    obtain ⟨other, old⟩ := head
    have first := (List.pairwise_cons.mp sorted).1
    rcases List.mem_cons.mp inside with equal | inside
    · simp only [Prod.mk.injEq] at equal
      simp [find?, equal]
    · have less := first _ inside
      have : key ≠ other := by
        intro equal
        subst equal
        exact Key.irrefl _ less
      simp [find?, this, ih (List.pairwise_cons.mp sorted).2 inside]

private theorem find?_eq_none_of_lt {key : κ} {entries : List (κ × α)}
    (below : ∀ entry ∈ entries, key < entry.1) : find? key entries = none := by
  cases result : find? key entries with
  | none => rfl
  | some value => exact absurd (below _ (mem_of_find? result)) (Key.irrefl key)

/-- Sorted lists with the same look-ups are the same list. -/
theorem Sorted.ext {first second : List (κ × α)} (firstSorted : Sorted first)
    (secondSorted : Sorted second) (same : ∀ key, find? key first = find? key second) :
    first = second := by
  induction first generalizing second with
  | nil =>
    cases second with
    | nil => rfl
    | cons head rest => simpa [find?] using same head.1
  | cons head rest ih =>
    obtain ⟨key, value⟩ := head
    obtain ⟨below, sorted⟩ := List.pairwise_cons.mp firstSorted
    cases second with
    | nil => simpa [find?] using same key
    | cons other others =>
      obtain ⟨otherKey, otherValue⟩ := other
      obtain ⟨otherBelow, otherSorted⟩ := List.pairwise_cons.mp secondSorted
      have keys : key = otherKey := by
        refine Decidable.byContradiction fun different => ?_
        rcases Key.connected different with less | less
        · have found := same key
          have missing : find? key others = none := find?_eq_none_of_lt fun entry inside =>
            Key.trans less (otherBelow entry inside)
          simp [find?, different, missing] at found
        · have found := same otherKey
          have missing : find? otherKey rest = none := find?_eq_none_of_lt fun entry inside =>
            Key.trans less (below entry inside)
          simp [find?, Ne.symm different, missing] at found
      subst keys
      have values : value = otherValue := by simpa [find?] using same key
      subst values
      congr 1
      refine ih sorted otherSorted fun name => ?_
      by_cases equal : name = key
      · subst equal
        rw [find?_eq_none_of_lt below, find?_eq_none_of_lt otherBelow]
      · simpa [find?, equal] using same name

end Entries

/-- A finite map listed in key order. -/
structure Table (κ α : Type) [Key κ] where
  toList : List (κ × α)
  sorted : Entries.Sorted toList

namespace Table

variable {κ α : Type} [Key κ]

instance [DecidableEq α] : DecidableEq (Table κ α) := fun first second =>
  decidable_of_iff (first.toList = second.toList)
    ⟨fun equal => by cases first; cases second; simpa using equal, fun equal => equal ▸ rfl⟩

/-- The table without entries. -/
def empty : Table κ α := ⟨[], List.Pairwise.nil⟩

instance : EmptyCollection (Table κ α) := ⟨empty⟩
instance : Inhabited (Table κ α) := ⟨empty⟩

/-- The value at a key. -/
def find? (table : Table κ α) (key : κ) : Option α := Entries.find? key table.toList

/-- Is there a value at the key? -/
def contains (table : Table κ α) (key : κ) : Bool := (table.find? key).isSome

/-- Sets the value at a key. -/
def insert (table : Table κ α) (key : κ) (value : α) : Table κ α :=
  ⟨Entries.insert key value table.toList, table.sorted.insert⟩

/-- Removes a key. -/
def erase (table : Table κ α) (key : κ) : Table κ α :=
  ⟨Entries.erase key table.toList, table.sorted.erase⟩

/-- Adds entries from left to right, so the last value of a repeated key stays. -/
def ofList (entries : List (κ × α)) : Table κ α :=
  entries.foldl (fun table entry => table.insert entry.1 entry.2) empty

def isEmpty (table : Table κ α) : Bool := table.toList.isEmpty

def keys (table : Table κ α) : List κ := table.toList.map (·.1)

@[simp] theorem find?_empty (key : κ) : (empty : Table κ α).find? key = none := rfl

theorem find?_insert (table : Table κ α) (key other : κ) (value : α) :
    (table.insert key value).find? other =
      if other = key then some value else table.find? other :=
  Entries.find?_insert key other value table.toList

theorem find?_erase (table : Table κ α) (key other : κ) :
    (table.erase key).find? other = if other = key then none else table.find? other :=
  Entries.find?_erase key other table.toList

theorem mem_toList_iff (table : Table κ α) (key : κ) (value : α) :
    (key, value) ∈ table.toList ↔ table.find? key = some value :=
  ⟨Entries.find?_of_mem table.sorted, Entries.mem_of_find?⟩

/-- Tables are determined by their look-ups. -/
theorem ext {first second : Table κ α} (same : ∀ key, first.find? key = second.find? key) :
    first = second := by
  have lists := Entries.Sorted.ext first.sorted second.sorted same
  cases first
  cases second
  simpa using lists

/-- There is nothing to remove where there is no value. -/
theorem erase_of_absent {table : Table κ α} {key : κ} (absent : table.find? key = none) :
    table.erase key = table := by
  apply ext
  intro other
  rw [find?_erase]
  split
  · rename_i same
    rw [same, absent]
  · rfl

/-- Removing what was added where there was nothing. -/
theorem erase_insert_of_absent {table : Table κ α} {key : κ} (absent : table.find? key = none)
    (value : α) : (table.insert key value).erase key = table := by
  apply ext
  intro other
  rw [find?_erase, find?_insert]
  split
  · rename_i same
    rw [same, absent]
  · rfl

end Table

end PlatformApps
