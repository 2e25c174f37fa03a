/-!
# Dictionaries in key order

A finite map from texts to values that keeps its entries sorted by key, so that everything that
walks one sees the same order. Keys compare by code point, which is also the order of their UTF-8
bytes. Looking up a key after an insertion gives the new value under that key and the old ones
elsewhere (`Dict.get?_insert`).
-/

namespace ReplyStage

/-- Puts an entry in its place in a list sorted by key, in place of an entry with the same key. -/
def insertEntry {β : Type} (key : String) (value : β) : List (String × β) → List (String × β)
  | [] => [(key, value)]
  | (k, v) :: rest =>
    if key < k then (key, value) :: (k, v) :: rest
    else if key = k then (key, value) :: rest
    else (k, v) :: insertEntry key value rest

/-- The value under a key in a list of entries. -/
def lookupEntry {β : Type} (key : String) : List (String × β) → Option β
  | [] => none
  | (k, v) :: rest => if key = k then some v else lookupEntry key rest

/-- The entries are sorted by key, each key once. -/
def Sorted {β : Type} (entries : List (String × β)) : Prop :=
  entries.Pairwise fun a b => a.1 < b.1

theorem mem_insertEntry_key {β : Type} {key : String} {value : β} {entries : List (String × β)}
    {e : String × β} (h : e ∈ insertEntry key value entries) : e.1 = key ∨ e ∈ entries := by
  induction entries with
  | nil => simp_all [insertEntry]
  | cons first rest ih =>
    obtain ⟨k, v⟩ := first
    rw [insertEntry] at h
    split at h
    · rcases List.mem_cons.1 h with rfl | h
      · exact .inl rfl
      · exact .inr h
    · split at h
      · rcases List.mem_cons.1 h with rfl | h
        · exact .inl rfl
        · exact .inr (List.mem_cons_of_mem _ h)
      · rcases List.mem_cons.1 h with rfl | h
        · exact .inr (List.mem_cons_self)
        · rcases ih h with h | h
          · exact .inl h
          · exact .inr (List.mem_cons_of_mem _ h)

theorem lt_of_not_lt_of_ne {a b : String} (h : ¬ a < b) (hne : a ≠ b) : b < a := by
  rcases Decidable.em (b < a) with hlt | hlt
  · exact hlt
  · exact absurd (String.le_antisymm hlt h) hne

theorem sorted_insertEntry {β : Type} (key : String) (value : β) {entries : List (String × β)}
    (h : Sorted entries) : Sorted (insertEntry key value entries) := by
  induction entries with
  | nil => simp [insertEntry, Sorted]
  | cons first rest ih =>
    obtain ⟨k, v⟩ := first
    obtain ⟨hk, hrest⟩ := List.pairwise_cons.1 h
    rw [insertEntry]
    split
    · next hlt =>
      refine List.pairwise_cons.2 ⟨fun e he => ?_, h⟩
      rcases List.mem_cons.1 he with rfl | he
      · exact hlt
      · exact String.lt_trans hlt (hk e he)
    · next hnlt =>
      split
      · next heq => subst heq; exact List.pairwise_cons.2 ⟨hk, hrest⟩
      · next hne =>
        refine List.pairwise_cons.2 ⟨fun e he => ?_, ih hrest⟩
        rcases mem_insertEntry_key he with h' | h'
        · rw [h']; exact lt_of_not_lt_of_ne hnlt hne
        · exact hk e h'

theorem lookupEntry_insertEntry {β : Type} (key k : String) (value : β)
    (entries : List (String × β)) :
    lookupEntry k (insertEntry key value entries) =
      if k = key then some value else lookupEntry k entries := by
  induction entries with
  | nil => simp [insertEntry, lookupEntry]
  | cons first rest ih =>
    obtain ⟨k', v⟩ := first
    rw [insertEntry]
    split
    · simp [lookupEntry]
    · split
      · next h => subst h; simp only [lookupEntry]; split <;> simp_all
      · next h =>
        simp only [lookupEntry, ih]
        split
        · next hk => subst hk; simp [Ne.symm h]
        · rfl

/-- A finite map from texts to values, its entries sorted by key. -/
structure Dict (β : Type) where
  entries : List (String × β)
  sorted : Sorted entries

namespace Dict

variable {β : Type}

/-- The map without entries. -/
def empty : Dict β := ⟨[], List.Pairwise.nil⟩

instance : Inhabited (Dict β) := ⟨empty⟩

instance [DecidableEq β] : DecidableEq (Dict β) := fun a b =>
  decidable_of_iff (a.entries = b.entries) (by cases a; cases b; simp)

instance [Repr β] : Repr (Dict β) := ⟨fun d n => reprPrec d.entries n⟩

/-- The value under a key. -/
def get? (d : Dict β) (key : String) : Option β := lookupEntry key d.entries

/-- Stores a value under a key, in place of any earlier one. -/
def insert (d : Dict β) (key : String) (value : β) : Dict β :=
  ⟨insertEntry key value d.entries, sorted_insertEntry key value d.sorted⟩

/-- Stores entries one after another, so that the last one under a key remains. -/
def ofList (entries : List (String × β)) : Dict β :=
  entries.foldl (fun d e => d.insert e.1 e.2) empty

def isEmpty (d : Dict β) : Bool := d.entries.isEmpty

@[simp] theorem get?_empty (key : String) : (empty : Dict β).get? key = none := rfl

@[simp] theorem get?_insert (d : Dict β) (key k : String) (value : β) :
    (d.insert key value).get? k = if k = key then some value else d.get? k :=
  lookupEntry_insertEntry key k value d.entries

end Dict
end ReplyStage
