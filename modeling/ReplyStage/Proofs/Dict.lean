import Mathlib.Data.List.Forall2
import Mathlib.Data.List.Nodup
import ReplyStage.Dict
/-!
# Entries of dictionaries

Looking up a key in entries of which no two have the same key, and in a dictionary that such entries
are stored in.
-/

namespace ReplyStage

variable {β : Type}

theorem Sorted.nodup_keys {entries : List (String × β)} (h : Sorted entries) :
    (entries.map Prod.fst).Nodup := by
  refine (List.pairwise_map.mpr h).imp ?_
  rintro a _ hlt rfl
  exact String.lt_irrefl a hlt

theorem lookupEntry_eq_none {key : String} {entries : List (String × β)}
    (h : key ∉ entries.map Prod.fst) : lookupEntry key entries = none := by
  induction entries with
  | nil => rfl
  | cons first rest ih =>
    obtain ⟨k, v⟩ := first
    rw [List.map_cons, List.mem_cons, not_or] at h
    rw [lookupEntry, if_neg h.1, ih h.2]

theorem lookupEntry_of_mem {entries : List (String × β)} (h : (entries.map Prod.fst).Nodup)
    {e : String × β} (he : e ∈ entries) : lookupEntry e.1 entries = some e.2 := by
  induction entries with
  | nil => cases he
  | cons first rest ih =>
    obtain ⟨k, v⟩ := first
    obtain ⟨hfirst, hrest⟩ := List.nodup_cons.mp h
    rw [lookupEntry]
    rcases List.mem_cons.mp he with rfl | hmem
    · rw [if_pos rfl]
    · have hne : e.1 ≠ k := by
        rintro rfl
        exact hfirst (List.mem_map.mpr ⟨e, hmem, rfl⟩)
      rw [if_neg hne, ih hrest hmem]

theorem mem_of_lookupEntry {key : String} {value : β} {entries : List (String × β)}
    (h : lookupEntry key entries = some value) : (key, value) ∈ entries := by
  induction entries with
  | nil => cases h
  | cons first rest ih =>
    rw [lookupEntry] at h
    split at h
    · rename_i hkey
      cases h
      rw [hkey]
      exact List.mem_cons_self
    · exact List.mem_cons_of_mem _ (ih h)

theorem lookupEntry_eq_some_iff {entries : List (String × β)} (h : (entries.map Prod.fst).Nodup)
    {key : String} {value : β} : lookupEntry key entries = some value ↔ (key, value) ∈ entries :=
  ⟨mem_of_lookupEntry, lookupEntry_of_mem h⟩

theorem mem_insertEntry {key : String} {value : β} {entries : List (String × β)} {e : String × β}
    (h : e ∈ insertEntry key value entries) : e = (key, value) ∨ e ∈ entries := by
  induction entries with
  | nil => exact .inl (List.mem_singleton.mp h)
  | cons first rest ih =>
    obtain ⟨k, v⟩ := first
    rw [insertEntry] at h
    split at h
    · exact List.mem_cons.mp h
    · split at h
      · exact (List.mem_cons.mp h).imp_right (List.mem_cons_of_mem _)
      · rcases List.mem_cons.mp h with rfl | h
        · exact .inr List.mem_cons_self
        · exact (ih h).imp_right (List.mem_cons_of_mem _)

/-- Entries with different keys may stand in any order. -/
theorem lookupEntry_perm {entries others : List (String × β)} (hperm : others.Perm entries)
    (h : (entries.map Prod.fst).Nodup) (key : String) :
    lookupEntry key others = lookupEntry key entries := by
  have hothers : (others.map Prod.fst).Nodup := (hperm.map Prod.fst).nodup_iff.mpr h
  refine Option.ext fun value => ?_
  rw [lookupEntry_eq_some_iff hothers, lookupEntry_eq_some_iff h, hperm.mem_iff]

/-- Sorted entries are told by their lookups. -/
theorem Sorted.eq_of_lookupEntry {entries others : List (String × β)} (h : Sorted entries)
    (h' : Sorted others) (hlookup : ∀ key, lookupEntry key entries = lookupEntry key others) :
    entries = others := by
  have hmem : ∀ e, e ∈ entries ↔ e ∈ others := fun e => by
    rw [← lookupEntry_eq_some_iff h.nodup_keys, ← lookupEntry_eq_some_iff h'.nodup_keys, hlookup]
  have hperm : entries.Perm others :=
    (List.perm_ext_iff_of_nodup h.nodup_keys.of_map h'.nodup_keys.of_map).mpr hmem
  refine hperm.eq_of_pairwise (fun a b _ _ hab hba => ?_) h h'
  exact absurd hba (String.lt_asymm hab)

/-- There is one entry at most with a key. -/
theorem filter_key {entries : List (String × β)} (h : (entries.map Prod.fst).Nodup) (key : String) :
    (entries.filter fun e => e.1 = key).map Prod.snd = (lookupEntry key entries).toList := by
  induction entries with
  | nil => rfl
  | cons first rest ih =>
    obtain ⟨k, v⟩ := first
    obtain ⟨hfirst, hrest⟩ := List.nodup_cons.mp h
    rw [lookupEntry, List.filter_cons]
    by_cases hkey : key = k
    · subst hkey
      have hnone : (rest.filter fun e => e.1 = key).map Prod.snd = [] := by
        rw [ih hrest, lookupEntry_eq_none hfirst]
        rfl
      simp [hnone]
    · have hne : ¬ k = key := fun hk => hkey hk.symm
      simp [hkey, hne, ih hrest]

theorem lookupEntry_append (key : String) (entries more : List (String × β)) :
    lookupEntry key (entries ++ more) = (lookupEntry key entries).or (lookupEntry key more) := by
  induction entries with
  | nil => rfl
  | cons first rest ih =>
    rw [List.cons_append, lookupEntry, lookupEntry]
    split
    · rfl
    · exact ih

theorem lookupEntry_filter (key : String) (p : String → Bool) (entries : List (String × β)) :
    lookupEntry key (entries.filter fun e => p e.1) =
      if p key then lookupEntry key entries else none := by
  induction entries with
  | nil => simp [lookupEntry]
  | cons first rest ih =>
    rw [List.filter_cons, lookupEntry]
    by_cases hkey : key = first.1
    · subst hkey
      by_cases hp : p first.1
      · simp [hp, lookupEntry]
      · rw [if_neg hp, ih, if_neg hp, if_neg hp]
    · by_cases hp : p first.1
      · rw [if_pos hp, lookupEntry, if_neg hkey, ih, if_neg hkey]
      · rw [if_neg hp, ih, if_neg hkey]

/-- Entries with the same keys one by one have related values under each key. -/
theorem rel_lookupEntry {γ : Type} {related : β → γ → Prop} {entries : List (String × β)}
    {others : List (String × γ)}
    (h : List.Forall₂ (fun e o => o.1 = e.1 ∧ related e.2 o.2) entries others) (key : String) :
    Option.Rel related (lookupEntry key entries) (lookupEntry key others) := by
  induction h with
  | nil => exact .none
  | cons hfirst _ ih =>
    rw [lookupEntry, lookupEntry, hfirst.1]
    split
    · exact .some hfirst.2
    · exact ih

/-- Entries with the same keys one by one as sorted ones are sorted. -/
theorem Sorted.of_forall₂ {γ : Type} {entries : List (String × β)} {others : List (String × γ)}
    (h : Sorted entries) (hkeys : List.Forall₂ (fun e o => o.1 = e.1) entries others) :
    Sorted others := by
  have hmap : others.map Prod.fst = entries.map Prod.fst := by
    induction hkeys with
    | nil => rfl
    | cons hfirst _ ih => rw [List.map_cons, List.map_cons, hfirst, ih (List.Pairwise.of_cons h)]
  have hsorted : (entries.map Prod.fst).Pairwise (· < ·) := List.pairwise_map.mpr h
  rw [← hmap] at hsorted
  exact List.pairwise_map.mp hsorted

/-- An entry behind all others keeps them in order. -/
theorem insertEntry_of_lt {key : String} {value : β} {entries : List (String × β)}
    (h : ∀ e ∈ entries, e.1 < key) : insertEntry key value entries = entries ++ [(key, value)] := by
  induction entries with
  | nil => rfl
  | cons first rest ih =>
    obtain ⟨k, v⟩ := first
    have hk : k < key := h (k, v) List.mem_cons_self
    have hne : key ≠ k := by
      rintro rfl
      exact String.lt_irrefl key hk
    rw [insertEntry, if_neg (String.lt_asymm hk), if_neg hne,
      ih fun e he => h e (List.mem_cons_of_mem _ he), List.cons_append]

namespace Dict

/-- Stores entries one after another in a dictionary. -/
def insertAll (d : Dict β) (entries : List (String × β)) : Dict β :=
  entries.foldl (fun d e => d.insert e.1 e.2) d

/-- Entries with different keys come to stand in front of what was there before. -/
theorem get?_insertAll {entries : List (String × β)} (h : (entries.map Prod.fst).Nodup)
    (d : Dict β) (key : String) :
    (d.insertAll entries).get? key = (lookupEntry key entries).or (d.get? key) := by
  induction entries generalizing d with
  | nil => rfl
  | cons first rest ih =>
    obtain ⟨k, v⟩ := first
    obtain ⟨hfirst, hrest⟩ := List.nodup_cons.mp h
    have hinsert : d.insertAll ((k, v) :: rest) = (d.insert k v).insertAll rest := rfl
    rw [hinsert, ih hrest, get?_insert, lookupEntry]
    split
    · rename_i hk
      subst hk
      rw [lookupEntry_eq_none hfirst]
      rfl
    · rfl

theorem ext_get? {d d' : Dict β} (h : ∀ key, d.get? key = d'.get? key) : d = d' := by
  have hentries : d.entries = d'.entries := d.sorted.eq_of_lookupEntry d'.sorted h
  cases d
  cases d'
  cases hentries
  rfl

/-- Entries with different keys may be stored in any order. -/
theorem insertAll_perm {entries others : List (String × β)} (hperm : others.Perm entries)
    (h : (entries.map Prod.fst).Nodup) (d : Dict β) : d.insertAll others = d.insertAll entries := by
  have hothers : (others.map Prod.fst).Nodup := (hperm.map Prod.fst).nodup_iff.mpr h
  refine ext_get? fun key => ?_
  rw [get?_insertAll hothers, get?_insertAll h, lookupEntry_perm hperm h]

theorem entries_insertAll {d : Dict β} {entries : List (String × β)}
    (h : Sorted (d.entries ++ entries)) : (d.insertAll entries).entries = d.entries ++ entries := by
  induction entries generalizing d with
  | nil => exact (List.append_nil _).symm
  | cons first rest ih =>
    obtain ⟨k, v⟩ := first
    have hlt : ∀ e ∈ d.entries, e.1 < k := fun e he =>
      (List.pairwise_append.mp h).2.2 e he (k, v) List.mem_cons_self
    have hinsert : (d.insert k v).entries = d.entries ++ [(k, v)] := insertEntry_of_lt hlt
    have hall : (d.insert k v).entries ++ rest = d.entries ++ (k, v) :: rest := by
      rw [hinsert, List.append_assoc, List.singleton_append]
    have hrest : ((d.insert k v).insertAll rest).entries = (d.insert k v).entries ++ rest :=
      ih (by rwa [hall])
    rw [hall] at hrest
    exact hrest

/-- A dictionary is made of its entries. -/
theorem ofList_entries (d : Dict β) : ofList d.entries = d := by
  have hsorted : Sorted ((empty : Dict β).entries ++ d.entries) := d.sorted
  have hentries : (ofList d.entries).entries = d.entries := entries_insertAll hsorted
  generalize ofList d.entries = made at hentries
  cases made
  cases d
  cases hentries
  rfl

end Dict
end ReplyStage
