import Mathlib.Data.List.Basic
import ReplyStage.Text.Fields
/-!
# Lists of items

What trimming leaves alone, and which lists of items come back from a text that joins them
(`items_join`).
-/

namespace ReplyStage.Text

/-! ## Trimming -/

theorem isBlank_head?_dropWhile {cs : List Char} {c : Char} (h : c ∈ (cs.dropWhile isBlank).head?) :
    isBlank c = false := by
  have hhead := List.head?_dropWhile_not isBlank cs
  rw [Option.mem_def.mp h] at hhead
  exact hhead

theorem dropWhile_eq_self {cs : List Char} (h : ∀ c ∈ cs.head?, isBlank c = false) :
    cs.dropWhile isBlank = cs := by
  cases cs with
  | nil => rfl
  | cons c rest => exact List.dropWhile_cons_of_neg (by simp [h c rfl])

theorem trimEnd_append (cs : List Char) :
    trimEnd cs ++ (cs.reverse.takeWhile isBlank).reverse = cs := by
  rw [trimEnd, ← List.reverse_append, List.takeWhile_append_dropWhile, List.reverse_reverse]

theorem isBlank_head?_trimChars {cs : List Char} {c : Char} (h : c ∈ (trimChars cs).head?) :
    isBlank c = false := by
  -- what the end loses does not change the front
  have hfront := trimEnd_append (cs.dropWhile isBlank)
  have hhead : c ∈ (cs.dropWhile isBlank).head? := by
    rw [← hfront, ← trimChars, Option.mem_def, List.head?_append, Option.mem_def.mp h, Option.some_or]
  exact isBlank_head?_dropWhile hhead

theorem isBlank_getLast?_trimChars {cs : List Char} {c : Char} (h : c ∈ (trimChars cs).getLast?) :
    isBlank c = false := by
  rw [trimChars, trimEnd, List.getLast?_reverse] at h
  exact isBlank_head?_dropWhile h

/-- Trimming leaves a text alone if there is white space at neither of its ends. -/
theorem trimChars_eq_self_iff {cs : List Char} :
    trimChars cs = cs ↔
      (∀ c ∈ cs.head?, isBlank c = false) ∧ ∀ c ∈ cs.getLast?, isBlank c = false := by
  constructor
  · intro h
    exact ⟨fun c hc => isBlank_head?_trimChars (h.symm ▸ hc),
      fun c hc => isBlank_getLast?_trimChars (h.symm ▸ hc)⟩
  · rintro ⟨hhead, hlast⟩
    rw [← List.head?_reverse] at hlast
    rw [trimChars, dropWhile_eq_self hhead, trimEnd, dropWhile_eq_self hlast, List.reverse_reverse]

theorem trim_eq_self_iff {s : String} :
    trim s = s ↔ (∀ c ∈ s.toList.head?, isBlank c = false) ∧
      ∀ c ∈ s.toList.getLast?, isBlank c = false := by
  rw [← trimChars_eq_self_iff, trim]
  constructor
  · intro h
    have hlist := congrArg String.toList h
    rwa [String.toList_ofList] at hlist
  · intro h
    rw [h, String.ofList_toList]

theorem trim_eq_self_of_no_blank {s : String} (h : ∀ c ∈ s.toList, isBlank c = false) :
    trim s = s :=
  trim_eq_self_iff.mpr ⟨fun c hc => h c (List.mem_of_mem_head? hc),
    fun c hc => h c (List.mem_of_mem_getLast? hc)⟩

/-- Trimming does all there is to do at once. -/
theorem trim_trim (s : String) : trim (trim s) = trim s := by
  rw [trim_eq_self_iff, trim, String.toList_ofList]
  exact ⟨fun _ => isBlank_head?_trimChars, fun _ => isBlank_getLast?_trimChars⟩

theorem mem_of_mem_trim {s : String} {c : Char} (h : c ∈ (trim s).toList) : c ∈ s.toList := by
  rw [trim, String.toList_ofList, trimChars, trimEnd, List.mem_reverse] at h
  exact List.dropWhile_subset _ (List.mem_reverse.mp (List.dropWhile_subset _ h))

/-! ## Joining and cutting -/

theorem intercalate_cons {separator : Char} (field : List Char) {rest : List (List Char)}
    (h : rest ≠ []) :
    [separator].intercalate (field :: rest) = field ++ separator :: [separator].intercalate rest := by
  obtain ⟨next, more, rfl⟩ := List.exists_cons_of_ne_nil h
  rfl

theorem splitChars_intercalate {separator : Char} {fields : List (List Char)} (hne : fields ≠ [])
    (h : ∀ field ∈ fields, separator ∉ field) :
    splitChars separator ([separator].intercalate fields) = fields := by
  induction fields with
  | nil => exact absurd rfl hne
  | cons field rest ih =>
    have hfield := splitChars_of_not_mem (h field List.mem_cons_self)
    by_cases hrest : rest = []
    · subst hrest
      rw [List.intercalate_singleton, hfield]
    · rw [intercalate_cons field hrest, splitChars_append_cons, hfield,
        ih hrest fun other hother => h other (List.mem_cons_of_mem _ hother), List.singleton_append]

theorem split_join {separator : Char} {fields : List String} (hne : fields ≠ [])
    (h : ∀ field ∈ fields, separator ∉ field.toList) :
    split separator (join separator fields) = fields := by
  have hfields : ∀ cs ∈ fields.map String.toList, separator ∉ cs := by
    intro cs hcs
    obtain ⟨field, hfield, rfl⟩ := List.mem_map.mp hcs
    exact h field hfield
  rw [split, join, String.toList_ofList, splitChars_intercalate (by simpa using hne) hfields,
    List.map_map]
  simp [Function.comp_def]

theorem split_append (separator : Char) (s t : String) :
    split separator (s ++ String.singleton separator ++ t) =
      split separator s ++ split separator t := by
  have hlist : (s ++ String.singleton separator ++ t).toList = s.toList ++ separator :: t.toList := by
    simp
  rw [split, hlist, splitChars_append_cons, List.map_append]
  rfl

theorem join_cons (separator : Char) (text : String) {rest : List String} (h : rest ≠ []) :
    join separator (text :: rest) = text ++ String.singleton separator ++ join separator rest := by
  rw [join, List.map_cons, intercalate_cons _ (by simpa using h), String.ofList_append,
    String.ofList_cons, String.ofList_toList, String.append_assoc]
  rfl

/-- A text is cut into fields without a separator, which joined give the text again. -/
theorem join_split (separator : Char) (s : String) :
    (∀ field ∈ split separator s, separator ∉ field.toList) ∧
      join separator (split separator s) = s := by
  constructor
  · intro field hfield
    obtain ⟨cs, hcs, rfl⟩ := List.mem_map.mp hfield
    rw [String.toList_ofList]
    exact not_mem_of_mem_splitChars hcs
  · have hlist : (split separator s).map String.toList = splitChars separator s.toList := by
      simp [split, Function.comp_def]
    rw [join, hlist, intercalate_splitChars, String.ofList_toList]

/-! ## Items -/

/-- What can be an item of a list: neither empty nor with blanks around it nor cut in two. -/
structure IsItem (separator : Char) (s : String) : Prop where
  trimmed : trim s = s
  ne_empty : s ≠ ""
  whole : separator ∉ s.toList

instance (separator : Char) (s : String) : Decidable (IsItem separator s) :=
  decidable_of_iff (trim s = s ∧ s ≠ "" ∧ separator ∉ s.toList)
    ⟨fun ⟨h, h', h''⟩ => ⟨h, h', h''⟩, fun ⟨h, h', h''⟩ => ⟨h, h', h''⟩⟩

/-- What is read from a list are items. -/
theorem isItem_of_mem_items {separator : Char} {s item : String} (h : item ∈ items separator s) :
    IsItem separator item := by
  obtain ⟨hmem, hne⟩ := List.mem_filter.mp h
  obtain ⟨field, hfield, rfl⟩ := List.mem_map.mp hmem
  exact ⟨trim_trim _, of_decide_eq_true hne,
    fun hsep => (join_split separator s).1 field hfield (mem_of_mem_trim hsep)⟩

/-- A text without the separator is one item at most. -/
theorem items_of_not_mem {separator : Char} {s : String} (h : separator ∉ s.toList) :
    items separator s = [trim s].filter (· ≠ "") := by
  rw [items, split, splitChars_of_not_mem h, List.map_singleton, List.map_singleton,
    String.ofList_toList]

theorem items_append (separator : Char) (s t : String) :
    items separator (s ++ String.singleton separator ++ t) =
      items separator s ++ items separator t := by
  rw [items, split_append, List.map_append, List.filter_append]
  rfl

/-- The items of texts that are joined are those of the texts, one after another. -/
theorem items_join_flatMap (separator : Char) (texts : List String) :
    items separator (join separator texts) = texts.flatMap (items separator) := by
  induction texts with
  | nil => rfl
  | cons text rest ih =>
    by_cases hrest : rest = []
    · subst hrest
      simp [join]
    · rw [join_cons separator text hrest, items_append, ih, List.flatMap_cons]

/-- Items are their own items. -/
theorem flatMap_items_of_isItem {separator : Char} {fields : List String}
    (h : ∀ field ∈ fields, IsItem separator field) : fields.flatMap (items separator) = fields := by
  rw [List.flatMap_def, List.map_congr_left fun field hfield => ?_, ← List.flatMap_def,
    List.flatMap_singleton']
  obtain ⟨htrimmed, hne, hwhole⟩ := h field hfield
  rw [items_of_not_mem hwhole, htrimmed, List.filter_cons_of_pos (by simpa using hne), List.filter_nil]

/-- Items come back from the text that joins them. -/
theorem items_join {separator : Char} {fields : List String}
    (h : ∀ field ∈ fields, IsItem separator field) :
    items separator (join separator fields) = fields := by
  rw [items_join_flatMap, flatMap_items_of_isItem h]

/-- A text that joins items is not blank. -/
theorem isBlankText_join {separator : Char} {fields : List String} (hne : fields ≠ [])
    (h : ∀ field ∈ fields, IsItem separator field) :
    isBlankText (join separator fields) = false := by
  obtain ⟨field, rest, rfl⟩ := List.exists_cons_of_ne_nil hne
  obtain ⟨htrimmed, hfield, -⟩ := h field List.mem_cons_self
  obtain ⟨c, cs, hc⟩ := List.exists_cons_of_ne_nil (by simpa using hfield : field.toList ≠ [])
  have hmem : c ∈ (join separator (field :: rest)).toList := by
    rw [join, String.toList_ofList, List.map_cons, hc]
    cases rest <;> simp [List.intercalate]
  have hblank : isBlank c = false := (trim_eq_self_iff.mp htrimmed).1 c (by rw [hc]; rfl)
  rw [isBlankText, List.all_eq_false]
  exact ⟨c, hmem, by simp [hblank]⟩

end ReplyStage.Text
