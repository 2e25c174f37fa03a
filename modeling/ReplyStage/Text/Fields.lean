import ReplyStage.Text.Blank
/-!
# Separated fields

Texts that hold several fields with a separator character between them: cutting a text at every
separator, joining fields again, and reading a list of items in which blanks around an item and
empty items do not count.
-/

namespace ReplyStage.Text

/-- Cuts a list of characters at every separator. There is always at least one field. -/
def splitChars (separator : Char) : List Char → List (List Char)
  | [] => [[]]
  | c :: rest =>
    if c = separator then [] :: splitChars separator rest
    else
      match splitChars separator rest with
      | [] => [[c]]
      | field :: fields => (c :: field) :: fields

/-- The fields of a text. -/
def split (separator : Char) (s : String) : List String :=
  (splitChars separator s.toList).map String.ofList

/-- Fields with the separator between each two of them. -/
def join (separator : Char) (fields : List String) : String :=
  String.ofList ([separator].intercalate (fields.map String.toList))

/-- The items of a separated list: trimmed, without the empty ones. -/
def items (separator : Char) (s : String) : List String :=
  ((split separator s).map trim).filter (· ≠ "")

/-- Cuts a text at its first separator, if it has one. -/
def splitFirst? (separator : Char) (s : String) : Option (String × String) :=
  match s.toList.dropWhile (· ≠ separator) with
  | [] => none
  | _ :: rest => some (String.ofList (s.toList.takeWhile (· ≠ separator)), String.ofList rest)

theorem splitChars_ne_nil (separator : Char) (cs : List Char) : splitChars separator cs ≠ [] := by
  cases cs with
  | nil => simp [splitChars]
  | cons c rest =>
    rw [splitChars]
    split
    · simp
    · split <;> simp

theorem mem_of_mem_splitChars {separator c : Char} {cs field : List Char}
    (hfield : field ∈ splitChars separator cs) (hc : c ∈ field) : c ∈ cs := by
  induction cs generalizing field with
  | nil =>
    rw [splitChars, List.mem_singleton] at hfield
    rwa [hfield] at hc
  | cons first rest ih =>
    obtain ⟨next, fields, hrest⟩ := List.exists_cons_of_ne_nil (splitChars_ne_nil separator rest)
    rw [hrest] at ih
    rw [splitChars, hrest] at hfield
    split at hfield
    · rcases List.mem_cons.mp hfield with rfl | hfield
      · cases hc
      · exact List.mem_cons_of_mem _ (ih hfield hc)
    · rcases List.mem_cons.mp hfield with rfl | hfield
      · rcases List.mem_cons.mp hc with rfl | hc
        · exact List.mem_cons_self
        · exact List.mem_cons_of_mem _ (ih List.mem_cons_self hc)
      · exact List.mem_cons_of_mem _ (ih (List.mem_cons_of_mem _ hfield) hc)

/-- Joining what cutting gave restores the text. -/
theorem intercalate_splitChars (separator : Char) (cs : List Char) :
    [separator].intercalate (splitChars separator cs) = cs := by
  induction cs with
  | nil => rfl
  | cons c rest ih =>
    obtain ⟨field, fields, h⟩ := List.exists_cons_of_ne_nil (splitChars_ne_nil separator rest)
    rw [splitChars]
    split
    · next hc => subst hc; rw [h] at ih ⊢; simpa [List.intercalate] using ih
    · rw [h] at ih ⊢
      cases fields <;> simpa [List.intercalate] using ih

/-- No field holds the separator. -/
theorem not_mem_of_mem_splitChars {separator : Char} {cs field : List Char}
    (h : field ∈ splitChars separator cs) : separator ∉ field := by
  induction cs generalizing field with
  | nil => simp_all [splitChars]
  | cons c rest ih =>
    rw [splitChars] at h
    split at h
    · rcases List.mem_cons.1 h with rfl | h
      · simp
      · exact ih h
    · next hc =>
      obtain ⟨first, fields, hs⟩ := List.exists_cons_of_ne_nil (splitChars_ne_nil separator rest)
      rw [hs] at h ih
      rcases List.mem_cons.1 h with rfl | h
      · simpa [Ne.symm hc] using ih (by simp)
      · exact ih (by simp [h])

/-- A text without the separator is one field. -/
theorem splitChars_of_not_mem {separator : Char} {cs : List Char} (h : separator ∉ cs) :
    splitChars separator cs = [cs] := by
  induction cs with
  | nil => rfl
  | cons c rest ih =>
    simp only [List.mem_cons, not_or] at h
    rw [splitChars, if_neg (Ne.symm h.1), ih h.2]

/-- Cutting a text that continues after a separator. -/
theorem splitChars_append_cons (separator : Char) (xs ys : List Char) :
    splitChars separator (xs ++ separator :: ys) =
      splitChars separator xs ++ splitChars separator ys := by
  induction xs with
  | nil => simp [splitChars]
  | cons c rest ih =>
    obtain ⟨field, fields, h⟩ := List.exists_cons_of_ne_nil (splitChars_ne_nil separator rest)
    rw [List.cons_append, splitChars, splitChars, ih, h]
    split <;> simp

end ReplyStage.Text
