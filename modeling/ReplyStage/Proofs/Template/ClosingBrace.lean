import Mathlib.Order.Bounds.Basic
import ReplyStage.Proofs.Template.BodyPattern
import ReplyStage.Template.Offsets
/-!
# The brace that closes an expression

What the scanner for this brace finds, told without its flags: the text before the brace consists of
characters outside of strings and of whole strings (`Outside`), and no earlier brace has such a text
before it. It is found at its offset in bytes. Behind a body that matches the pattern, it is the
brace that comes next.
-/

namespace ReplyStage.Template

/-! ## Texts and their strings -/

/-- What the scanner takes for the inside of a string: a backslash takes any character along. -/
inductive Enclosed : List Char → Prop
  | nil : Enclosed []
  | plain {c rest} : c ≠ '"' → c ≠ '\\' → Enclosed rest → Enclosed (c :: rest)
  | escape {c rest} : Enclosed rest → Enclosed ('\\' :: c :: rest)

/-- Text that ends outside of strings: characters other than quotes, and whole strings. -/
inductive Outside : List Char → Prop
  | nil : Outside []
  | plain {c rest} : c ≠ '"' → Outside rest → Outside (c :: rest)
  | string {raw rest} : Enclosed raw → Outside rest → Outside ('"' :: (raw ++ '"' :: rest))

/-- There is a brace at an offset, and it lies outside of every string. -/
def FreeBraceAt (text : String) (offset : Nat) : Prop :=
  ∃ before after : String, text = before ++ "\x7d" ++ after ∧ Outside before.toList ∧
    offset = before.utf8ByteSize

/-! ## Places -/

/-- The place after a text. -/
def Place.after (p : Place) (text : List Char) : Place := text.foldl Place.next p

theorem Place.after_cons (p : Place) (c : Char) (rest : List Char) :
    p.after (c :: rest) = (p.next c).after rest := rfl

theorem Place.after_append (p : Place) (text more : List Char) :
    p.after (text ++ more) = (p.after text).after more := List.foldl_append

theorem Place.eq_free_iff (p : Place) : p = {} ↔ ¬ p.quoted ∧ ¬ p.escaped := by
  obtain ⟨quoted, escaped⟩ := p
  cases quoted <;> cases escaped <;> decide

theorem Place.next_free {c : Char} (h : c ≠ '"') : Place.next {} c = {} := by simp [next, h]

theorem Place.next_quoted {c : Char} (hquote : c ≠ '"') (hescape : c ≠ '\\') :
    Place.next ⟨true, false⟩ c = ⟨true, false⟩ := by simp [next, hquote, hescape]

theorem Enclosed.after_eq {raw : List Char} (h : Enclosed raw) :
    Place.after ⟨true, false⟩ raw = ⟨true, false⟩ := by
  induction h with
  | nil => rfl
  | plain hquote hescape _ ih => rw [Place.after_cons, Place.next_quoted hquote hescape, ih]
  | escape _ ih => exact ih

theorem Outside.after_eq {text : List Char} (h : Outside text) : Place.after {} text = {} := by
  induction h with
  | nil => rfl
  | plain hquote _ ih => rw [Place.after_cons, Place.next_free hquote, ih]
  | string hraw _ ih =>
    have hopen : Place.next {} '"' = ⟨true, false⟩ := rfl
    have hclose : Place.next ⟨true, false⟩ '"' = {} := rfl
    rw [Place.after_cons, hopen, Place.after_append, hraw.after_eq, Place.after_cons, hclose, ih]

/-- A text that leads out of a string begins with the rest of this string. A backslash right before
the text belongs to the string. -/
theorem exists_enclosed (escaped : Bool) {text : List Char}
    (h : Place.after ⟨true, escaped⟩ text = {}) :
    ∃ raw rest, text = raw ++ '"' :: rest ∧
      Enclosed (if escaped then '\\' :: raw else raw) ∧ Place.after {} rest = {} := by
  induction text generalizing escaped with
  | nil => cases h
  | cons c rest ih =>
    cases escaped with
    | true =>
      obtain ⟨raw, more, rfl, hraw, hmore⟩ := ih false h
      exact ⟨c :: raw, more, rfl, .escape hraw, hmore⟩
    | false =>
      by_cases hquote : c = '"'
      · subst hquote
        exact ⟨[], rest, rfl, .nil, h⟩
      by_cases hescape : c = '\\'
      · subst hescape
        obtain ⟨raw, more, rfl, hraw, hmore⟩ := ih true h
        exact ⟨'\\' :: raw, more, rfl, hraw, hmore⟩
      · rw [Place.after_cons, Place.next_quoted hquote hescape] at h
        obtain ⟨raw, more, rfl, hraw, hmore⟩ := ih false h
        exact ⟨c :: raw, more, rfl, .plain hquote hescape hraw, hmore⟩

theorem outside_of_after {text : List Char} (h : Place.after {} text = {}) : Outside text := by
  -- by length, since a string is taken off the front as a whole
  match text with
  | [] => exact .nil
  | c :: rest =>
    by_cases hquote : c = '"'
    · subst hquote
      obtain ⟨raw, more, rfl, hraw, hmore⟩ := exists_enclosed false h
      exact .string hraw (outside_of_after hmore)
    · rw [Place.after_cons, Place.next_free hquote] at h
      exact .plain hquote (outside_of_after h)
termination_by text.length

/-! ## What the scanner finds -/

theorem splitBody_cons (p : Place) (c : Char) (rest : List Char) :
    splitBody p (c :: rest) =
      if c = '\x7d' ∧ p = {} then some ([], rest)
      else (splitBody (p.next c) rest).map fun r => (c :: r.1, r.2) := by
  simp only [splitBody, p.eq_free_iff]
  split
  · rfl
  · cases splitBody (p.next c) rest <;> rfl

/-- A body ends outside of strings. -/
theorem after_splitBody {p : Place} {text body more : List Char}
    (h : splitBody p text = some (body, more)) : p.after body = {} := by
  induction text generalizing p body with
  | nil => cases h
  | cons c rest ih =>
    rw [splitBody_cons] at h
    split at h
    · rename_i hc
      cases h
      exact hc.2
    · rw [Option.map_eq_some_iff] at h
      obtain ⟨⟨body', more'⟩, hrest, hres⟩ := h
      cases hres
      rw [Place.after_cons]
      exact ih hrest

/-- A body ends at the latest where there is a brace outside of strings. -/
theorem exists_splitBody {p : Place} {before : List Char} (h : p.after before = {})
    (after : List Char) :
    ∃ body more, splitBody p (before ++ '\x7d' :: after) = some (body, more) ∧ body <+: before := by
  induction before generalizing p with
  | nil =>
    obtain rfl : p = {} := h
    exact ⟨[], after, rfl, List.prefix_refl []⟩
  | cons c rest ih =>
    rw [List.cons_append, splitBody_cons]
    split
    · exact ⟨[], _, rfl, List.nil_prefix⟩
    · obtain ⟨body, more, hrest, hpre⟩ := ih h
      rw [hrest]
      exact ⟨c :: body, more, rfl, List.cons_prefix_cons.mpr ⟨rfl, hpre⟩⟩

/-! ## Its offset -/

theorem size_ofList_cons (c : Char) (rest : List Char) :
    (String.ofList (c :: rest)).utf8ByteSize = c.utf8Size + (String.ofList rest).utf8ByteSize := by
  rw [String.ofList_cons, String.utf8ByteSize_append, String.utf8ByteSize_singleton]

theorem findBrace_eq (p : Place) (offset : Nat) (text : List Char) :
    findBrace p offset text =
      (splitBody p text).map fun r => offset + (String.ofList r.1).utf8ByteSize := by
  induction text generalizing p offset with
  | nil => rfl
  | cons c rest ih =>
    simp only [findBrace, splitBody_cons, p.eq_free_iff]
    split
    · rfl
    · rw [ih, Option.map_map]
      congr 1
      funext r
      rw [Function.comp_apply, size_ofList_cons, Nat.add_assoc]

/-- The offset of the closing brace is the size of the body. -/
theorem closingOffset_eq (text : String) :
    closingOffset text =
      (splitBody {} text.toList).map fun r => (String.ofList r.1).utf8ByteSize := by
  simp only [closingOffset, findBrace_eq, Nat.zero_add]

theorem size_le_of_prefix {text more : List Char} (h : text <+: more) :
    (String.ofList text).utf8ByteSize ≤ (String.ofList more).utf8ByteSize := by
  obtain ⟨rest, rfl⟩ := h
  rw [String.ofList_append, String.utf8ByteSize_append]
  exact Nat.le_add_right _ _

/-- The scanner finds a brace outside of strings if there is one, and none that comes later than
this one. -/
theorem FreeBraceAt.exists_closingOffset {text : String} {offset : Nat}
    (h : FreeBraceAt text offset) : ∃ first, closingOffset text = some first ∧ first ≤ offset := by
  obtain ⟨before, after, rfl, hbefore, rfl⟩ := h
  obtain ⟨body, more, hbody, hpre⟩ := exists_splitBody hbefore.after_eq after.toList
  refine ⟨(String.ofList body).utf8ByteSize, ?_, ?_⟩
  · rw [closingOffset_eq]
    simp [hbody]
  · simpa using size_le_of_prefix hpre

theorem freeBraceAt_closingOffset {text : String} {offset : Nat}
    (h : closingOffset text = some offset) : FreeBraceAt text offset := by
  rw [closingOffset_eq, Option.map_eq_some_iff] at h
  obtain ⟨⟨body, more⟩, hbody, rfl⟩ := h
  refine ⟨String.ofList body, String.ofList more, ?_, ?_, rfl⟩
  · apply String.toList_injective
    simp [splitBody_eq_some hbody]
  · rw [String.toList_ofList]
    exact outside_of_after (after_splitBody hbody)

/-- The scanner finds the first brace outside of strings. -/
theorem closingOffset_eq_some_iff {text : String} {offset : Nat} :
    closingOffset text = some offset ↔ IsLeast {n | FreeBraceAt text n} offset := by
  have least {first : Nat} (h : closingOffset text = some first) :
      IsLeast {n | FreeBraceAt text n} first := by
    refine ⟨freeBraceAt_closingOffset h, ?_⟩
    intro n hn
    obtain ⟨m, hm, hle⟩ := FreeBraceAt.exists_closingOffset hn
    rw [h] at hm
    cases hm
    exact hle
  refine ⟨least, ?_⟩
  intro h
  obtain ⟨first, hfirst, -⟩ := FreeBraceAt.exists_closingOffset h.1
  rw [hfirst, (least hfirst).unique h]

theorem closingOffset_eq_none_iff {text : String} :
    closingOffset text = none ↔ ∀ n, ¬ FreeBraceAt text n := by
  constructor
  · intro h n hn
    obtain ⟨first, hfirst, -⟩ := hn.exists_closingOffset
    rw [h] at hfirst
    cases hfirst
  · intro h
    rw [Option.eq_none_iff_forall_ne_some]
    intro n hn
    exact h n (freeBraceAt_closingOffset hn)

/-! ## Bodies that match the pattern -/

theorem passes_bodyPattern {body : List Char} (h : body ∈ bodyPattern) : Passes {} body {} := by
  obtain ⟨call, text, argument, more, default, hargument, hdefault, rfl⟩ := mem_bodyPattern.mp h
  exact passes_body call hargument hdefault

/-- Behind a body that matches the pattern, with white space around it, the brace that comes next
is the one that is found. -/
theorem closingOffset_body {ws₁ body ws₂ : String} (hws₁ : Blank ws₁.toList)
    (hbody : body.toList ∈ bodyPattern) (hws₂ : Blank ws₂.toList) (more : String) :
    closingOffset (ws₁ ++ body ++ ws₂ ++ "\x7d" ++ more) =
      some (ws₁ ++ body ++ ws₂).utf8ByteSize := by
  have hpasses : Passes {} (ws₁.toList ++ body.toList ++ ws₂.toList) {} :=
    ((passes_blank hws₁).append (passes_bodyPattern hbody)).append (passes_blank hws₂)
  have hsplit := hpasses.splitBody_eq more.toList
  have htext : (ws₁ ++ body ++ ws₂ ++ "\x7d" ++ more).toList =
      ws₁.toList ++ body.toList ++ ws₂.toList ++ '\x7d' :: more.toList := by simp
  rw [closingOffset_eq, htext, hsplit]
  simp [Nat.add_assoc]

end ReplyStage.Template
