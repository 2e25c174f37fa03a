import ReplyStage.Proofs.Template.Grammar
/-!
# Reading calls

The readers of strings, arguments, defaults and calls accept the texts of the grammar and give their
values: each of them is told by one equivalence, from the inside to the outside.
-/

namespace ReplyStage.Template

/-! ## White space -/

theorem dropBlank_append {ws : List Char} (h : Blank ws) (cs : List Char) :
    dropBlank (ws ++ cs) = dropBlank cs :=
  List.dropWhile_append_of_pos h

theorem dropBlank_cons {c : Char} (h : Text.isBlank c = false) (cs : List Char) :
    dropBlank (c :: cs) = c :: cs :=
  List.dropWhile_cons_of_neg (by simp [h])

theorem exists_blank_dropBlank (cs : List Char) :
    ∃ ws, Blank ws ∧ cs = ws ++ dropBlank cs := by
  refine ⟨cs.takeWhile Text.isBlank, ?_, List.takeWhile_append_dropWhile.symm⟩
  exact List.all_eq_true.mp List.all_takeWhile

/-! ## Strings -/

theorem readString_plain {c : Char} (hq : c ≠ '"') (hb : c ≠ '\\') (rest : List Char) :
    readString (c :: rest) = (readString rest).map fun r => (c :: r.1, r.2) := by
  rw [readString]
  · cases readString rest <;> rfl
  · exact hq
  · rintro rfl
    exact absurd rfl hb
  · rintro _ _ rfl
    exact absurd rfl hb

theorem readString_escape {c : Char} (hc : c ≠ '\n') (rest : List Char) :
    readString ('\\' :: c :: rest) = (readString rest).map fun r => (c :: r.1, r.2) := by
  rw [readString, if_neg hc]
  cases readString rest <;> rfl

theorem readString_eq_some_iff {cs value after : List Char} :
    readString cs = some (value, after) ↔ ∃ raw, StringText raw value ∧ cs = raw ++ '"' :: after := by
  constructor
  · intro h
    fun_induction readString cs generalizing value with
    | case1 => cases h
    | case2 rest =>
      cases h
      exact ⟨[], .nil, rfl⟩
    | case3 => cases h
    | case4 => cases h
    | case5 => cases h
    | case6 c rest hc value' after' hrest ih =>
      cases h
      obtain ⟨raw, hraw, rfl⟩ := ih hrest
      exact ⟨'\\' :: c :: raw, .escape hc hraw, rfl⟩
    | case7 => cases h
    | case8 c rest hq hlast hmore value' after' hrest ih =>
      cases h
      have hb : c ≠ '\\' := by
        rintro rfl
        cases rest with
        | nil => exact hlast rfl rfl
        | cons d rest => exact hmore d rest rfl rfl
      obtain ⟨raw, hraw, rfl⟩ := ih hrest
      exact ⟨c :: raw, .plain hq hb hraw, rfl⟩
  · rintro ⟨raw, hraw, rfl⟩
    induction hraw with
    | nil => rfl
    | plain hq hb _ ih => rw [List.cons_append, readString_plain hq hb, ih, Option.map_some]
    | escape hc _ ih =>
      rw [List.cons_append, List.cons_append, readString_escape hc, ih, Option.map_some]

/-! ## Arguments and defaults -/

theorem dropWord?_eq_some_iff {word cs rest : List Char} :
    dropWord? word cs = some rest ↔ cs = word ++ rest := by
  fun_induction dropWord? word cs with
  | case1 cs => simp
  | case2 => simp
  | case3 word c rest' ih => simp [ih]
  | case4 e word c rest' hne =>
    simp only [List.cons_append, List.cons.injEq, reduceCtorEq, false_iff, not_and]
    exact fun hc => absurd hc hne

theorem isBlank_close : Text.isBlank ')' = false := by decide

theorem isBlank_quote : Text.isBlank '"' = false := by decide

theorem readArgument_eq_some_iff {cs rest : List Char} {argument : Option String} :
    readArgument cs = some (argument, rest) ↔
      ∃ text, ArgumentText text argument ∧ cs = text ++ ')' :: rest := by
  constructor
  · intro h
    obtain ⟨ws₁, hws₁, hcs⟩ := exists_blank_dropBlank cs
    unfold readArgument at h
    split at h
    · rename_i quoted hdrop
      rw [hdrop] at hcs
      split at h
      · cases h
      · rename_i value after hstring
        obtain ⟨raw, hraw, rfl⟩ := readString_eq_some_iff.mp hstring
        obtain ⟨ws₂, hws₂, hafter⟩ := exists_blank_dropBlank after
        rw [Option.map_eq_some_iff] at h
        obtain ⟨rest', hclose, hres⟩ := h
        cases hres
        rw [dropWord?_eq_some_iff.mp hclose] at hafter
        refine ⟨_, .given hws₁ (.intro hraw) hws₂, ?_⟩
        rw [hcs, hafter]
        simp
    · rw [Option.map_eq_some_iff] at h
      obtain ⟨rest', hclose, hres⟩ := h
      cases hres
      rw [dropWord?_eq_some_iff.mp hclose] at hcs
      exact ⟨ws₁, .absent hws₁, hcs⟩
  · rintro ⟨text, htext, rfl⟩
    cases htext with
    | absent hws =>
      unfold readArgument
      rw [dropBlank_append hws, dropBlank_cons isBlank_close]
      rfl
    | @given ws₁ _ _ ws₂ hws₁ hquoted hws₂ =>
      obtain ⟨hraw⟩ := hquoted
      rename_i raw value
      have hstring : readString (raw ++ '"' :: (ws₂ ++ ')' :: rest)) =
          some (value, ws₂ ++ ')' :: rest) := readString_eq_some_iff.mpr ⟨raw, hraw, rfl⟩
      have hdrop : dropBlank (ws₁ ++ '"' :: (raw ++ ['"']) ++ ws₂ ++ ')' :: rest) =
          '"' :: (raw ++ '"' :: (ws₂ ++ ')' :: rest)) := by
        simp only [List.append_assoc, List.cons_append, List.nil_append]
        rw [dropBlank_append hws₁, dropBlank_cons isBlank_quote]
      unfold readArgument
      rw [hdrop]
      simp only [hstring]
      rw [dropBlank_append hws₂, dropBlank_cons isBlank_close]
      rfl

theorem readDefault_eq_some_iff {cs : List Char} {default : Option String} :
    readDefault cs = some default ↔ DefaultText cs default := by
  constructor
  · intro h
    unfold readDefault at h
    split at h
    · cases h
      exact .absent
    · split at h
      · cases h
      · rename_i rest hword
        split at h
        · rename_i value hargument
          cases h
          obtain ⟨ws, hws, hcs⟩ := exists_blank_dropBlank cs
          obtain ⟨text, htext, rfl⟩ := readArgument_eq_some_iff.mp hargument
          rw [hcs, dropWord?_eq_some_iff.mp hword]
          have := DefaultText.given hws htext
          simpa using this
        · cases h
  · intro h
    cases h with
    | absent => rfl
    | @given ws text value hws htext =>
      have hargument : readArgument (text ++ [')']) = some (some value, []) :=
        readArgument_eq_some_iff.mpr ⟨text, htext, rfl⟩
      have hdrop : dropBlank (ws ++ ".or(".toList ++ text ++ [')']) =
          ['.', 'o', 'r', '('] ++ (text ++ [')']) := by
        simp only [List.append_assoc]
        rw [dropBlank_append hws]
        exact dropBlank_cons (by decide) _
      unfold readDefault
      split
      · rename_i hnil
        simp at hnil
      · rw [hdrop, dropWord?_eq_some_iff.mpr rfl]
        simp only [hargument]

/-! ## Calls -/

theorem readCall_eq_some_iff {cs rest : List Char} {call : Call} :
    readCall cs = some (call, rest) ↔ cs = call.opening ++ rest := by
  constructor
  · intro h
    unfold readCall at h
    split at h
    · rename_i rest' hmeta
      cases h
      exact dropWord?_eq_some_iff.mp hmeta
    · split at h
      · rename_i rest' hjson
        cases h
        exact dropWord?_eq_some_iff.mp hjson
      · rw [Option.map_eq_some_iff] at h
        obtain ⟨rest', hcontent, hres⟩ := h
        cases hres
        exact dropWord?_eq_some_iff.mp hcontent
  · rintro rfl
    cases call <;> rfl

theorem readBody_eq_some_iff {body : List Char} {call : Call} {argument default : Option String} :
    readBody body = some (call, argument, default) ↔
      ∃ text more, ArgumentText text argument ∧ DefaultText more default ∧
        body = call.opening ++ text ++ [')'] ++ more := by
  constructor
  · intro h
    unfold readBody at h
    split at h
    · cases h
    · rename_i call' rest hcall
      split at h
      · cases h
      · rename_i argument' more hargument
        rw [Option.map_eq_some_iff] at h
        obtain ⟨default', hdefault, hres⟩ := h
        cases hres
        obtain ⟨text, htext, rfl⟩ := readArgument_eq_some_iff.mp hargument
        refine ⟨text, more, htext, readDefault_eq_some_iff.mp hdefault, ?_⟩
        rw [readCall_eq_some_iff.mp hcall]
        simp
  · rintro ⟨text, more, htext, hmore, rfl⟩
    have hcall : readCall (call.opening ++ text ++ [')'] ++ more) =
        some (call, text ++ ')' :: more) := readCall_eq_some_iff.mpr (by simp)
    have hargument : readArgument (text ++ ')' :: more) = some (argument, more) :=
      readArgument_eq_some_iff.mpr ⟨text, htext, rfl⟩
    unfold readBody
    simp only [hcall, hargument, readDefault_eq_some_iff.mpr hmore, Option.map_some]

/-- A body gives an expression where the grammar says so, and this one. -/
theorem expressionOf_eq_ok_iff {body : List Char} {e : Expression} :
    expressionOf body = .ok e ↔ CallText body e := by
  constructor
  · intro h
    unfold expressionOf at h
    split at h
    · cases h
    · rename_i argument default hbody
      obtain ⟨text, more, htext, hmore, rfl⟩ := readBody_eq_some_iff.mp hbody
      split at h
      · split at h
        · cases h
        · rename_i key hkey
          cases h
          exact .intro htext (.metadata hkey) hmore
      · cases h
    · rename_i argument default hbody
      cases h
      obtain ⟨text, more, htext, hmore, rfl⟩ := readBody_eq_some_iff.mp hbody
      exact .intro htext .json hmore
    · rename_i argument default hbody
      obtain ⟨text, more, htext, hmore, rfl⟩ := readBody_eq_some_iff.mp hbody
      split at h
      · cases h
      · cases h
        exact .intro htext .content hmore
  · rintro @⟨call, text, argument, selector, more, default, htext, hselects, hmore⟩
    have hbody : readBody (call.opening ++ text ++ [')'] ++ more) =
        some (call, argument, default) :=
      readBody_eq_some_iff.mpr ⟨text, more, htext, hmore, rfl⟩
    unfold expressionOf
    rw [hbody]
    cases hselects with
    | metadata hkey => simp only [if_neg hkey]
    | json => rfl
    | content => rfl

end ReplyStage.Template
