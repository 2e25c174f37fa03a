import ReplyStage.Proofs.Template.Grammar
/-!
# Cutting templates

Compiling cuts a text at openers and at the braces that close expressions, before it looks at what
stands between them. The cuts are those of the grammar: an opener cannot begin within another one,
and the text of a call has no brace outside of its strings. The white space around a call is all
that is trimmed.
-/

namespace ReplyStage.Template

/-! ## Openers -/

theorem not_opener_infix_nil : ¬ opener <:+: [] := by simp [opener]

theorem splitOpener_cons {c : Char} {rest : List Char} (h : ¬ opener <+: c :: rest) :
    splitOpener (c :: rest) = (c :: (splitOpener rest).1, (splitOpener rest).2) := by
  rw [splitOpener]
  rintro after rfl rfl
  exact h ⟨after, rfl⟩

/-- An opener does not begin in a text that holds none, not even with the next opener's help. -/
theorem not_prefix_append_opener {text : List Char} (hne : text ≠ []) (h : ¬ opener <:+: text)
    (after : List Char) : ¬ opener <+: text ++ opener ++ after := by
  rintro ⟨rest, hrest⟩
  match text, hne with
  | [c], _ => simp [opener] at hrest
  | [c, d], _ => simp [opener] at hrest
  | c :: d :: e :: text, _ =>
    simp only [opener, List.cons_append, List.nil_append, List.cons.injEq] at hrest
    obtain ⟨rfl, rfl, rfl, -⟩ := hrest
    exact h ⟨[], text, rfl⟩

theorem splitOpener_of_no_opener {text : List Char} (h : ¬ opener <:+: text) :
    splitOpener text = (text, none) := by
  induction text with
  | nil => rfl
  | cons c rest ih =>
    have hrest : ¬ opener <:+: rest := fun hin => h (hin.trans (List.suffix_cons c rest).isInfix)
    rw [splitOpener_cons fun hpre => h hpre.isInfix, ih hrest]

theorem splitOpener_append {before : List Char} (h : ¬ opener <:+: before) (after : List Char) :
    splitOpener (before ++ opener ++ after) = (before, some after) := by
  induction before with
  | nil => rfl
  | cons c rest ih =>
    have hrest : ¬ opener <:+: rest := fun hin => h (hin.trans (List.suffix_cons c rest).isInfix)
    have hpre := not_prefix_append_opener (List.cons_ne_nil c rest) h after
    rw [List.cons_append, List.cons_append] at hpre ⊢
    rw [splitOpener_cons hpre, ih hrest]

/-- A text is cut before its first opener. -/
theorem splitOpener_sound (cs : List Char) :
    ¬ opener <:+: (splitOpener cs).1 ∧
      cs = (splitOpener cs).1 ++ (splitOpener cs).2.elim [] (opener ++ ·) := by
  fun_induction splitOpener cs with
  | case1 => exact ⟨not_opener_infix_nil, rfl⟩
  | case2 rest => exact ⟨not_opener_infix_nil, rfl⟩
  | case3 c rest hopener before after hsplit ih =>
    rw [hsplit] at ih
    obtain ⟨hbefore, hcs⟩ := ih
    refine ⟨fun hin => ?_, congrArg (c :: ·) hcs⟩
    rcases List.infix_cons_iff.mp hin with hpre | hin
    · obtain ⟨more, hmore⟩ := hpre
      simp only [opener, List.cons_append, List.nil_append, List.cons.injEq] at hmore
      obtain ⟨rfl, rfl⟩ := hmore
      exact hopener _ rfl hcs
    · exact hbefore hin

theorem splitOpener_eq_none {cs before : List Char} (h : splitOpener cs = (before, none)) :
    before = cs ∧ ¬ opener <:+: before := by
  have hsound := splitOpener_sound cs
  rw [h] at hsound
  exact ⟨by simpa using hsound.2.symm, hsound.1⟩

theorem splitOpener_eq_some {cs before after : List Char}
    (h : splitOpener cs = (before, some after)) :
    cs = before ++ opener ++ after ∧ ¬ opener <:+: before := by
  have hsound := splitOpener_sound cs
  rw [h] at hsound
  exact ⟨by simpa using hsound.2, hsound.1⟩

/-! ## Bodies -/

/-- A text without a brace that would close an expression takes the scanner from one place to
another. -/
def Passes (p : Place) (text : List Char) (q : Place) : Prop :=
  ∀ after, splitBody p (text ++ after) = (splitBody q after).map fun r => (text ++ r.1, r.2)

theorem Passes.nil (p : Place) : Passes p [] p := by
  intro after
  rw [List.nil_append]
  cases splitBody p after <;> rfl

theorem Passes.append {p q r : Place} {text more : List Char} (h : Passes p text q)
    (h' : Passes q more r) : Passes p (text ++ more) r := by
  intro after
  rw [List.append_assoc, h, h', Option.map_map]
  congr 1
  funext s
  rw [Function.comp_apply, List.append_assoc]

theorem passes_next {p : Place} {c : Char} (h : c = '\x7d' → p.quoted = true ∨ p.escaped = true) :
    Passes p [c] (p.next c) := by
  intro after
  rw [List.singleton_append, splitBody, if_neg]
  · cases splitBody (p.next c) after <;> rfl
  · rintro ⟨hc, hquoted, hescaped⟩
    rcases h hc with hp | hp
    · exact hquoted hp
    · exact hescaped hp

/-- Outside of strings only quotes and closing braces matter. -/
theorem passes_plain {text : List Char} (h : ∀ c ∈ text, c ≠ '"' ∧ c ≠ '\x7d') :
    Passes {} text {} := by
  induction text with
  | nil => exact .nil _
  | cons c rest ih =>
    obtain ⟨hquote, hbrace⟩ := h c List.mem_cons_self
    have hnext : Place.next {} c = {} := by simp [Place.next, hquote]
    have hc : Passes {} [c] (Place.next {} c) := passes_next fun hc => absurd hc hbrace
    rw [hnext] at hc
    exact hc.append (ih fun d hd => h d (List.mem_cons_of_mem c hd))

theorem passes_word {text : List Char} (h : text.all (fun c => c != '"' && c != '\x7d') = true) :
    Passes {} text {} := by
  apply passes_plain
  intro c hc
  simpa using List.all_eq_true.mp h c hc

theorem passes_blank {ws : List Char} (h : Blank ws) : Passes {} ws {} := by
  apply passes_plain
  intro c hc
  have hblank := h c hc
  constructor
  · rintro rfl
    exact absurd hblank (by decide)
  · rintro rfl
    exact absurd hblank (by decide)

/-- In a string, a brace closes nothing and an escaped quote does not end it. -/
theorem passes_string {raw value : List Char} (h : StringText raw value) :
    Passes ⟨true, false⟩ raw ⟨true, false⟩ := by
  induction h with
  | nil => exact .nil _
  | @plain c raw value hquote hescape _ ih =>
    have hnext : Place.next ⟨true, false⟩ c = ⟨true, false⟩ := by
      simp [Place.next, hquote, hescape]
    have hc : Passes ⟨true, false⟩ [c] (Place.next ⟨true, false⟩ c) := passes_next fun _ => .inl rfl
    rw [hnext] at hc
    exact hc.append ih
  | @escape c raw value _ _ ih =>
    have hescape : Passes ⟨true, false⟩ ['\\'] ⟨true, true⟩ := passes_next fun _ => .inl rfl
    have hc : Passes ⟨true, true⟩ [c] ⟨true, false⟩ := passes_next fun _ => .inl rfl
    exact (hescape.append hc).append ih

theorem passes_quoted {text : List Char} {value : String} (h : QuotedText text value) :
    Passes {} text {} := by
  obtain ⟨hraw⟩ := h
  have hopen : Passes {} ['"'] ⟨true, false⟩ := passes_next (by decide)
  have hclose : Passes ⟨true, false⟩ ['"'] {} := passes_next (by decide)
  exact hopen.append ((passes_string hraw).append hclose)

theorem passes_argument {text : List Char} {argument : Option String}
    (h : ArgumentText text argument) : Passes {} text {} := by
  cases h with
  | absent hws => exact passes_blank hws
  | given hws₁ hquoted hws₂ =>
    exact ((passes_blank hws₁).append (passes_quoted hquoted)).append (passes_blank hws₂)

theorem passes_default {text : List Char} {default : Option String} (h : DefaultText text default) :
    Passes {} text {} := by
  cases h with
  | absent => exact .nil _
  | given hws hargument =>
    have hword : Passes {} ".or(".toList {} := passes_word rfl
    have hclose : Passes {} [')'] {} := passes_word rfl
    exact (((passes_blank hws).append hword).append (passes_argument hargument)).append hclose

/-- A call passes whether or not its function can have the argument. -/
theorem passes_body (call : Call) {text more : List Char} {argument default : Option String}
    (hargument : ArgumentText text argument) (hdefault : DefaultText more default) :
    Passes {} (call.opening ++ text ++ [')'] ++ more) {} := by
  have hopening : Passes {} call.opening {} := passes_word (by cases call <;> rfl)
  have hclose : Passes {} [')'] {} := passes_word rfl
  exact ((hopening.append (passes_argument hargument)).append hclose).append
    (passes_default hdefault)

theorem passes_call {text : List Char} {e : Expression} (h : CallText text e) :
    Passes {} text {} := by
  obtain ⟨hargument, -, hdefault⟩ := h
  exact passes_body _ hargument hdefault

/-- The brace after a text that passes closes the expression. -/
theorem Passes.splitBody_eq {text : List Char} (h : Passes {} text {}) (after : List Char) :
    splitBody {} (text ++ '\x7d' :: after) = some (text, after) := by
  rw [h]
  simp [splitBody]

theorem splitBody_eq_some {p : Place} {cs body after : List Char}
    (h : splitBody p cs = some (body, after)) : cs = body ++ '\x7d' :: after := by
  induction cs generalizing p body with
  | nil => cases h
  | cons c rest ih =>
    rw [splitBody] at h
    split at h
    · rename_i hc
      cases h
      rw [hc.1, List.nil_append]
    · split at h
      · cases h
      · rename_i body' after' hrest
        cases h
        rw [List.cons_append, ← ih hrest]

/-! ## Trimming -/

theorem exists_blank_trimEnd (cs : List Char) : ∃ ws, Blank ws ∧ cs = Text.trimEnd cs ++ ws := by
  refine ⟨(cs.reverse.takeWhile Text.isBlank).reverse, ?_, ?_⟩
  · intro c hc
    exact List.all_eq_true.mp List.all_takeWhile c (List.mem_reverse.mp hc)
  · rw [Text.trimEnd, ← List.reverse_append, List.takeWhile_append_dropWhile, List.reverse_reverse]

theorem exists_blank_trimChars (cs : List Char) :
    ∃ ws₁ ws₂, Blank ws₁ ∧ Blank ws₂ ∧ cs = ws₁ ++ Text.trimChars cs ++ ws₂ := by
  obtain ⟨ws₂, hws₂, hend⟩ := exists_blank_trimEnd (cs.dropWhile Text.isBlank)
  refine ⟨cs.takeWhile Text.isBlank, ws₂, List.all_eq_true.mp List.all_takeWhile, hws₂, ?_⟩
  rw [List.append_assoc, Text.trimChars, ← hend, List.takeWhile_append_dropWhile]

theorem trimChars_append {ws₁ text ws₂ : List Char} (hws₁ : Blank ws₁) (hws₂ : Blank ws₂)
    (hfirst : ∃ c rest, text = c :: rest ∧ Text.isBlank c = false)
    (hlast : ∃ rest c, text = rest ++ [c] ∧ Text.isBlank c = false) :
    Text.trimChars (ws₁ ++ text ++ ws₂) = text := by
  have hstart : (ws₁ ++ text ++ ws₂).dropWhile Text.isBlank = text ++ ws₂ := by
    obtain ⟨c, rest, rfl, hc⟩ := hfirst
    rw [List.append_assoc, List.dropWhile_append_of_pos hws₁]
    exact List.dropWhile_cons_of_neg (by simp [hc])
  have hend : Text.trimEnd (text ++ ws₂) = text := by
    obtain ⟨rest, c, rfl, hc⟩ := hlast
    rw [Text.trimEnd, List.reverse_append,
      List.dropWhile_append_of_pos fun d hd => hws₂ d (List.mem_reverse.mp hd),
      List.reverse_append, List.reverse_singleton, List.singleton_append,
      List.dropWhile_cons_of_neg (by simp [hc]), List.reverse_cons, List.reverse_reverse]
  rw [Text.trimChars, hstart, hend]

/-- A call begins with a name and ends with a parenthesis. -/
theorem trimChars_call {ws₁ text ws₂ : List Char} {e : Expression} (hws₁ : Blank ws₁)
    (hcall : CallText text e) (hws₂ : Blank ws₂) :
    Text.trimChars (ws₁ ++ text ++ ws₂) = text := by
  apply trimChars_append hws₁ hws₂
  · obtain @⟨call, _, _, _, _, _, _, _, _⟩ := hcall
    cases call
    · exact ⟨'m', _, rfl, by decide⟩
    · exact ⟨'j', _, rfl, by decide⟩
    · exact ⟨'c', _, rfl, by decide⟩
  · obtain ⟨_, _, hdefault⟩ := hcall
    cases hdefault with
    | absent => exact ⟨_, ')', List.append_nil _, by decide⟩
    | given _ _ => exact ⟨_, ')', (List.append_assoc _ _ _).symm, by decide⟩

end ReplyStage.Template
