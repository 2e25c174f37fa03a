import ReplyStage.Proofs.Results
import ReplyStage.Proofs.Template.Calls
import ReplyStage.Proofs.Template.Cutting
/-!
# Reading whole templates

A text compiles where the grammar has a reading for it, and to the parts of this reading. There is
one reading at most, and a text without one is reported as a whole.
-/

namespace ReplyStage.Template

/-! ## Expressions -/

theorem ExpressionText.body {text : List Char} {e : Expression} (h : ExpressionText text e) :
    ∃ body, text = opener ++ body ++ ['\x7d'] ∧ Passes {} body {} ∧
      expressionOf (Text.trimChars body) = .ok e := by
  obtain ⟨hws₁, hcall, hws₂⟩ := h
  refine ⟨_, rfl, ?_, ?_⟩
  · exact ((passes_blank hws₁).append (passes_call hcall)).append (passes_blank hws₂)
  · rw [trimChars_call hws₁ hcall hws₂]
    exact expressionOf_eq_ok_iff.mpr hcall

theorem expressionText_of_body {body : List Char} {e : Expression}
    (h : expressionOf (Text.trimChars body) = .ok e) :
    ExpressionText (opener ++ body ++ ['\x7d']) e := by
  obtain ⟨ws₁, ws₂, hws₁, hws₂, hbody⟩ := exists_blank_trimChars body
  rw [hbody]
  exact .intro hws₁ (expressionOf_eq_ok_iff.mp h) hws₂

theorem splitOpener_expression {before : List Char} (h : ¬ opener <:+: before)
    (body after : List Char) :
    splitOpener (before ++ (opener ++ body ++ ['\x7d'] ++ after)) =
      (before, some (body ++ '\x7d' :: after)) := by
  have := splitOpener_append h (body ++ '\x7d' :: after)
  simpa using this

/-! ## Readings from left to right -/

/-- The literal of a text; an empty one is no part. -/
def literalParts (text : List Char) : List Part :=
  if text = [] then [] else [.literal text]

theorem consLiteral_eq (text : List Char) (segments : List Segment) :
    consLiteral text segments = (literalParts text).map Part.segment ++ segments := by
  unfold consLiteral literalParts
  split <;> rfl

/-- Readings in the order of the parts: a literal in front of each expression and one at the end,
any of which may be empty. -/
inductive Reads : List Char → List Part → Prop
  | last {text} : ¬ opener <:+: text → Reads text (literalParts text)
  | next {before text e after parts} : ¬ opener <:+: before → ExpressionText text e →
      Reads after parts →
      Reads (before ++ (text ++ after)) (literalParts before ++ ⟨text, .expression e⟩ :: parts)

theorem not_isLiteral_expression {text : List Char} {e : Expression} :
    ¬ Part.IsLiteral ⟨text, .expression e⟩ := by
  rintro ⟨_, h⟩
  cases h

theorem Reading.nil : Reading [] [] := ⟨rfl, nofun, .nil⟩

theorem Reading.cons_expression {text after : List Char} {e : Expression} {parts : List Part}
    (h : Reading after parts) (he : ExpressionText text e) :
    Reading (text ++ after) (⟨text, .expression e⟩ :: parts) where
  covers := by rw [List.flatMap_cons, h.covers]
  wellformed := by
    intro part hpart
    rcases List.mem_cons.mp hpart with rfl | hpart
    · exact .expression he
    · exact h.wellformed part hpart
  apart := List.isChain_cons.mpr ⟨fun _ _ hboth => not_isLiteral_expression hboth.1, h.apart⟩

/-- A literal can stand in front of what does not begin with one. -/
theorem Reading.cons_literal {text after : List Char} {parts : List Part} (h : Reading after parts)
    (htext : ¬ opener <:+: text) (hfirst : ∀ part ∈ parts.head?, ¬ part.IsLiteral) :
    Reading (text ++ after) (literalParts text ++ parts) := by
  unfold literalParts
  split
  · rename_i hnil
    rw [hnil]
    exact h
  · rename_i hne
    constructor
    · rw [List.singleton_append, List.flatMap_cons, h.covers]
      rfl
    · intro part hpart
      rcases List.mem_cons.mp hpart with rfl | hpart
      · exact .literal hne htext
      · exact h.wellformed part hpart
    · exact List.isChain_cons.mpr ⟨fun part hpart hboth => hfirst part hpart hboth.2, h.apart⟩

theorem Reads.reading {cs : List Char} {parts : List Part} (h : Reads cs parts) :
    Reading cs parts := by
  induction h with
  | last htext =>
    have := Reading.nil.cons_literal htext nofun
    rwa [List.append_nil, List.append_nil] at this
  | next hbefore he _ ih =>
    refine (ih.cons_expression he).cons_literal hbefore ?_
    rintro _ ⟨⟩
    exact not_isLiteral_expression

/-- A literal in front of an expression. -/
theorem Reads.literal_cons {before text cs : List Char} {e : Expression} {parts : List Part}
    (h : Reads cs (⟨text, .expression e⟩ :: parts)) (hne : before ≠ [])
    (hbefore : ¬ opener <:+: before) :
    Reads (before ++ cs) (.literal before :: ⟨text, .expression e⟩ :: parts) := by
  generalize hparts : ⟨text, .expression e⟩ :: parts = whole at h
  cases h with
  | last _ =>
    unfold literalParts at hparts
    split at hparts <;> cases hparts
  | @next literal text' e' after parts' _ he hafter =>
    by_cases hnil : literal = []
    · subst hnil
      have hnext := Reads.next hbefore he hafter
      rwa [literalParts, if_neg hne] at hnext
    · rw [literalParts, if_neg hnil] at hparts
      cases hparts

theorem Reading.reads {cs : List Char} {parts : List Part} (h : Reading cs parts) :
    Reads cs parts := by
  induction parts generalizing cs with
  | nil =>
    obtain rfl : [] = cs := h.covers
    exact .last not_opener_infix_nil
  | cons part rest ih =>
    obtain ⟨happart, hchain⟩ := List.isChain_cons.mp h.apart
    have hrest : Reads (rest.flatMap Part.text) rest :=
      ih ⟨rfl, fun p hp => h.wellformed p (List.mem_cons_of_mem part hp), hchain⟩
    obtain rfl : part.text ++ rest.flatMap Part.text = cs := h.covers
    cases h.wellformed part List.mem_cons_self with
    | @expression text e he =>
      exact .next not_opener_infix_nil he hrest
    | @literal text hne htext =>
      cases rest with
      | nil =>
        have hlast := Reads.last htext
        rw [literalParts, if_neg hne] at hlast
        rwa [List.flatMap_nil, List.append_nil]
      | cons next more =>
        cases h.wellformed next (by simp) with
        | literal _ _ => exact absurd ⟨⟨_, rfl⟩, ⟨_, rfl⟩⟩ (happart _ rfl)
        | expression he => exact hrest.literal_cons hne htext

theorem Reads.unique {cs : List Char} {parts parts' : List Part} (h : Reads cs parts)
    (h' : Reads cs parts') : parts = parts' := by
  induction h generalizing parts' with
  | @last text htext =>
    have hopened := splitOpener_of_no_opener htext
    cases h' with
    | last _ => rfl
    | next hbefore he _ =>
      obtain ⟨body, rfl, _, _⟩ := he.body
      rw [splitOpener_expression hbefore] at hopened
      cases congrArg Prod.snd hopened
  | @next before text e after parts hbefore he _ ih =>
    obtain ⟨body, rfl, hbody, hexpression⟩ := he.body
    have hopened := splitOpener_expression hbefore body after
    have hclosed := hbody.splitBody_eq after
    generalize before ++ (opener ++ body ++ ['\x7d'] ++ after) = cs at h' hopened
    cases h' with
    | last htext =>
      rw [splitOpener_of_no_opener htext] at hopened
      cases hopened
    | next hbefore' he' hafter' =>
      obtain ⟨body', rfl, hbody', hexpression'⟩ := he'.body
      -- both are cut at the same places, so both have the same body
      rw [splitOpener_expression hbefore', Prod.mk.injEq, Option.some.injEq] at hopened
      obtain ⟨rfl, hinner⟩ := hopened
      rw [← hinner, hbody'.splitBody_eq, Option.some.injEq, Prod.mk.injEq] at hclosed
      obtain ⟨rfl, rfl⟩ := hclosed
      rw [hexpression'] at hexpression
      cases hexpression
      rw [ih hafter']

/-- A text has one reading at most. -/
theorem Reading.unique {cs : List Char} {parts parts' : List Part} (h : Reading cs parts)
    (h' : Reading cs parts') : parts = parts' :=
  h.reads.unique h'.reads

/-! ## Compiling -/

theorem parseSegments_of_reads {cs : List Char} {parts : List Part} (h : Reads cs parts) :
    parseSegments cs = .ok (parts.map Part.segment) := by
  induction h with
  | @last text htext =>
    have hopened := splitOpener_of_no_opener htext
    unfold parseSegments
    split
    · rename_i before hsplit
      rw [hopened] at hsplit
      cases hsplit
      rw [consLiteral_eq, List.append_nil]
    · rename_i before inner hsplit
      rw [hopened] at hsplit
      cases hsplit
  | @next before text e after parts hbefore he _ ih =>
    obtain ⟨body, rfl, hbody, hexpression⟩ := he.body
    have hopened := splitOpener_expression hbefore body after
    unfold parseSegments
    split
    · rename_i hsplit
      rw [hopened] at hsplit
      cases hsplit
    · rename_i hsplit
      rw [hopened] at hsplit
      cases hsplit
      split
      · rename_i hclosed
        rw [hbody.splitBody_eq] at hclosed
        cases hclosed
      · rename_i hclosed
        rw [hbody.splitBody_eq] at hclosed
        cases hclosed
        rw [hexpression, ih]
        simp only [Except.map, consLiteral_eq, List.map_append, List.map_cons]

theorem reads_of_parseSegments {cs : List Char} {segments : List Segment}
    (h : parseSegments cs = .ok segments) :
    ∃ parts, Reads cs parts ∧ segments = parts.map Part.segment := by
  fun_induction parseSegments cs generalizing segments with
  | case1 cs before hsplit =>
    cases h
    obtain ⟨rfl, hnone⟩ := splitOpener_eq_none hsplit
    refine ⟨_, .last hnone, ?_⟩
    rw [consLiteral_eq, List.append_nil]
  | case2 => cases h
  | case3 => cases h
  | case4 cs before inner hsplit body after hclosed e hexpression ih =>
    obtain ⟨rest, hrest, rfl⟩ := map_ok h
    obtain ⟨parts, hparts, rfl⟩ := ih hrest
    obtain ⟨rfl, hbefore⟩ := splitOpener_eq_some hsplit
    have htext : before ++ opener ++ inner = before ++ (opener ++ body ++ ['\x7d'] ++ after) := by
      rw [splitBody_eq_some hclosed]
      simp
    rw [htext]
    refine ⟨_, .next hbefore (expressionText_of_body hexpression) hparts, ?_⟩
    rw [consLiteral_eq, List.map_append, List.map_cons]

theorem parseSegments_eq_ok_iff {cs : List Char} {segments : List Segment} :
    parseSegments cs = .ok segments ↔
      ∃ parts, Reading cs parts ∧ segments = parts.map Part.segment := by
  constructor
  · intro h
    obtain ⟨parts, hparts, hsegments⟩ := reads_of_parseSegments h
    exact ⟨parts, hparts.reading, hsegments⟩
  · rintro ⟨parts, hparts, rfl⟩
    exact parseSegments_of_reads hparts.reads

/-- What compiles are the texts with a reading. -/
theorem compile_iff_reading (source : String) :
    -- compiling gives the parts of the reading
    (∀ t, compile source = .ok t ↔
      t.source = source ∧
        ∃ parts, Reading source.toList parts ∧ t.segments = parts.map Part.segment) ∧
    -- which is the only one
    (∀ parts parts', Reading source.toList parts → Reading source.toList parts' →
      parts = parts') ∧
    -- and a text without a reading is reported as a whole
    ((¬ ∃ parts, Reading source.toList parts) ↔
      ∃ details, compile source = .error (.malformed source details)) := by
  refine ⟨fun t => ?_, fun _ _ h h' => h.unique h', ?_⟩
  · rw [← parseSegments_eq_ok_iff]
    unfold compile
    obtain ⟨tsource, tsegments⟩ := t
    cases parseSegments source.toList with
    | error details => simp
    | ok segments => simp [eq_comm]
  · have hparse (segments : List Segment) := @parseSegments_eq_ok_iff source.toList segments
    unfold compile
    cases hresult : parseSegments source.toList with
    | error details =>
      refine iff_of_true ?_ ⟨details, rfl⟩
      rintro ⟨parts, hparts⟩
      have hok := (hparse _).mpr ⟨parts, hparts, rfl⟩
      rw [hresult] at hok
      cases hok
    | ok segments =>
      refine iff_of_false ?_ nofun
      obtain ⟨parts, hparts, -⟩ := (hparse segments).mp hresult
      exact fun hnone => hnone ⟨parts, hparts⟩

end ReplyStage.Template
