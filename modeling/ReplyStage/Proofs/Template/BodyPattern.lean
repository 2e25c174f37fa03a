import Mathlib.Computability.Language
import ReplyStage.Proofs.Template.Calls
import ReplyStage.Proofs.Template.Cutting
/-!
# The pattern of a body

The regular expression that tells the body of an expression, as a language: its concatenations,
alternatives and repetitions are those of languages. The reader of bodies accepts this language
(`mem_bodyPattern_iff`), including calls without an argument that they need and with one that they
cannot have, since the pattern does not look at the name of the function.
-/

namespace ReplyStage.Template

open scoped Computability

/-! ## The parts of the pattern -/

/-- One character of a kind. -/
def oneOf (kind : Char → Prop) : Language Char := {text | ∃ c, kind c ∧ text = [c]}

/-- White space. -/
def blankPattern : Language Char := (oneOf fun c => Text.isBlank c = true)∗

/-- Between quotes: characters other than quotes and backslashes, and a backslash with any character
but a line feed. -/
def rawPattern : Language Char :=
  (oneOf (fun c => c ≠ '"' ∧ c ≠ '\\') + {['\\']} * oneOf (· ≠ '\n'))∗

/-- A string with its quotes. -/
def quotedPattern : Language Char := {['"']} * rawPattern * {['"']}

/-- Between parentheses: a string that may be missing. -/
def argumentPattern : Language Char := blankPattern * (quotedPattern + 1) * blankPattern

/-- Behind a call: a default that may be missing. -/
def defaultPattern : Language Char :=
  blankPattern * {".or(".toList} * (blankPattern * quotedPattern * blankPattern) * {[')']} + 1

/-- A call with what stands behind it. -/
def bodyPattern : Language Char :=
  ({"meta".toList} + {"json".toList} + {"content".toList}) * {['(']} * argumentPattern * {[')']} *
    defaultPattern

/-! ## What the parts hold -/

theorem mem_word (word : List Char) : word ∈ ({word} : Language Char) := rfl

theorem mem_kstar_cons {l : Language Char} {first rest : List Char} (hfirst : first ∈ l)
    (hrest : rest ∈ l∗) : first ++ rest ∈ l∗ := by
  rw [← Language.one_add_self_mul_kstar_eq_kstar]
  exact .inr (Language.append_mem_mul hfirst hrest)

theorem mem_blankPattern {ws : List Char} : ws ∈ blankPattern ↔ Blank ws := by
  constructor
  · intro h
    obtain ⟨chars, rfl, hchars⟩ := Language.mem_kstar.mp h
    intro c hc
    obtain ⟨text, htext, hmem⟩ := List.mem_flatten.mp hc
    obtain ⟨d, hd, rfl⟩ := hchars text htext
    rwa [List.mem_singleton.mp hmem]
  · intro h
    induction ws with
    | nil => exact Language.nil_mem_kstar _
    | cons c rest ih =>
      have hc : [c] ∈ oneOf fun c => Text.isBlank c = true := ⟨c, h c List.mem_cons_self, rfl⟩
      exact mem_kstar_cons hc (ih fun d hd => h d (List.mem_cons_of_mem c hd))

theorem mem_rawPattern {raw : List Char} : raw ∈ rawPattern ↔ ∃ value, StringText raw value := by
  constructor
  · intro h
    obtain ⟨pieces, rfl, hpieces⟩ := Language.mem_kstar.mp h
    clear h
    induction pieces with
    | nil => exact ⟨[], .nil⟩
    | cons piece rest ih =>
      have hrest := fun y hy => hpieces y (List.mem_cons_of_mem piece hy)
      obtain ⟨value, hvalue⟩ := ih hrest
      rcases hpieces piece List.mem_cons_self with ⟨c, ⟨hquote, hescape⟩, rfl⟩ | hescape
      · exact ⟨c :: value, .plain hquote hescape hvalue⟩
      · obtain ⟨_, rfl, _, ⟨c, hc, rfl⟩, rfl⟩ := Language.mem_mul.mp hescape
        exact ⟨c :: value, .escape hc hvalue⟩
  · rintro ⟨value, h⟩
    induction h with
    | nil => exact Language.nil_mem_kstar _
    | @plain c raw _ hquote hescape _ ih =>
      exact mem_kstar_cons (.inl ⟨c, ⟨hquote, hescape⟩, rfl⟩) ih
    | @escape c raw _ hc _ ih =>
      have hpiece : ['\\'] ++ [c] ∈ {['\\']} * oneOf (· ≠ '\n') :=
        Language.append_mem_mul rfl ⟨c, hc, rfl⟩
      exact mem_kstar_cons (.inr hpiece) ih

theorem mem_quotedPattern {text : List Char} :
    text ∈ quotedPattern ↔ ∃ value, QuotedText text value := by
  constructor
  · intro h
    obtain ⟨_, ⟨_, rfl, raw, hraw, rfl⟩, _, rfl, rfl⟩ := h
    obtain ⟨value, hvalue⟩ := mem_rawPattern.mp hraw
    exact ⟨_, .intro hvalue⟩
  · rintro ⟨_, @⟨raw, value, hraw⟩⟩
    have hopened : ['"'] ++ raw ∈ {['"']} * rawPattern :=
      Language.append_mem_mul rfl (mem_rawPattern.mpr ⟨value, hraw⟩)
    exact Language.append_mem_mul hopened rfl

theorem Blank.append {ws more : List Char} (h : Blank ws) (h' : Blank more) :
    Blank (ws ++ more) := by
  intro c hc
  rcases List.mem_append.mp hc with hc | hc
  · exact h c hc
  · exact h' c hc

theorem mem_given {text : List Char} :
    text ∈ blankPattern * quotedPattern * blankPattern ↔
      ∃ value, ArgumentText text (some value) := by
  constructor
  · rintro ⟨_, ⟨ws₁, hws₁, quoted, hquoted, rfl⟩, ws₂, hws₂, rfl⟩
    obtain ⟨value, hvalue⟩ := mem_quotedPattern.mp hquoted
    exact ⟨value, .given (mem_blankPattern.mp hws₁) hvalue (mem_blankPattern.mp hws₂)⟩
  · rintro ⟨value, h⟩
    cases h with
    | given hws₁ hquoted hws₂ =>
      have hstart := Language.append_mem_mul (mem_blankPattern.mpr hws₁)
        (mem_quotedPattern.mpr ⟨value, hquoted⟩)
      exact Language.append_mem_mul hstart (mem_blankPattern.mpr hws₂)

theorem mem_argumentPattern {text : List Char} :
    text ∈ argumentPattern ↔ ∃ argument, ArgumentText text argument := by
  rw [argumentPattern, mul_add, add_mul, Language.mem_add, mem_given, mul_one]
  constructor
  · rintro (⟨value, h⟩ | ⟨ws₁, hws₁, ws₂, hws₂, rfl⟩)
    · exact ⟨some value, h⟩
    · exact ⟨none, .absent ((mem_blankPattern.mp hws₁).append (mem_blankPattern.mp hws₂))⟩
  · rintro ⟨argument, h⟩
    cases h with
    | absent hws =>
      have hnil : [] ∈ blankPattern := Language.nil_mem_kstar _
      have hboth := Language.append_mem_mul (mem_blankPattern.mpr hws) hnil
      rw [List.append_nil] at hboth
      exact .inr hboth
    | given hws₁ hquoted hws₂ => exact .inl ⟨_, .given hws₁ hquoted hws₂⟩

theorem mem_defaultPattern {text : List Char} :
    text ∈ defaultPattern ↔ ∃ default, DefaultText text default := by
  constructor
  · rintro (⟨_, ⟨_, ⟨ws, hws, _, rfl, rfl⟩, given, hgiven, rfl⟩, _, rfl, rfl⟩ | rfl)
    · obtain ⟨value, hvalue⟩ := mem_given.mp hgiven
      exact ⟨some value, .given (mem_blankPattern.mp hws) hvalue⟩
    · exact ⟨none, .absent⟩
  · rintro ⟨default, h⟩
    cases h with
    | absent => exact .inr rfl
    | given hws hvalue =>
      have hstart := Language.append_mem_mul (mem_blankPattern.mpr hws)
        (mem_word ".or(".toList)
      have hopened := Language.append_mem_mul hstart (mem_given.mpr ⟨_, hvalue⟩)
      exact .inl (Language.append_mem_mul hopened rfl)

/-! ## Bodies -/

theorem mem_opening {text : List Char} :
    text ∈ ({"meta".toList} + {"json".toList} + {"content".toList} : Language Char) * {['(']} ↔
      ∃ call : Call, text = call.opening := by
  constructor
  · rintro ⟨_, (rfl | rfl) | rfl, _, rfl, rfl⟩
    · exact ⟨.metadata, rfl⟩
    · exact ⟨.json, rfl⟩
    · exact ⟨.content, rfl⟩
  · rintro ⟨call, rfl⟩
    cases call with
    | metadata => exact ⟨"meta".toList, Or.inl (Or.inl rfl), ['('], rfl, rfl⟩
    | json => exact ⟨"json".toList, Or.inl (Or.inr rfl), ['('], rfl, rfl⟩
    | content => exact ⟨"content".toList, Or.inr rfl, ['('], rfl, rfl⟩

/-- The bodies of the pattern are calls as the grammar has them, but for what the functions need. -/
theorem mem_bodyPattern {body : List Char} :
    body ∈ bodyPattern ↔ ∃ call text argument more default,
      ArgumentText text argument ∧ DefaultText more default ∧
        body = Call.opening call ++ text ++ [')'] ++ more := by
  constructor
  · rintro ⟨_, ⟨_, ⟨opening, hopening, text, htext, rfl⟩, _, rfl, rfl⟩, more, hmore, rfl⟩
    obtain ⟨call, rfl⟩ := mem_opening.mp hopening
    obtain ⟨argument, hargument⟩ := mem_argumentPattern.mp htext
    obtain ⟨default, hdefault⟩ := mem_defaultPattern.mp hmore
    exact ⟨call, text, argument, more, default, hargument, hdefault, rfl⟩
  · rintro ⟨call, text, argument, more, default, hargument, hdefault, rfl⟩
    have hopened := Language.append_mem_mul (mem_opening.mpr ⟨call, rfl⟩)
      (mem_argumentPattern.mpr ⟨argument, hargument⟩)
    have hclosed := Language.append_mem_mul hopened (mem_word [')'])
    exact Language.append_mem_mul hclosed (mem_defaultPattern.mpr ⟨default, hdefault⟩)

/-- The reader of bodies accepts what matches the pattern. -/
theorem mem_bodyPattern_iff {body : List Char} :
    body ∈ bodyPattern ↔ ∃ parts, readBody body = some parts := by
  rw [mem_bodyPattern]
  constructor
  · rintro ⟨call, text, argument, more, default, hargument, hdefault, hbody⟩
    exact ⟨(call, argument, default),
      readBody_eq_some_iff.mpr ⟨text, more, hargument, hdefault, hbody⟩⟩
  · rintro ⟨⟨call, argument, default⟩, h⟩
    obtain ⟨text, more, hargument, hdefault, hbody⟩ := readBody_eq_some_iff.mp h
    exact ⟨call, text, argument, more, default, hargument, hdefault, hbody⟩

end ReplyStage.Template
