import ReplyStage.Proofs.Template.ClosingBrace
import ReplyStage.Proofs.Template.Reading
/-!
# Offsets lie between characters

The loop that cuts a template at offsets takes the same cuts as `compile`. Each offset that it comes
to is the size of a part of the text, so it is a boundary of characters whatever their sizes are,
and every slice exists (`Cutting.turn_ne_torn`). What a turn does is told without offsets, one lemma
for each way it can go, and the whole loop by induction along the segments (`Cutting.finish_eq`).
-/

namespace ReplyStage.Template

/-! ## Slices -/

theorem isValid_append (before after : String) :
    String.Pos.Raw.IsValid (before ++ after) ⟨before.utf8ByteSize⟩ :=
  String.Pos.Raw.isValid_iff_exists_append.mpr ⟨before, after, rfl, rfl⟩

theorem slice_append (before part after : String) :
    slice (before ++ part ++ after) before.utf8ByteSize (before ++ part).utf8ByteSize =
      .ok part := by
  have hstart : String.Pos.Raw.IsValid (before ++ part ++ after) ⟨before.utf8ByteSize⟩ := by
    rw [String.append_assoc]
    exact isValid_append before (part ++ after)
  have hle : before.utf8ByteSize ≤ (before ++ part).utf8ByteSize := by simp
  rw [slice, dif_pos ⟨hstart, isValid_append (before ++ part) after, hle⟩]
  congr 1
  have hbytes : (before.toByteArray ++ (part.toByteArray ++ after.toByteArray)).extract
      (before.toByteArray.size + 0) (before.toByteArray.size + part.toByteArray.size) =
        part.toByteArray := by
    rw [ByteArray.extract_append_size_add, ByteArray.extract_append_eq_left rfl]
  rw [← String.toByteArray_inj, String.toByteArray_extract]
  simpa [ByteArray.append_assoc] using hbytes

/-- The slice up to the end of the text. -/
theorem slice_rest (before after : String) :
    slice (before ++ after) before.utf8ByteSize (before ++ after).utf8ByteSize = .ok after := by
  have h := slice_append before after ""
  rwa [String.append_empty] at h

theorem slice_start (before after : String) :
    slice (before ++ after) 0 before.utf8ByteSize = .ok before := by
  have h := slice_append "" before after
  rwa [String.empty_append] at h

/-! ## Openers -/

theorem findOpener_eq (offset : Nat) (text : List Char) :
    findOpener offset text =
      (splitOpener text).2.map fun _ =>
        offset + (String.ofList (splitOpener text).1).utf8ByteSize := by
  induction text generalizing offset with
  | nil => rfl
  | cons c rest ih =>
    rw [findOpener]
    split
    · rename_i hpre
      obtain ⟨inner, hinner⟩ := List.isPrefixOf_iff_prefix.mp hpre
      rw [← hinner]
      rfl
    · rename_i hpre
      rw [splitOpener_cons fun h => hpre (List.isPrefixOf_iff_prefix.mpr h), ih]
      simp only [size_ofList_cons, Nat.add_assoc]

theorem openerOffset_eq (text : String) :
    openerOffset text =
      (splitOpener text.toList).2.map fun _ =>
        (String.ofList (splitOpener text.toList).1).utf8ByteSize := by
  simp only [openerOffset, findOpener_eq, Nat.zero_add]

/-! ## Turns -/

theorem takeExpression_unterminated (before : String) {inner : String}
    (h : splitBody {} inner.toList = none) :
    takeExpression (before ++ inner) before.utf8ByteSize =
      .error (.malformed "unterminated expression, expected '\x7d'") := by
  have hclosing : closingOffset inner = none := by rw [closingOffset_eq, h, Option.map_none]
  simp only [takeExpression, slice_rest, bind, Except.bind, hclosing]

theorem takeExpression_closed (before : String) {inner : String} {body after : List Char}
    (h : splitBody {} inner.toList = some (body, after)) :
    takeExpression (before ++ inner) before.utf8ByteSize =
      ((expressionOf (Text.trimChars body)).mapError .malformed).map fun e =>
        (e, String.ofList after) := by
  have hclosing : closingOffset inner = some (String.ofList body).utf8ByteSize := by
    rw [closingOffset_eq, h, Option.map_some]
  have hinner : inner = String.ofList body ++ "\x7d" ++ String.ofList after := by
    apply String.toList_injective
    simp [splitBody_eq_some h]
  have hbody : slice (before ++ inner) before.utf8ByteSize
      (before.utf8ByteSize + (String.ofList body).utf8ByteSize) = .ok (String.ofList body) := by
    have hslice := slice_append before (String.ofList body) ("\x7d" ++ String.ofList after)
    simpa only [hinner, String.append_assoc, String.utf8ByteSize_append] using hslice
  have hrest : slice (before ++ inner)
      (before.utf8ByteSize + (String.ofList body).utf8ByteSize + 1) (before ++ inner).utf8ByteSize =
        .ok (String.ofList after) := by
    have hslice := slice_rest (before ++ (String.ofList body ++ "\x7d")) (String.ofList after)
    have hbrace : "\x7d".utf8ByteSize = 1 := rfl
    simpa only [hinner, String.append_assoc, String.utf8ByteSize_append, hbrace, Nat.add_assoc]
      using hslice
  simp only [takeExpression, slice_rest, bind, Except.bind, hclosing, hbody, hrest,
    String.toList_ofList]
  cases expressionOf (Text.trimChars body) <;> rfl

theorem literalBefore_eq (found : List Segment) (before after : String) :
    (Cutting.mk found (before ++ after)).literalBefore before.utf8ByteSize =
      .ok (found ++ consLiteral before.toList []) := by
  unfold Cutting.literalBefore consLiteral
  split
  · rename_i hpos
    have hne : before.toList ≠ [] := by
      intro hnil
      rw [String.toList_eq_nil_iff] at hnil
      rw [hnil] at hpos
      exact absurd hpos (by decide)
    rw [slice_start, if_neg hne, String.ofList_toList]
    rfl
  · rename_i hpos
    have hnil : before.toList = [] := by
      rw [String.toList_eq_nil_iff, ← String.utf8ByteSize_eq_zero_iff]
      omega
    rw [if_pos hnil, List.append_nil]

section Turn

variable {rest : String} {before inner body after : List Char}

theorem Cutting.turn_last (found : List Segment)
    (hopener : splitOpener rest.toList = (before, none)) :
    (Cutting.mk found rest).turn = .error (.ended (found ++ consLiteral before [])) := by
  have hstart : openerOffset rest = none := by rw [openerOffset_eq, hopener, Option.map_none]
  simp only [turn, hstart, (splitOpener_eq_none hopener).1]

/-- A turn with an opener takes the literal before it, and goes on with the expression. -/
theorem Cutting.turn_opened (found : List Segment)
    (hopener : splitOpener rest.toList = (before, some inner)) :
    (Cutting.mk found rest).turn =
      (takeExpression (String.ofList (before ++ opener) ++ String.ofList inner)
        (String.ofList (before ++ opener)).utf8ByteSize).map fun r =>
          ⟨found ++ consLiteral before [] ++ [.expression r.1], r.2⟩ := by
  have hrest : rest = String.ofList before ++ (String.ofList opener ++ String.ofList inner) := by
    apply String.toList_injective
    simp [(splitOpener_eq_some hopener).1]
  have hstart : openerOffset rest = some (String.ofList before).utf8ByteSize := by
    rw [openerOffset_eq, hopener, Option.map_some]
  have hsize : (String.ofList before).utf8ByteSize + openerSize =
      (String.ofList (before ++ opener)).utf8ByteSize := by
    rw [String.ofList_append, String.utf8ByteSize_append]
    rfl
  have hliteral := literalBefore_eq found (String.ofList before)
    (String.ofList opener ++ String.ofList inner)
  rw [← hrest, String.toList_ofList] at hliteral
  simp only [turn, hstart, hliteral, hsize, bind, Except.bind]
  rw [hrest, ← String.append_assoc, ← String.ofList_append]
  cases takeExpression _ _ <;> rfl

theorem Cutting.turn_unterminated (found : List Segment)
    (hopener : splitOpener rest.toList = (before, some inner))
    (hbrace : splitBody {} inner = none) :
    (Cutting.mk found rest).turn =
      .error (.malformed "unterminated expression, expected '\x7d'") := by
  rw [turn_opened found hopener, takeExpression_unterminated]
  · rfl
  · rwa [String.toList_ofList]

theorem Cutting.turn_closed (found : List Segment)
    (hopener : splitOpener rest.toList = (before, some inner))
    (hbrace : splitBody {} inner = some (body, after)) :
    (Cutting.mk found rest).turn =
      ((expressionOf (Text.trimChars body)).mapError .malformed).map fun e =>
        ⟨found ++ consLiteral before [] ++ [.expression e], String.ofList after⟩ := by
  have hinner : splitBody {} (String.ofList inner).toList = some (body, after) := by
    rwa [String.toList_ofList]
  rw [turn_opened found hopener, takeExpression_closed _ hinner]
  cases expressionOf (Text.trimChars body) <;> rfl

end Turn

/-- A turn asks for no slice that the text does not have. -/
theorem Cutting.turn_ne_torn (s : Cutting) : s.turn ≠ .error .torn := by
  obtain ⟨found, rest⟩ := s
  rcases hopener : splitOpener rest.toList with ⟨before, inner?⟩
  cases inner? with
  | none =>
    rw [turn_last found hopener]
    nofun
  | some inner =>
    cases hbrace : splitBody {} inner with
    | none =>
      rw [turn_unterminated found hopener hbrace]
      nofun
    | some parts =>
      rw [turn_closed found hopener hbrace]
      cases expressionOf (Text.trimChars parts.1) <;> nofun

/-! ## The loop -/

theorem Cutting.finish_eq_turn (s : Cutting) :
    s.finish =
      match s.turn with
      | .error halt => halt
      | .ok next => next.finish := by
  rw [finish]
  split
  · rename_i hturn
    rw [hturn]
  · rename_i hturn
    rw [hturn]

/-- The loop ends with the segments that parsing gives, or with what parsing finds wrong. -/
theorem Cutting.finish_eq (found : List Segment) (rest : String) :
    (Cutting.mk found rest).finish =
      match parseSegments rest.toList with
      | .ok segments => .ended (found ++ segments)
      | .error details => .malformed details := by
  generalize htext : rest.toList = text
  fun_induction parseSegments text generalizing found rest with
  | case1 text before hopener =>
    subst htext
    rw [finish_eq_turn, turn_last found hopener]
  | case2 text before inner hopener hbrace =>
    subst htext
    rw [finish_eq_turn, turn_unterminated found hopener hbrace]
  | case3 text before inner hopener body after hbrace details hexpression =>
    subst htext
    rw [finish_eq_turn, turn_closed found hopener hbrace, hexpression]
    rfl
  | case4 text before inner hopener body after hbrace e hexpression ih =>
    subst htext
    have hturn : (Cutting.mk found rest).turn =
        .ok ⟨found ++ consLiteral before [] ++ [.expression e], String.ofList after⟩ := by
      rw [turn_closed found hopener hbrace, hexpression]
      rfl
    rw [finish_eq_turn, hturn]
    simp only [ih _ _ String.toList_ofList]
    cases parseSegments after with
    | error details => rfl
    | ok segments => simp [Except.map, consLiteral_eq]

/-! ## Offsets -/

/-- Offsets that do not decrease and are boundaries of the characters of a text. -/
structure OnBoundaries (text : String) (offsets : List Nat) : Prop where
  ordered : offsets.Pairwise (· ≤ ·)
  valid : ∀ n ∈ offsets, String.Pos.Raw.IsValid text ⟨n⟩

theorem OnBoundaries.ends (text : String) : OnBoundaries text [0, text.utf8ByteSize] where
  ordered := by simp
  valid := by
    simp only [List.forall_mem_cons]
    exact ⟨String.Pos.Raw.isValid_zero, String.Pos.Raw.isValid_rawEndPos, nofun⟩

/-- Boundaries move along with their text when a part is put in front of it. -/
theorem OnBoundaries.append_left {text : String} {offsets : List Nat}
    (h : OnBoundaries text offsets) (part : String) :
    OnBoundaries (part ++ text) (0 :: offsets.map (part.utf8ByteSize + ·)) where
  ordered := by
    refine List.pairwise_cons.mpr ⟨fun _ _ => Nat.zero_le _, List.pairwise_map.mpr ?_⟩
    exact h.ordered.imp fun hle => Nat.add_le_add_left hle _
  valid := by
    refine List.forall_mem_cons.mpr ⟨String.Pos.Raw.isValid_zero, List.forall_mem_map.mpr ?_⟩
    intro n hn
    exact (h.valid n hn).append_left part

theorem exists_of_openerOffset {text : String} {start : Nat} (h : openerOffset text = some start) :
    ∃ before inner, text = before ++ (String.ofList opener ++ inner) ∧
      start = before.utf8ByteSize := by
  rw [openerOffset_eq] at h
  rcases hopener : splitOpener text.toList with ⟨before, inner?⟩
  rw [hopener, Option.map_eq_some_iff] at h
  obtain ⟨inner, hinner, rfl⟩ := h
  obtain rfl : inner? = some inner := hinner
  refine ⟨String.ofList before, String.ofList inner, ?_, rfl⟩
  apply String.toList_injective
  simp [(splitOpener_eq_some hopener).1]

/-- The offsets of an opener. -/
theorem onBoundaries_opener {text : String} {start : Nat} (h : openerOffset text = some start) :
    OnBoundaries text [0, start, start + openerSize, text.utf8ByteSize] := by
  obtain ⟨before, inner, rfl, rfl⟩ := exists_of_openerOffset h
  have hparts := ((OnBoundaries.ends inner).append_left (String.ofList opener)).append_left before
  simpa [openerSize] using hparts

/-- The text behind an opener is there, and so are the offsets of the expression that it begins
with. -/
theorem exists_inner {text : String} {start : Nat} (h : openerOffset text = some start) :
    ∃ inner, slice text (start + openerSize) text.utf8ByteSize = .ok inner ∧
      ∀ length, closingOffset inner = some length →
        OnBoundaries text [0, start, start + openerSize, start + openerSize + length,
          start + openerSize + length + 1, text.utf8ByteSize] := by
  obtain ⟨before, inner, rfl, rfl⟩ := exists_of_openerOffset h
  have hslice := slice_rest (before ++ String.ofList opener) inner
  rw [String.append_assoc, String.utf8ByteSize_append] at hslice
  refine ⟨inner, hslice, ?_⟩
  intro length hbrace
  obtain ⟨body, after, rfl, -, rfl⟩ := freeBraceAt_closingOffset hbrace
  have hparts := ((((OnBoundaries.ends after).append_left "\x7d").append_left body).append_left
    (String.ofList opener)).append_left before
  have hbraceSize : "\x7d".utf8ByteSize = 1 := rfl
  simpa [openerSize, hbraceSize, Nat.add_assoc, String.append_assoc] using hparts

theorem Cutting.result?_finish (source : String) :
    (Cutting.mk [] source).finish.result? source = some (compile source) := by
  rw [finish_eq, compile]
  cases parseSegments source.toList <;> rfl

/-- Templates are cut at braces outside of strings, between characters, and to their end. -/
theorem offsets_between_characters :
    -- the brace that closes an expression is the first one outside of strings
    (∀ text offset, closingOffset text = some offset ↔ IsLeast {n | FreeBraceAt text n} offset) ∧
    -- and none is found if there is no such brace
    (∀ text, closingOffset text = none ↔ ∀ offset, ¬ FreeBraceAt text offset) ∧
    -- what can be read as a body is what matches the pattern
    (∀ body, body ∈ bodyPattern ↔ ∃ parts, readBody body = some parts) ∧
    -- and behind such a body, with white space around it, the brace that comes next is found
    (∀ ws₁ body ws₂ more : String, Blank ws₁.toList → body.toList ∈ bodyPattern →
      Blank ws₂.toList →
      closingOffset (ws₁ ++ body ++ ws₂ ++ "\x7d" ++ more) =
        some (ws₁ ++ body ++ ws₂).utf8ByteSize) ∧
    -- the offsets of an opener and of the expression behind it lie in the text, between characters
    (∀ text start, openerOffset text = some start →
      OnBoundaries text [0, start, start + openerSize, text.utf8ByteSize] ∧
      ∃ inner, slice text (start + openerSize) text.utf8ByteSize = .ok inner ∧
        ∀ length, closingOffset inner = some length →
          OnBoundaries text [0, start, start + openerSize, start + openerSize + length,
            start + openerSize + length + 1, text.utf8ByteSize]) ∧
    -- so that no turn of the loop misses a slice, and each one leaves less text
    (∀ s : Cutting, s.turn ≠ .error .torn ∧
      ∀ next, s.turn = .ok next → next.rest.utf8ByteSize < s.rest.utf8ByteSize) ∧
    -- until the loop ends with what compiling gives
    ∀ source, (Cutting.mk [] source).finish.result? source = some (compile source) := by
  refine ⟨fun _ _ => closingOffset_eq_some_iff, fun _ => closingOffset_eq_none_iff,
    fun _ => mem_bodyPattern_iff, ?_, ?_, ?_, Cutting.result?_finish⟩
  · intro ws₁ body ws₂ more hws₁ hbody hws₂
    exact closingOffset_body hws₁ hbody hws₂ more
  · intro text start hopener
    exact ⟨onBoundaries_opener hopener, exists_inner hopener⟩
  · intro s
    exact ⟨s.turn_ne_torn, fun _ => Cutting.turn_shortens⟩

/-- For instance, a body with a brace and an escaped quote in its strings, and characters of two and
four bytes. -/
def crowdedBody : String := "meta( \"é\\\"\x7d\" ).or(\"𝄞\x7d\")"

/-- This body in white space of two and three bytes, with a brace behind that closes nothing. -/
def crowdedInner : String := "\u2003" ++ crowdedBody ++ "\u00a0" ++ "\x7d" ++ "ß\x7d"

/-- A template with this body in its only expression. -/
def crowdedTemplate : String := "é$\x7b!" ++ crowdedInner

theorem offsets_between_characters_crowded :
    (crowdedBody.toList ∈ bodyPattern ∧ closingOffset crowdedInner = some 32) ∧
    (openerOffset crowdedTemplate = some 2 ∧
      OnBoundaries crowdedTemplate [0, 2, 5, 37, 38, 41]) ∧
    ∃ next, (Cutting.mk [] crowdedTemplate).turn = .ok next ∧
      next.rest.utf8ByteSize < crowdedTemplate.utf8ByteSize := by
  obtain ⟨-, -, hpattern, hbodies, hoffsets, hturns, -⟩ := offsets_between_characters
  have hbody : crowdedBody.toList ∈ bodyPattern :=
    (hpattern _).mpr ⟨(.metadata, some "é\"\x7d", some "𝄞\x7d"), by decide⟩
  have hclosing : closingOffset crowdedInner = some 32 :=
    hbodies "\u2003" crowdedBody "\u00a0" "ß\x7d" (by decide) hbody (by decide)
  have hopener : openerOffset crowdedTemplate = some 2 := by decide
  obtain ⟨-, inner, hinner, hoffset⟩ := hoffsets crowdedTemplate 2 hopener
  have hslice : slice crowdedTemplate (2 + openerSize) crowdedTemplate.utf8ByteSize =
      .ok crowdedInner := slice_rest "é$\x7b!" crowdedInner
  obtain rfl : inner = crowdedInner := Except.ok.inj (hinner.symm.trans hslice)
  have hcut := hoffset 32 hclosing
  have hsize : crowdedTemplate.utf8ByteSize = 41 := by decide
  have hopenerSize : openerSize = 3 := by decide
  simp only [hsize, hopenerSize] at hcut
  have hopened : splitOpener crowdedTemplate.toList = (['é'], some crowdedInner.toList) := by decide
  have hclosed : splitBody {} crowdedInner.toList =
      some (("\u2003" ++ crowdedBody ++ "\u00a0").toList, ['ß', '\x7d']) := by decide
  have hturn := Cutting.turn_closed [] hopened hclosed
  have hexpression : expressionOf (Text.trimChars ("\u2003" ++ crowdedBody ++ "\u00a0").toList) =
      .ok ⟨.metadata "é\"\x7d", some "𝄞\x7d"⟩ := by rfl
  rw [hexpression] at hturn
  exact ⟨⟨hbody, hclosing⟩, ⟨hopener, hcut⟩, _, hturn, (hturns _).2 _ hturn⟩

end ReplyStage.Template
