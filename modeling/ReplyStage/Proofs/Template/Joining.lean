import ReplyStage.Proofs.Template.Cutting
import ReplyStage.Proofs.Template.Evaluation
/-!
# Templates one after another

A text behind a template is cut as if it stood alone, as long as no opener begins in the one and
ends in the other: the scanner is outside of every string where an expression is closed, and what it
has seen before does not count. So the segments of the two are those of the first and then those of
the second, with the literals that meet at the join made one (`parseSegments_append`). Nor does the
value of the second depend on the first, although they share the document of the payload.
-/

namespace ReplyStage.Template

/-! ## Openers across a join -/

/-- An opener begins in one text and ends in the next. -/
inductive Straddles (first second : List Char) : Prop
  | afterOne : ['$'] <:+ first → ['\x7b', '!'] <+: second → Straddles first second
  | afterTwo : ['$', '\x7b'] <:+ first → ['!'] <+: second → Straddles first second

theorem Straddles.mono {part first second : List Char} (h : Straddles part second)
    (hpart : part <:+ first) : Straddles first second := by
  cases h with
  | afterOne hend hbegin => exact .afterOne (hend.trans hpart) hbegin
  | afterTwo hend hbegin => exact .afterTwo (hend.trans hpart) hbegin

/-- An opener at the beginning of two texts in a row begins one of them, or straddles them. -/
theorem opener_prefix_append {first second : List Char} (h : opener <+: first ++ second) :
    first = [] ∨ opener <+: first ∨ Straddles first second := by
  obtain ⟨rest, hrest⟩ := h
  match first with
  | [] => exact .inl rfl
  | [c] =>
    simp only [opener, List.cons_append, List.nil_append, List.cons.injEq] at hrest
    obtain ⟨rfl, hsecond⟩ := hrest
    exact .inr (.inr (.afterOne (List.suffix_refl _) ⟨rest, hsecond⟩))
  | [c, d] =>
    simp only [opener, List.cons_append, List.nil_append, List.cons.injEq] at hrest
    obtain ⟨rfl, rfl, hsecond⟩ := hrest
    exact .inr (.inr (.afterTwo (List.suffix_refl _) ⟨rest, hsecond⟩))
  | c :: d :: e :: more =>
    simp only [opener, List.cons_append, List.nil_append, List.cons.injEq] at hrest
    obtain ⟨rfl, rfl, rfl, -⟩ := hrest
    exact .inr (.inl ⟨more, rfl⟩)

/-- The first opener of two texts in a row is that of the second, where the first has none. -/
theorem splitOpener_append_of_free {first second : List Char} (hfree : ¬ opener <:+: first)
    (apart : ¬ Straddles first second) :
    splitOpener (first ++ second) = (first ++ (splitOpener second).1, (splitOpener second).2) := by
  induction first with
  | nil => rfl
  | cons c rest ih =>
    have hrest : ¬ opener <:+: rest := fun hin => hfree (hin.trans (List.suffix_cons c rest).isInfix)
    have hpre : ¬ opener <+: c :: rest ++ second := fun hpre => by
      rcases opener_prefix_append hpre with hnil | hpre | hstraddles
      · cases hnil
      · exact hfree hpre.isInfix
      · exact apart hstraddles
    rw [List.cons_append] at hpre ⊢
    rw [splitOpener_cons hpre, ih hrest fun hs => apart (hs.mono (List.suffix_cons c rest))]
    rfl

/-! ## The segments of two texts -/

/-- A body that is closed is closed at the same brace whatever comes after it. -/
theorem splitBody_append {p : Place} {cs body after : List Char}
    (h : splitBody p cs = some (body, after)) (more : List Char) :
    splitBody p (cs ++ more) = some (body, after ++ more) := by
  induction cs generalizing p body with
  | nil => cases h
  | cons c rest ih =>
    rw [splitBody] at h
    rw [List.cons_append, splitBody]
    split at h
    · rename_i hc
      cases h
      rw [if_pos hc]
    · rename_i hc
      rw [if_neg hc]
      split at h
      · cases h
      · rename_i body' after' hrest
        cases h
        rw [ih hrest]

/-- A literal in front of segments, joined with a literal that they begin with. -/
def joinLiteral (text : String) : List Segment → List Segment
  | .literal more :: rest => .literal (text ++ more) :: rest
  | segments => .literal text :: segments

/-- Segments in front of others, with the literals that meet made one. -/
def joinSegments : List Segment → List Segment → List Segment
  | [], more => more
  | [.literal text], more => joinLiteral text more
  | segment :: rest, more => segment :: joinSegments rest more

theorem joinSegments_expression (e : Expression) (rest more : List Segment) :
    joinSegments (.expression e :: rest) more = .expression e :: joinSegments rest more := by
  rw [joinSegments]
  rintro _ ⟨⟩

theorem joinSegments_consLiteral (before : List Char) (e : Expression) (rest more : List Segment) :
    joinSegments (consLiteral before (.expression e :: rest)) more =
      consLiteral before (.expression e :: joinSegments rest more) := by
  unfold consLiteral
  split
  · exact joinSegments_expression e rest more
  · rw [joinSegments, joinSegments_expression]
    rintro _ _ ⟨⟩

theorem joinLiteral_consLiteral {text : List Char} (before : List Char) {rest : List Segment}
    (hne : text ≠ []) (hrest : ∀ literal more, rest ≠ .literal literal :: more) :
    joinLiteral (String.ofList text) (consLiteral before rest) = consLiteral (text ++ before) rest := by
  have hboth : text ++ before ≠ [] := by simp [hne]
  unfold consLiteral
  rw [if_neg hboth]
  split
  · rename_i hnil
    rw [joinLiteral, hnil, List.append_nil]
    exact hrest
  · rw [joinLiteral, String.ofList_append]

/-- The segments of a text from its first opener on. -/
def parseOpened : Option (List Char) → Except String (List Segment)
  | none => .ok []
  | some inner =>
    match splitBody {} inner with
    | none => .error "unterminated expression, expected '\x7d'"
    | some (body, after) =>
      match expressionOf (Text.trimChars body) with
      | .error details => .error details
      | .ok e => (parseSegments after).map (.expression e :: ·)

/-- The literal before the first opener stands in front of what is parsed from there on. -/
theorem parseSegments_eq (cs : List Char) : parseSegments cs =
    (parseOpened (splitOpener cs).2).map (consLiteral (splitOpener cs).1) := by
  unfold parseSegments
  split
  · rename_i hsplit
    rw [hsplit]
    rfl
  · rename_i hsplit
    rw [hsplit]
    simp only [parseOpened]
    split
    · rename_i hclosed
      rw [hclosed]
      rfl
    · rename_i hclosed
      rw [hclosed]
      split
      · rename_i hexpression
        simp only [hexpression]
        rfl
      · rename_i after _ e hexpression
        simp only [hexpression]
        cases parseSegments after <;> rfl

theorem ne_literal_of_parseOpened {opened : Option (List Char)} {segments : List Segment}
    (h : parseOpened opened = .ok segments) (literal : String) (more : List Segment) :
    segments ≠ .literal literal :: more := by
  rintro rfl
  unfold parseOpened at h
  split at h
  · cases h
  · split at h
    · cases h
    · split at h
      · cases h
      · obtain ⟨_, -, hsegments⟩ := map_ok h
        cases hsegments

/-- A text without an opener becomes part of the literal that it is put in front of. -/
theorem parseSegments_append_of_free {text more : List Char} (hne : text ≠ [])
    (hfree : ¬ opener <:+: text) (apart : ¬ Straddles text more) :
    parseSegments (text ++ more) = (parseSegments more).map (joinLiteral (String.ofList text)) := by
  rw [parseSegments_eq, parseSegments_eq more, splitOpener_append_of_free hfree apart]
  cases hopened : parseOpened (splitOpener more).2 with
  | error details => rfl
  | ok rest =>
    have hrest := ne_literal_of_parseOpened hopened
    exact congrArg Except.ok (joinLiteral_consLiteral (splitOpener more).1 hne hrest).symm

/-- What is parsed behind a text that compiles is parsed as if it stood alone. -/
theorem parseSegments_append {cs more : List Char} {segments : List Segment}
    (h : parseSegments cs = .ok segments) (apart : ¬ Straddles cs more) :
    parseSegments (cs ++ more) = (parseSegments more).map (joinSegments segments) := by
  fun_induction parseSegments cs generalizing segments with
  | case1 cs before hsplit =>
    cases h
    obtain ⟨rfl, hfree⟩ := splitOpener_eq_none hsplit
    unfold consLiteral
    split
    · rename_i hnil
      rw [hnil]
      cases hmore : parseSegments more <;> simp [hmore, Except.map, joinSegments]
    · rename_i hne
      exact parseSegments_append_of_free hne hfree apart
  | case2 => cases h
  | case3 => cases h
  | case4 cs before inner hsplit body after hclosed e hexpression ih =>
    obtain ⟨rest, hrest, rfl⟩ := map_ok h
    obtain ⟨rfl, hbefore⟩ := splitOpener_eq_some hsplit
    have hafter : after <:+ before ++ opener ++ inner := by
      rw [splitBody_eq_some hclosed]
      exact ⟨before ++ opener ++ (body ++ ['\x7d']), by simp⟩
    have hmore := ih hrest fun hs => apart (hs.mono hafter)
    have hopened : splitOpener (before ++ opener ++ inner ++ more) = (before, some (inner ++ more)) := by
      rw [List.append_assoc]
      exact splitOpener_append hbefore (inner ++ more)
    rw [parseSegments_eq, hopened]
    simp only [parseOpened, splitBody_append hclosed more, hexpression, hmore]
    cases parseSegments more with
    | error details => rfl
    | ok others => exact congrArg Except.ok (joinSegments_consLiteral before e rest others).symm

/-! ## The value of two texts -/

variable {record : Record}

theorem valueOfSegments_joinLiteral (text : String) (segments : List Segment) :
    valueOfSegments record (joinLiteral text segments) =
      (valueOfSegments record segments).map (text ++ ·) := by
  unfold joinLiteral
  split
  · rename_i more rest
    simp only [valueOfSegments, Segment.value]
    cases valueOfSegments record rest with
    | error e => rfl
    | ok value => exact congrArg Except.ok String.append_assoc
  · simp only [valueOfSegments, Segment.value]
    cases valueOfSegments record segments <;> rfl

/-- Joining literals does not show in the value. -/
theorem valueOfSegments_joinSegments (segments more : List Segment) :
    valueOfSegments record (joinSegments segments more) = do
      let left ← valueOfSegments record segments
      let right ← valueOfSegments record more
      return left ++ right := by
  fun_induction joinSegments segments more with
  | case1 more =>
    simp only [valueOfSegments]
    cases valueOfSegments record more <;> simp [bind, Except.bind, pure, Except.pure]
  | case2 text more =>
    rw [valueOfSegments_joinLiteral]
    cases valueOfSegments record more <;>
      simp [valueOfSegments, Segment.value, bind, Except.bind, pure, Except.pure, Except.map]
  | case3 segment rest more _ ih =>
    rw [valueOfSegments, valueOfSegments, ih]
    cases segment.value record with
    | error e => rfl
    | ok text =>
      cases valueOfSegments record rest with
      | error e => rfl
      | ok left =>
        cases valueOfSegments record more with
        | error e => rfl
        | ok right => exact congrArg Except.ok String.append_assoc.symm

/-! ## Two templates -/

theorem compile_eq_ok_iff {source : String} {t : Template} :
    compile source = .ok t ↔ t.source = source ∧ parseSegments source.toList = .ok t.segments := by
  unfold compile
  obtain ⟨tsource, tsegments⟩ := t
  cases parseSegments source.toList <;> simp [eq_comm]

theorem exists_compile_iff {source : String} :
    (∃ t, compile source = .ok t) ↔ ∃ segments, parseSegments source.toList = .ok segments := by
  simp only [compile_eq_ok_iff]
  constructor
  · rintro ⟨t, -, hsegments⟩
    exact ⟨t.segments, hsegments⟩
  · rintro ⟨segments, hsegments⟩
    exact ⟨⟨source, segments⟩, rfl, hsegments⟩

/-- A text behind a template compiles as it does alone, and so it is evaluated. -/
theorem compile_append {source₁ source₂ : String} {first : Template}
    (h : compile source₁ = .ok first) (apart : ¬ Straddles source₁.toList source₂.toList) :
    -- The two texts are a template if the second one is.
    ((∃ both, compile (source₁ ++ source₂) = .ok both) ↔ ∃ second, compile source₂ = .ok second) ∧
    ∀ second both, compile source₂ = .ok second → compile (source₁ ++ source₂) = .ok both →
      -- Its segments are those of the first and those of the second,
      both.segments = joinSegments first.segments second.segments ∧
      ∀ record,
        -- its value is the two values one after the other,
        (∀ left right, first.evaluate record = .ok left → second.evaluate record = .ok right →
          both.evaluate record = .ok (left ++ right)) ∧
        -- and its error that of the first, or else that of the second.
        (∀ e, first.evaluate record = .error e → both.evaluate record = .error e) ∧
        (∀ left e, first.evaluate record = .ok left → second.evaluate record = .error e →
          both.evaluate record = .error e) := by
  obtain ⟨-, hfirst⟩ := compile_eq_ok_iff.mp h
  have hboth : parseSegments (source₁ ++ source₂).toList =
      (parseSegments source₂.toList).map (joinSegments first.segments) := by
    rw [String.toList_append]
    exact parseSegments_append hfirst apart
  constructor
  · rw [exists_compile_iff, exists_compile_iff, hboth]
    cases parseSegments source₂.toList <;> simp [Except.map]
  · intro second both hsecond hcompile
    obtain ⟨-, hsecond⟩ := compile_eq_ok_iff.mp hsecond
    obtain ⟨-, hcompile⟩ := compile_eq_ok_iff.mp hcompile
    rw [hboth, hsecond] at hcompile
    have hsegments : both.segments = joinSegments first.segments second.segments :=
      (Except.ok.inj hcompile).symm
    refine ⟨hsegments, fun record => ?_⟩
    have hvalue : both.evaluate record = do
        let left ← first.evaluate record
        let right ← second.evaluate record
        return left ++ right := by
      rw [evaluate_eq, evaluate_eq, evaluate_eq, hsegments, valueOfSegments_joinSegments]
    rw [hvalue]
    refine ⟨fun left right hleft hright => ?_, fun e he => ?_, fun left e hleft he => ?_⟩
    · rw [hleft, hright]
      rfl
    · rw [he]
      rfl
    · rw [hleft, he]
      rfl

/-- For instance, a template that ends like the beginning of an opener, and a text that begins like
the end of one. -/
def dollarTemplate : Template where
  source := "$\x7b! json(\"a\").or(\"x\") \x7d$"
  segments := [.expression ⟨.json (some "a"), some "x"⟩, .literal "$"]

def braceTemplate : Template where
  source := "\x7b$\x7b! json(\"b\") \x7d"
  segments := [.literal "\x7b", .expression ⟨.json (some "b"), none⟩]

theorem compile_append_dollar :
    compile dollarTemplate.source = .ok dollarTemplate ∧
      ¬ Straddles dollarTemplate.source.toList braceTemplate.source.toList ∧
      ∃ both, compile (dollarTemplate.source ++ braceTemplate.source) = .ok both ∧
        both.segments.length = 3 ∧
        -- with a payload that has a value for the second one, and with one that has none
        both.evaluate (.ofPayload "\x7b\"b\":7\x7d".toUTF8.toList) = .ok "x$\x7b7" ∧
        both.evaluate (.ofPayload "\x7b\x7d".toUTF8.toList) = .error (.missingField "b") := by
  have hfirst : compile dollarTemplate.source = .ok dollarTemplate :=
    ok_of_toOption (by decide +kernel)
  have hsecond : compile braceTemplate.source = .ok braceTemplate :=
    ok_of_toOption (by decide +kernel)
  have apart : ¬ Straddles dollarTemplate.source.toList braceTemplate.source.toList := by
    rintro (⟨-, hbegin⟩ | ⟨-, hbegin⟩)
    · revert hbegin
      decide +kernel
    · revert hbegin
      decide +kernel
  obtain ⟨hcompile, hboth⟩ := compile_append hfirst apart
  obtain ⟨both, hjoined⟩ := hcompile.mpr ⟨braceTemplate, hsecond⟩
  obtain ⟨hsegments, hevaluate⟩ := hboth _ _ hsecond hjoined
  refine ⟨hfirst, apart, both, hjoined, by rw [hsegments]; rfl, ?_, ?_⟩
  · exact (hevaluate _).1 "x$" "\x7b7" (ok_of_toOption (by decide +kernel))
      (ok_of_toOption (by decide +kernel))
  · refine (hevaluate _).2.2 "x$" _ (ok_of_toOption (by decide +kernel)) ?_
    decide +kernel

end ReplyStage.Template
