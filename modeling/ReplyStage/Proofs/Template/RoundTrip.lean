import ReplyStage.Proofs.Template.Reading
import ReplyStage.Template.Printer
/-!
# Writing and compiling

The segments that a template can have are the normal ones, and compiling the text of normal segments
gives them back. What is written is a reading of its own text (`reading_render`), so the compiler is
not followed through a text again.
-/

namespace ReplyStage

/-- Literal segments. -/
def Segment.IsLiteral (segment : Segment) : Prop := ∃ text, segment = .literal text

namespace Template

/-! ## Normal segments -/

/-- Segments as a template has them: no literal is empty, holds an opener or stands next to another
one, and no metadata entry is asked for without a key. -/
structure Normal (segments : List Segment) : Prop where
  literal : ∀ text, .literal text ∈ segments → text ≠ "" ∧ ¬ opener <:+: text.toList
  keyed : ∀ key default, .expression ⟨.metadata key, default⟩ ∈ segments → key ≠ ""
  apart : segments.IsChain fun a b => ¬ (a.IsLiteral ∧ b.IsLiteral)

theorem CallText.key_ne {text : List Char} {key : String} {default : Option String}
    (h : CallText text ⟨.metadata key, default⟩) : key ≠ "" := by
  obtain ⟨-, hselects, -⟩ := h
  cases hselects with
  | metadata hkey => exact hkey

/-- The segments of a reading are normal. -/
theorem Reading.normal {text : List Char} {parts : List Part} (h : Reading text parts) :
    Normal (parts.map Part.segment) where
  literal := by
    intro literal hmem
    obtain ⟨part, hpart, hsegment⟩ := List.mem_map.mp hmem
    cases h.wellformed part hpart with
    | literal hne hopener =>
      cases hsegment
      exact ⟨by simpa using hne, by simpa using hopener⟩
    | expression _ => cases hsegment
  keyed := by
    intro key default hmem
    obtain ⟨part, hpart, hsegment⟩ := List.mem_map.mp hmem
    cases h.wellformed part hpart with
    | literal _ _ => cases hsegment
    | expression he =>
      cases hsegment
      obtain ⟨-, hcall, -⟩ := he
      exact hcall.key_ne
  apart := (List.isChain_map Part.segment).mpr h.apart

/-! ## What is written -/

theorem stringText_escape (cs : List Char) : StringText (cs.flatMap escapeChar) cs := by
  induction cs with
  | nil => exact .nil
  | cons c rest ih =>
    rw [List.flatMap_cons]
    by_cases hc : c = '"' ∨ c = '\\'
    · rw [escapeChar, if_pos hc]
      have hfeed : c ≠ '\n' := by rintro rfl; revert hc; decide
      exact .escape hfeed ih
    · rw [escapeChar, if_neg hc]
      rw [not_or] at hc
      exact .plain hc.1 hc.2 ih

theorem quotedText_printString (s : String) : QuotedText (printString s) s := by
  have h := QuotedText.intro (stringText_escape s.toList)
  rwa [String.ofList_toList] at h

theorem Blank.nil : Blank [] := nofun

theorem Blank.space : Blank [' '] := by
  intro c hc
  rw [List.mem_singleton.mp hc]
  decide

theorem argumentText_printArgument (argument : Option String) :
    ArgumentText (printArgument argument) argument := by
  cases argument with
  | none => exact .absent .nil
  | some value =>
    have h := ArgumentText.given .nil (quotedText_printString value) .nil
    rwa [List.nil_append, List.append_nil] at h

theorem defaultText_printDefault (default : Option String) :
    DefaultText (printDefault default) default := by
  cases default with
  | none => exact .absent
  | some value => exact .given .nil (argumentText_printArgument (some value))

theorem callText_print {e : Expression} (h : ∀ key, e.selector = .metadata key → key ≠ "") :
    CallText (printCall e.selector ++ printDefault e.default) e := by
  obtain ⟨selector, default⟩ := e
  have hdefault := defaultText_printDefault default
  cases selector with
  | metadata key =>
    exact .intro (argumentText_printArgument (some key)) (.metadata (h key rfl)) hdefault
  | json path => exact .intro (argumentText_printArgument path) .json hdefault
  | content => exact .intro (argumentText_printArgument none) .content hdefault

/-- A segment with the text that is written for it. -/
def Part.printed (segment : Segment) : Part := ⟨printSegment segment, segment⟩

/-- What is written for normal segments reads as these segments. -/
theorem reading_render {segments : List Segment} (h : Normal segments) :
    Reading (render segments).toList (segments.map Part.printed) where
  covers := by
    rw [render, String.toList_ofList, List.flatMap_map]
    rfl
  wellformed := by
    intro part hpart
    obtain ⟨segment, hmem, rfl⟩ := List.mem_map.mp hpart
    cases segment with
    | literal text =>
      obtain ⟨hne, hopener⟩ := h.literal text hmem
      have hpart := Part.Wellformed.literal (by simpa using hne) hopener
      rwa [Part.literal, String.ofList_toList] at hpart
    | expression e =>
      have hcall : CallText (printCall e.selector ++ printDefault e.default) e :=
        callText_print fun key hkey => h.keyed key e.default (by rw [← hkey]; exact hmem)
      exact .expression (.intro .space hcall .space)
  apart := (List.isChain_map Part.printed).mpr h.apart

theorem compile_render {segments : List Segment} (h : Normal segments) :
    compile (render segments) = .ok ⟨render segments, segments⟩ := by
  have hparse := parseSegments_of_reads (reading_render h).reads
  rw [List.map_map] at hparse
  unfold compile
  rw [hparse]
  simp [Function.comp_def, Part.printed]

theorem normal_of_compile {source : String} {t : Template} (h : compile source = .ok t) :
    Normal t.segments := by
  unfold compile at h
  split at h
  · rename_i segments hparse
    cases h
    obtain ⟨parts, hparts, rfl⟩ := parseSegments_eq_ok_iff.mp hparse
    exact hparts.normal
  · cases h

/-- Writing and compiling undo each other. -/
theorem normal_iff_compile_render :
    -- normal segments, and no others, come back from their text
    (∀ segments,
      Normal segments ↔ compile (render segments) = .ok ⟨render segments, segments⟩) ∧
    -- the segments of a template are normal, so that they come back from their text, too
    ∀ source t, compile source = .ok t →
      Normal t.segments ∧ compile (render t.segments) = .ok ⟨render t.segments, t.segments⟩ := by
  constructor
  · intro segments
    constructor
    · exact compile_render
    · intro h
      exact normal_of_compile h
  · intro source t h
    have hnormal := normal_of_compile h
    exact ⟨hnormal, compile_render hnormal⟩

/-- For instance, the beginning of an opener in front of one, and strings with quotes, backslashes,
braces, line feeds and openers in them. -/
def nestedSegments : List Segment := [
  .literal "é$\x7b",
  .expression ⟨.metadata "\"\\\x7d\n$\x7b!", some "\\\""⟩,
  .expression ⟨.json (some ""), none⟩,
  .literal "$",
  .expression ⟨.content, some "\x7d$\x7b! content() \x7d"⟩]

theorem normal_iff_compile_render_nested :
    Normal nestedSegments ∧
      compile (render nestedSegments) = .ok ⟨render nestedSegments, nestedSegments⟩ := by
  have hnormal : Normal nestedSegments := by
    constructor
    case literal =>
      intro text h
      simp only [nestedSegments, List.mem_cons, Segment.literal.injEq, reduceCtorEq,
        List.not_mem_nil, or_false, false_or] at h
      rcases h with rfl | rfl <;> decide
    case keyed =>
      intro key default h
      simp only [nestedSegments, List.mem_cons, Segment.expression.injEq, Expression.mk.injEq,
        Selector.metadata.injEq, reduceCtorEq, List.not_mem_nil, or_false, false_or, false_and] at h
      rw [h.1]
      decide
    case apart => simp [nestedSegments, Segment.IsLiteral]
  have hcompile := (normal_iff_compile_render.1 nestedSegments).mp hnormal
  exact normal_iff_compile_render.2 _ _ hcompile

end Template
end ReplyStage
