import Mathlib.Data.List.Forall2
import ReplyStage.Proofs.Results
import ReplyStage.Template.Evaluate
/-!
# The texts in a value

The value of a template is the texts of its segments in order, each of which depends on the record
alone: the document that expressions share is the payload's, so an expression does not see those
before it. What holds of every character of the value holds of every character of the texts, and the
other way round.
-/

namespace ReplyStage

/-- What one list says of its elements, another one says of those that go with them. -/
theorem forall_mem_congr_of_forall₂ {α β : Type} {R : α → β → Prop} {xs : List α} {ys : List β}
    (h : List.Forall₂ R xs ys) {p : α → Prop} {q : β → Prop} (hpq : ∀ x y, R x y → (p x ↔ q y)) :
    (∀ x ∈ xs, p x) ↔ ∀ y ∈ ys, q y := by
  induction h with
  | nil => simp
  | cons hfirst _ ih => rw [List.forall_mem_cons, List.forall_mem_cons, ih, hpq _ _ hfirst]

/-- The text that a segment stands for in a record. -/
def Segment.value (record : Record) : Segment → Except TemplateError String
  | .literal text => .ok text
  | .expression e => e.orDefault (e.selector.pick record record.json)

namespace Template

variable {record : Record} {shared : Option Json}

/-- A document that is shared is the one of the record's payload. -/
def Shares (record : Record) (shared : Option Json) : Prop :=
  ∀ j, shared = some j → record.json = .ok j

theorem Shares.none (record : Record) : Shares record none := by
  rintro _ ⟨⟩

theorem Shares.document_eq (h : Shares record shared) : document record shared = record.json := by
  cases shared with
  | none => rfl
  | some j => exact (h j rfl).symm

theorem Shares.share (h : Shares record shared) (e : Expression) :
    Shares record (share e record shared) := by
  intro j hj
  unfold Template.share at hj
  split at hj
  · rw [h.document_eq] at hj
    cases hjson : record.json with
    | error err =>
      rw [hjson] at hj
      cases hj
    | ok j' =>
      rw [hjson] at hj
      cases hj
      rfl
  · exact h j hj
  · exact h j hj

theorem Shares.valueOf_eq (h : Shares record shared) (e : Expression) :
    valueOf e record shared = (Segment.expression e).value record := by
  rw [valueOf, h.document_eq, Segment.value]

/-- The first segment gives its text, and the others are evaluated with what they share then. -/
theorem evaluateFrom_cons (h : Shares record shared) (segment : Segment) (rest : List Segment) :
    ∃ shared', Shares record shared' ∧
      evaluateFrom record shared (segment :: rest) =
        match segment.value record with
        | .error e => .error e
        | .ok text => (evaluateFrom record shared' rest).map (text.toList ++ ·) := by
  cases segment with
  | literal text => exact ⟨shared, h, rfl⟩
  | expression e =>
    refine ⟨share e record shared, h.share e, ?_⟩
    cases htext : (Segment.expression e).value record <;>
      simp only [evaluateFrom, h.valueOf_eq, htext]

/-- The value of segments in a row, each taken by itself. -/
def valueOfSegments (record : Record) : List Segment → Except TemplateError String
  | [] => .ok ""
  | segment :: rest => do
    let text ← segment.value record
    let more ← valueOfSegments record rest
    return text ++ more

/-- The document that expressions share makes no difference to the value. -/
theorem evaluateFrom_eq {shared : Option Json} (h : Shares record shared) (segments : List Segment) :
    evaluateFrom record shared segments = (valueOfSegments record segments).map String.toList := by
  induction segments generalizing shared with
  | nil => rfl
  | cons segment rest ih =>
    obtain ⟨shared', h', hcons⟩ := evaluateFrom_cons h segment rest
    rw [hcons, valueOfSegments, ih h']
    cases segment.value record with
    | error e => rfl
    | ok text =>
      cases valueOfSegments record rest with
      | error e => rfl
      | ok more => exact congrArg Except.ok String.toList_append.symm

theorem evaluate_eq (t : Template) (record : Record) :
    t.evaluate record = valueOfSegments record t.segments := by
  rw [evaluate, evaluateFrom_eq (Shares.none record)]
  cases valueOfSegments record t.segments with
  | error e => rfl
  | ok value => exact congrArg Except.ok String.ofList_toList

theorem valueOfSegments_eq_ok_iff {segments : List Segment} {value : String} :
    valueOfSegments record segments = .ok value ↔
      ∃ texts, List.Forall₂ (fun segment text => segment.value record = .ok text) segments texts ∧
        value = String.join texts := by
  induction segments generalizing value with
  | nil => simp [valueOfSegments, eq_comm]
  | cons segment rest ih =>
    simp only [List.forall₂_cons_left_iff]
    constructor
    · intro h
      obtain ⟨text, htext, h⟩ := bind_ok h
      obtain ⟨more, hrest, h⟩ := bind_ok h
      obtain ⟨texts, htexts, rfl⟩ := ih.mp hrest
      cases h
      exact ⟨text :: texts, ⟨text, texts, htext, htexts, rfl⟩, String.join_cons.symm⟩
    · rintro ⟨_, ⟨text, texts, htext, htexts, rfl⟩, rfl⟩
      rw [valueOfSegments, htext, ih.mpr ⟨texts, htexts, rfl⟩, String.join_cons]
      rfl

/-- The value of a template is the texts of its segments, one after another. -/
theorem evaluate_eq_ok_iff {t : Template} {value : String} :
    t.evaluate record = .ok value ↔
      ∃ texts, List.Forall₂ (fun segment text => segment.value record = .ok text) t.segments texts ∧
        value = String.join texts := by
  rw [evaluate_eq, valueOfSegments_eq_ok_iff]

/-- What holds of every character of a value holds of the texts it consists of. -/
theorem forall_mem_evaluate {t : Template} {value : String} (h : t.evaluate record = .ok value)
    (p : Char → Prop) :
    (∀ c ∈ value.toList, p c) ↔
      ∀ segment ∈ t.segments, ∀ text, segment.value record = .ok text → ∀ c ∈ text.toList, p c := by
  obtain ⟨texts, htexts, hvalue⟩ := evaluate_eq_ok_iff.1 h
  rw [hvalue, String.toList_join, List.forall_mem_flatMap,
    forall_mem_congr_of_forall₂ htexts fun segment text htext => ?_]
  simp [htext]

end Template
end ReplyStage
