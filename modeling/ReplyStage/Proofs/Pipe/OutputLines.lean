import Mathlib.Algebra.Order.Ring.Nat
import ReplyStage.Proofs.Pipe.Completion
import ReplyStage.Reply.Basic
/-!
# The lines of the output

A reply is written as it is, with a line feed after it, so a payload with line feeds of its own takes
more than one line. `output_lines` says which lines there are, and that they are the payloads exactly
where no payload has a line feed; other runs can be mistaken for each other
(`output_brokenPayload`).
-/

namespace ReplyStage

/-! ## Lines -/

/-- Texts with a line feed after each of them. -/
def endLines (texts : List Bytes) : Bytes := texts.flatMap (· ++ [0x0A])

/-- There is one part more than there are separators. -/
theorem length_splitOn (separator : UInt8) (bytes : Bytes) :
    (bytes.splitOn separator).length = bytes.count separator + 1 := by
  induction bytes with
  | nil => rfl
  | cons b rest ih =>
    rw [List.splitOn_cons_eq_if_modifyHead]
    by_cases hb : b = separator
    · simp [hb, ih]
    · simp [hb, ih]

theorem splitOn_endLines (texts : List Bytes) :
    (endLines texts).splitOn 0x0A = texts.flatMap (·.splitOn 0x0A) ++ [[]] := by
  induction texts with
  | nil => rfl
  | cons text rest ih =>
    have hcons : endLines (text :: rest) = text ++ 0x0A :: endLines rest := by
      simp [endLines]
    rw [hcons, List.splitOn_append_cons_self, ih, List.flatMap_cons, List.append_assoc]

theorem count_endLines (texts : List Bytes) :
    (endLines texts).count 0x0A = texts.length + (texts.map (List.count 0x0A)).sum := by
  induction texts with
  | nil => rfl
  | cons text rest ih =>
    rw [endLines] at ih ⊢
    simp only [List.flatMap_cons, List.count_append, List.count_singleton_self, ih, List.length_cons,
      List.map_cons, List.sum_cons]
    omega

/-- There is one line for each text exactly where no text has a line feed. -/
theorem count_endLines_eq_iff {texts : List Bytes} :
    (endLines texts).count 0x0A = texts.length ↔ ∀ text ∈ texts, 0x0A ∉ text := by
  rw [count_endLines, Nat.add_eq_left, List.sum_eq_zero_iff_forall_eq_nat, List.forall_mem_map]
  simp only [List.count_eq_zero]

/-- And exactly then the lines are the texts. -/
theorem splitOn_endLines_eq_iff {texts : List Bytes} :
    (endLines texts).splitOn 0x0A = texts ++ [[]] ↔ ∀ text ∈ texts, 0x0A ∉ text := by
  constructor
  · intro h
    have hlength := congrArg List.length h
    rw [length_splitOn, List.length_append, List.length_singleton] at hlength
    exact count_endLines_eq_iff.mp (Nat.add_right_cancel hlength)
  · intro h
    have hsplit : texts.flatMap (·.splitOn 0x0A) = texts := by
      rw [List.flatMap_def, List.map_congr_left fun text htext =>
        List.splitOn_eq_singleton (h text htext), ← List.flatMap_def, List.flatMap_singleton']
    rw [splitOn_endLines, hsplit]

/-! ## Replies -/

/-- The payloads of the replies among results. -/
def replyPayloads (results : List (Except StageError Record)) : List Bytes :=
  results.filterMap fun
    | .ok record => some record.payload
    | .error _ => none

theorem written_eq_endLines (results : List (Except StageError Record)) :
    written results = endLines (replyPayloads results) := by
  induction results with
  | nil => rfl
  | cons result rest ih =>
    rw [written] at ih ⊢
    cases result with
    | ok record => rw [List.flatMap_cons, ih]; rfl
    | error e => rw [List.flatMap_cons, ih]; rfl

theorem length_replyPayloads (results : List (Except StageError Record)) :
    (replyPayloads results).length = results.countP Except.isOk := by
  induction results with
  | nil => rfl
  | cons result rest ih =>
    rw [replyPayloads] at ih ⊢
    cases result with
    | ok record => rw [List.countP_cons_of_pos rfl, ← ih]; rfl
    | error e => rw [List.countP_cons_of_neg Bool.false_ne_true, ← ih]; rfl

namespace PumpLoop

variable {concurrency : Nat} {answer : Nat → Except StageError Record} {mayBreakOff : Bool}
  {input : Bytes} {l : PumpLoop}

/-- The payloads that a loop has written. -/
def payloads (answer : Nat → Except StageError Record) (l : PumpLoop) : List Bytes :=
  replyPayloads (firstResults answer l.settled)

/-- The lines of the output, in every state of every run and so at its end. -/
theorem output_lines (h : Reaches concurrency answer mayBreakOff input l) :
    -- there is a line for each reply, and one more for each line feed in its payload
    l.pump.replied = (l.payloads answer).length ∧
    l.pump.output.splitOn 0x0A = (l.payloads answer).flatMap (·.splitOn 0x0A) ++ [[]] ∧
    l.pump.output.count 0x0A =
      l.pump.replied + ((l.payloads answer).map (List.count 0x0A)).sum ∧
    -- so the lines are the payloads, and as many, exactly where no payload has one
    (l.pump.output.splitOn 0x0A = l.payloads answer ++ [[]] ↔
      ∀ payload ∈ l.payloads answer, 0x0A ∉ payload) ∧
    (l.pump.output.count 0x0A = l.pump.replied ↔
      ∀ payload ∈ l.payloads answer, 0x0A ∉ payload) ∧
    -- and only then does the output tell runs with other replies apart
    ((∀ payload ∈ l.payloads answer, 0x0A ∉ payload) →
      ∀ concurrency' answer' mayBreakOff' input' l',
        Reaches concurrency' answer' mayBreakOff' input' l' →
        (∀ payload ∈ l'.payloads answer', 0x0A ∉ payload) →
        (l'.pump.output = l.pump.output ↔ l'.payloads answer' = l.payloads answer)) := by
  have houtput : l.pump.output = endLines (l.payloads answer) := by
    rw [(inv_of_reaches h).output, written_eq_endLines, payloads]
  have hreplied : l.pump.replied = (l.payloads answer).length := by
    rw [(inv_of_reaches h).replied, payloads, length_replyPayloads]
  rw [houtput, hreplied]
  refine ⟨rfl, splitOn_endLines _, count_endLines _, splitOn_endLines_eq_iff,
    count_endLines_eq_iff, fun hwhole concurrency' answer' mayBreakOff' input' l' h' hwhole' => ?_⟩
  have houtput' : l'.pump.output = endLines (l'.payloads answer') := by
    rw [(inv_of_reaches h').output, written_eq_endLines, payloads]
  rw [houtput']
  constructor
  · intro heq
    have hsplit := splitOn_endLines_eq_iff.mpr hwhole'
    rw [heq, splitOn_endLines_eq_iff.mpr hwhole] at hsplit
    exact (List.append_cancel_right hsplit).symm
  · exact congrArg endLines

/-- For instance, replies with these payloads, to one line after another. -/
def payloadAnswers (payloads : List Bytes) (i : Nat) : Except StageError Record :=
  Reply.toRecord { subject := "orders", payload := payloads.getD i [] } none

/-- One line of input, and a reply with a line feed in it. -/
def brokenPayload : PumpLoop := completed (payloadAnswers [[0x61, 0x0A, 0x62]]) [0x78, 0x0A]

/-- Two lines of input, and a reply to each. -/
def wholePayloads : PumpLoop := completed (payloadAnswers [[0x61], [0x62]]) [0x78, 0x0A, 0x79, 0x0A]

theorem reaches_brokenPayload :
    Reaches 1 (payloadAnswers [[0x61, 0x0A, 0x62]]) false [0x78, 0x0A] brokenPayload := by
  refine reaches_completed (Nat.le_refl 1) fun line hmem => ?_
  rw [show Lines.cut [0x78, 0x0A] = [[0x78, 0x0A]] from rfl] at hmem
  rw [List.mem_singleton.mp hmem]
  exact ⟨[0x78], rfl⟩

theorem reaches_wholePayloads :
    Reaches 1 (payloadAnswers [[0x61], [0x62]]) false [0x78, 0x0A, 0x79, 0x0A] wholePayloads := by
  refine reaches_completed (Nat.le_refl 1) fun line hmem => ?_
  rw [show Lines.cut [0x78, 0x0A, 0x79, 0x0A] = [[0x78, 0x0A], [0x79, 0x0A]] from rfl] at hmem
  rcases List.mem_cons.mp hmem with rfl | hmem
  · exact ⟨[0x78], rfl⟩
  · rw [List.mem_singleton.mp hmem]
    exact ⟨[0x79], rfl⟩

theorem output_lines_wholePayloads :
    wholePayloads.pump.output.splitOn 0x0A = [[0x61], [0x62], []] ∧
      wholePayloads.pump.output.count 0x0A = 2 ∧ brokenPayload.pump.output.count 0x0A = 1 + 1 := by
  have hpayloads : wholePayloads.payloads (payloadAnswers [[0x61], [0x62]]) = [[0x61], [0x62]] := rfl
  obtain ⟨-, -, -, hlines, hcount, -⟩ := output_lines reaches_wholePayloads
  obtain ⟨-, -, hbroken, -⟩ := output_lines reaches_brokenPayload
  rw [hpayloads] at hlines hcount
  exact ⟨hlines.mpr (by decide), hcount.mpr (by decide), hbroken⟩

/-- One reply can be taken for two. -/
theorem output_brokenPayload :
    Reaches 1 (payloadAnswers [[0x61, 0x0A, 0x62]]) false [0x78, 0x0A] brokenPayload ∧
      Reaches 1 (payloadAnswers [[0x61], [0x62]]) false [0x78, 0x0A, 0x79, 0x0A] wholePayloads ∧
      brokenPayload.ending = some (.finished 0) ∧ wholePayloads.ending = some (.finished 0) ∧
      brokenPayload.pump.replied = 1 ∧ wholePayloads.pump.replied = 2 ∧
      brokenPayload.pump.output.count 0x0A = 2 ∧
      brokenPayload.pump.output = wholePayloads.pump.output :=
  ⟨reaches_brokenPayload, reaches_wholePayloads, rfl, rfl, rfl, rfl, rfl, rfl⟩

end PumpLoop
end ReplyStage
