import Mathlib.Logic.Relation
import ReplyStage.Rehearsal.Pipe
/-!
# The loop of the pump

The pump turns until it stops, while the requests under way come to their results in any order. A
run is a sequence of such steps: a request ends, the loop takes a turn, or the input breaks off. The
results are given by the number of the line they answer, so that runs in different orders can be
compared.

`Turned` says once what a turn can be. From it `Inv.step` shows what every step keeps, and so
`inv_of_reaches` what holds in every state of every run, cut short or not.
-/

namespace ReplyStage

/-! ## Lines and results -/

/-- The contents of the lines that are not empty. -/
def Lines.nonEmpty (lines : List Bytes) : List Bytes :=
  lines.filterMap fun line =>
    match Lines.read line with
    | .ok [] => none
    | .ok (b :: content) => some (b :: content)
    | .error _ => none

theorem Lines.nonEmpty_append (lines more : List Bytes) :
    Lines.nonEmpty (lines ++ more) = Lines.nonEmpty lines ++ Lines.nonEmpty more :=
  List.filterMap_append

theorem Lines.nonEmpty_blank {line : Bytes} (h : Lines.read line = .ok []) :
    Lines.nonEmpty [line] = [] := by
  simp [Lines.nonEmpty, h]

theorem Lines.nonEmpty_content {line : Bytes} {b : UInt8} {content : Bytes}
    (h : Lines.read line = .ok (b :: content)) : Lines.nonEmpty [line] = [b :: content] := by
  simp [Lines.nonEmpty, h]

/-- The results of the first requests. -/
def firstResults (answer : Nat → Except StageError Record) (count : Nat) :
    List (Except StageError Record) :=
  (List.range count).map answer

/-- What is written for results: the payload of each reply and a line feed. -/
def written (results : List (Except StageError Record)) : Bytes :=
  results.flatMap fun
    | .ok record => record.payload ++ [0x0A]
    | .error _ => []

/-- The errors among results. -/
def errors (results : List (Except StageError Record)) : List StageError :=
  results.filterMap fun
    | .ok _ => none
    | .error e => some e

/-- For instance, the first line is answered and the others fail. -/
def firstAnswered (i : Nat) : Except StageError Record :=
  if i = 0 then .ok (.ofPayload [0x31]) else .error .closed

@[simp] theorem length_firstResults (answer : Nat → Except StageError Record) (count : Nat) :
    (firstResults answer count).length = count := by
  simp [firstResults]

theorem firstResults_succ (answer : Nat → Except StageError Record) (count : Nat) :
    firstResults answer (count + 1) = firstResults answer count ++ [answer count] := by
  simp [firstResults, List.range_succ]

theorem firstResults_add (answer : Nat → Except StageError Record) (count more : Nat) :
    firstResults answer (count + more) =
      firstResults answer count ++ firstResults (fun i => answer (count + i)) more := by
  simp [firstResults, List.range_add, Function.comp_def]

theorem written_append (results more : List (Except StageError Record)) :
    written (results ++ more) = written results ++ written more :=
  List.flatMap_append

theorem errors_append (results more : List (Except StageError Record)) :
    errors (results ++ more) = errors results ++ errors more :=
  List.filterMap_append

/-- Each result is a reply or an error. -/
theorem countP_isOk_add_length_errors (results : List (Except StageError Record)) :
    results.countP Except.isOk + (errors results).length = results.length := by
  induction results with
  | nil => rfl
  | cons r rest ih =>
    simp only [errors] at ih ⊢
    cases r with
    | ok record =>
      simp only [List.countP_cons, List.filterMap_cons, List.length_cons, Except.isOk, Except.toBool,
        if_true] at ih ⊢
      omega
    | error e =>
      simp only [List.countP_cons, List.filterMap_cons, List.length_cons, Except.isOk, Except.toBool,
        Bool.false_eq_true, if_false] at ih ⊢
      omega

/-- A place in a list with one more element at its end. -/
theorem getElem?_concat_eq_some {α : Type} {xs : List α} {x y : α} {i : Nat}
    (h : (xs ++ [x])[i]? = some y) : (i < xs.length ∧ xs[i]? = some y) ∨ (i = xs.length ∧ y = x) := by
  rcases Nat.lt_trichotomy i xs.length with hlt | rfl | hgt
  · rw [List.getElem?_append_left hlt] at h
    exact .inl ⟨hlt, h⟩
  · rw [List.getElem?_concat_length] at h
    exact .inr ⟨rfl, (Option.some.inj h).symm⟩
  · rw [List.getElem?_eq_none (by simp only [List.length_append, List.length_singleton]; omega)] at h
    cases h

/-! ## Turns -/

namespace Pump

/-- The oldest request under way has no result yet. -/
def HeadPending (p : Pump) : Prop := ∀ slot rest, p.slots = slot :: rest → slot.result = none

/-- The loop comes to read: there is more input, room for a request and no result to take. -/
structure Reads (p : Pump) (concurrency : Nat) : Prop where
  more : p.ended = false
  room : p.slots.length < concurrency
  pending : p.HeadPending

/-- What a turn can be. -/
inductive Turned (p : Pump) (concurrency : Nat) : Bool → Turn → Prop
  | stop {shutdown} : shutdown = true ∨ (p.ended = true ∧ p.slots = []) →
      Turned p concurrency shutdown (.stop p.slots.length)
  | settled {line result rest} : p.slots = ⟨line, some result⟩ :: rest →
      Turned p concurrency false (.settled result (p.settle result rest))
  | ended : p.Reads concurrency → p.unread = [] →
      Turned p concurrency false (.passed { p with ended := true })
  | unreadable {line rest fault} : p.Reads concurrency → p.unread = line :: rest →
      Lines.read line = .error fault → Turned p concurrency false (.unreadable fault)
  | blank {line rest} : p.Reads concurrency → p.unread = line :: rest → Lines.read line = .ok [] →
      Turned p concurrency false (.passed { p with unread := rest })
  | launched {line rest b content} : p.Reads concurrency → p.unread = line :: rest →
      Lines.read line = .ok (b :: content) →
      Turned p concurrency false (.launched (b :: content)
        { p with unread := rest, slots := p.slots ++ [{ line := b :: content }] })
  | wait : p.HeadPending → (p.ended = true → p.slots ≠ []) →
      (p.ended = false → concurrency ≤ p.slots.length) → Turned p concurrency false .wait

theorem turned_readLine {p : Pump} {concurrency : Nat} (h : p.Reads concurrency) :
    Turned p concurrency false p.readLine := by
  unfold readLine
  split
  · rename_i hu
    exact .ended h hu
  · rename_i line rest hu
    split
    · rename_i fault hf
      exact .unreadable h hu hf
    · rename_i hb
      exact .blank h hu hb
    · rename_i content hne hc
      cases content with
      | nil => exact absurd rfl hne
      | cons b content => exact .launched h hu hc

/-- A turn is one of these. -/
theorem turned (p : Pump) (concurrency : Nat) (shutdown : Bool) :
    Turned p concurrency shutdown (p.turn concurrency shutdown) := by
  unfold turn
  split
  · rename_i h
    have hs : p.slots = [] := by simpa using h.2
    rw [show (0 : Nat) = p.slots.length by simp [hs]]
    exact .stop (.inr ⟨h.1, hs⟩)
  · rename_i hrun
    cases shutdown with
    | true => exact .stop (.inl rfl)
    | false =>
      rw [if_neg (by simp)]
      split
      · rename_i line result rest hs
        exact .settled hs
      · rename_i hpending
        have hp : p.HeadPending := by
          intro slot rest hs
          cases hr : slot.result with
          | none => rfl
          | some result => exact absurd (by rw [hs, ← hr]) (hpending slot.line result rest)
        split
        · rename_i h
          exact turned_readLine ⟨by simpa using h.1, h.2, hp⟩
        · rename_i h
          simp only [List.isEmpty_iff, not_and] at hrun
          refine .wait hp hrun fun he => ?_
          simpa [he] using h

/-- A pump that has to wait waits for its oldest request. -/
theorem exists_pending_of_wait {p : Pump} {concurrency : Nat} (hc : 1 ≤ concurrency)
    (hwait : p.turn concurrency false = .wait) :
    ∃ slot rest, p.slots = slot :: rest ∧ slot.result = none := by
  have ht := p.turned concurrency false
  rw [hwait] at ht
  cases ht with
  | wait hpending hended hmore =>
    have hslots : p.slots ≠ [] := by
      cases he : p.ended with
      | true => exact hended he
      | false =>
        have := hmore he
        intro hnil
        rw [hnil, List.length_nil] at this
        omega
    obtain ⟨slot, rest, hs⟩ := List.exists_cons_of_ne_nil hslots
    exact ⟨slot, rest, hs, hpending slot rest hs⟩

end Pump

/-! ## Runs -/

/-- The pump in its loop, with the records made of lines and the errors logged so far, both in
order, and the end of the loop once it has come. -/
structure PumpLoop where
  pump : Pump
  requests : List Record := []
  failures : List StageError := []
  ending : Option PipeEnd := none

namespace PumpLoop

/-- The loop at the beginning of an input. -/
def begin (input : Bytes) : PumpLoop := { pump := .ofInput input }

/-- The number of results that were taken. -/
def settled (l : PumpLoop) : Nat := l.pump.replied + l.pump.failed

/-- The loop after a turn. -/
def take (l : PumpLoop) : Turn → PumpLoop
  | .stop dropped => { l with ending := some (.finished dropped) }
  | .unreadable fault => { l with ending := some (.unreadable fault) }
  | .settled (.ok _) pump => { l with pump }
  | .settled (.error e) pump => { l with pump, failures := l.failures ++ [e] }
  | .launched line pump => { l with pump, requests := l.requests ++ [.ofPayload line] }
  | .passed pump => { l with pump }
  | .wait => l

variable (concurrency : Nat) (answer : Nat → Except StageError Record) (mayBreakOff : Bool)

/-- A step of a run: some request under way comes to the result that the assignment has for its
line, the loop takes a turn, or reading fails. Shutdowns and failures come only where a run may
break off. -/
inductive Step : PumpLoop → PumpLoop → Prop
  | complete {l slot} (place : Nat) : l.ending = none → l.pump.slots[place]? = some slot →
      slot.result = none →
      Step l { l with pump := l.pump.complete place (answer (l.settled + place)) }
  | turn {l} (shutdown : Bool) : l.ending = none → (shutdown = true → mayBreakOff = true) →
      l.pump.turn concurrency shutdown ≠ .wait → Step l (l.take (l.pump.turn concurrency shutdown))
  | breaks {l} (fault : Text.Utf8.Malformed) : l.ending = none → mayBreakOff = true →
      l.pump.Reads concurrency → Step l { l with ending := some (.unreadable fault) }

/-- The states of the runs over an input. -/
def Reaches (input : Bytes) (l : PumpLoop) : Prop :=
  Relation.ReflTransGen (Step concurrency answer mayBreakOff) (begin input) l

/-- Where a loop over an input stands: which lines it has read, what it made of them, which results
it has taken and what it wrote for them. -/
structure Inv (input : Bytes) (l : PumpLoop) : Prop where
  lines : ∃ taken, Lines.cut input = taken ++ l.pump.unread ∧
    (∀ line ∈ taken, ∃ content, Lines.read line = .ok content) ∧
    l.requests = (Lines.nonEmpty taken).map Record.ofPayload
  ended : l.pump.ended = true → l.pump.unread = []
  settled_le : l.settled ≤ l.requests.length
  slots : l.pump.slots.map (fun slot => Record.ofPayload slot.line) = l.requests.drop l.settled
  results : ∀ (i : Nat) (slot : Slot), l.pump.slots[i]? = some slot → ∀ r, slot.result = some r →
    r = answer (l.settled + i)
  room : l.pump.slots.length ≤ concurrency
  output : l.pump.output = written (firstResults answer l.settled)
  replied : l.pump.replied = (firstResults answer l.settled).countP Except.isOk
  failures : l.failures = errors (firstResults answer l.settled)
  ending : mayBreakOff = false → ∀ e, l.ending = some e →
    (e = .finished 0 ∧ l.pump.ended = true ∧ l.pump.slots = []) ∨
    ∃ line ∈ Lines.cut input, ∃ fault, e = .unreadable fault ∧ Lines.read line = .error fault

variable {concurrency answer mayBreakOff}

theorem Inv.length_slots {input : Bytes} {l : PumpLoop}
    (h : Inv concurrency answer mayBreakOff input l) :
    l.settled + l.pump.slots.length = l.requests.length := by
  have := congrArg List.length h.slots
  simp only [List.length_map, List.length_drop] at this
  have := h.settled_le
  omega

theorem inv_begin (input : Bytes) : Inv concurrency answer mayBreakOff input (begin input) where
  lines := ⟨[], rfl, nofun, rfl⟩
  ended := nofun
  settled_le := Nat.le_refl _
  slots := rfl
  results := by simp [begin, Pump.ofInput]
  room := Nat.zero_le _
  output := rfl
  replied := rfl
  failures := rfl
  ending := nofun

variable {input : Bytes} {l : PumpLoop}

/-- Each settled request is counted as a reply or as a failure that was logged. -/
theorem Inv.failed_eq (h : Inv concurrency answer mayBreakOff input l) :
    l.pump.failed = l.failures.length := by
  have hcount := countP_isOk_add_length_errors (firstResults answer l.settled)
  rw [← h.replied, ← h.failures] at hcount
  rw [length_firstResults, settled] at hcount
  omega

/-! ## One step -/

/-- Requests that end leave everything but their own results as it was. -/
theorem Inv.complete {place : Nat} (h : Inv concurrency answer mayBreakOff input l)
    (hrun : l.ending = none) :
    Inv concurrency answer mayBreakOff input
      { l with pump := l.pump.complete place (answer (l.settled + place)) } where
  lines := h.lines
  ended := h.ended
  settled_le := h.settled_le
  slots := by
    have hmap := h.slots
    simp only [Pump.complete, settled] at hmap ⊢
    rw [← hmap]
    apply List.ext_getElem?
    intro i
    simp only [List.getElem?_map, List.getElem?_modify]
    split <;> cases l.pump.slots[i]? <;> rfl
  results := by
    intro i slot hs r hr
    simp only [Pump.complete, List.getElem?_modify] at hs
    cases hi : l.pump.slots[i]? with
    | none => simp [hi] at hs
    | some old =>
      rw [hi] at hs
      split at hs
      · rename_i hplace
        simp only [Option.map_eq_map, Option.map_some, Option.some.injEq] at hs
        subst hs hplace
        cases hold : old.result with
        | none =>
          rw [hold] at hr
          exact (Option.some.inj hr).symm
        | some r' =>
          rw [hold] at hr
          cases hr
          exact h.results _ _ hi _ hold
      · simp only [Option.map_eq_map, Option.map_some, Option.some.injEq] at hs
        subst hs
        exact h.results _ _ hi _ hr
  room := by simpa [Pump.complete] using h.room
  output := h.output
  replied := h.replied
  failures := h.failures
  ending := fun _ e he => by rw [hrun] at he; cases he

section Settle
variable {result : Except StageError Record} {rest : List Slot} {p : Pump}

@[simp] theorem pump_take_settled : (l.take (.settled result p)).pump = p := by cases result <;> rfl

@[simp] theorem requests_take_settled : (l.take (.settled result p)).requests = l.requests := by
  cases result <;> rfl

@[simp] theorem ending_take_settled : (l.take (.settled result p)).ending = l.ending := by
  cases result <;> rfl

theorem failures_take_settled :
    (l.take (.settled result p)).failures = l.failures ++ errors [result] := by
  cases result <;> simp [take, errors]

@[simp] theorem unread_settle : (p.settle result rest).unread = p.unread := by cases result <;> rfl

@[simp] theorem ended_settle : (p.settle result rest).ended = p.ended := by cases result <;> rfl

@[simp] theorem slots_settle : (p.settle result rest).slots = rest := by cases result <;> rfl

theorem output_settle : (p.settle result rest).output = p.output ++ written [result] := by
  cases result <;> simp [Pump.settle, written]

theorem replied_settle :
    (p.settle result rest).replied = p.replied + [result].countP Except.isOk := by
  cases result <;> rfl

theorem settled_take_settled :
    (l.take (.settled result (l.pump.settle result rest))).settled = l.settled + 1 := by
  cases result <;> simp only [take, Pump.settle, settled] <;> omega

end Settle

/-- The oldest result is the next one of the assignment, and is written or counted as such. -/
theorem Inv.settle {line : Bytes} {result : Except StageError Record} {rest : List Slot}
    (h : Inv concurrency answer mayBreakOff input l) (hrun : l.ending = none)
    (hs : l.pump.slots = ⟨line, some result⟩ :: rest) :
    Inv concurrency answer mayBreakOff input (l.take (.settled result (l.pump.settle result rest))) := by
  have hresult : result = answer l.settled := h.results 0 _ (by rw [hs]; rfl) _ rfl
  have hslots := h.slots
  have hlen := h.length_slots
  have hroom := h.room
  rw [hs] at hslots
  rw [hs, List.length_cons] at hlen hroom
  constructor
  case lines => simpa using h.lines
  case ended => simpa using h.ended
  case settled_le =>
    rw [settled_take_settled, requests_take_settled]
    omega
  case slots =>
    rw [settled_take_settled, requests_take_settled, pump_take_settled, slots_settle,
      ← List.tail_drop, ← hslots]
    rfl
  case results =>
    intro i slot hi r hr
    rw [pump_take_settled, slots_settle] at hi
    rw [settled_take_settled, Nat.add_assoc, Nat.add_comm 1 i]
    exact h.results (i + 1) slot (by rw [hs]; exact hi) r hr
  case room =>
    rw [pump_take_settled, slots_settle]
    omega
  case output =>
    rw [settled_take_settled, firstResults_succ, written_append, ← hresult, ← h.output,
      pump_take_settled, output_settle]
  case replied =>
    rw [settled_take_settled, firstResults_succ, List.countP_append, ← hresult, ← h.replied,
      pump_take_settled, replied_settle]
  case failures =>
    rw [settled_take_settled, firstResults_succ, errors_append, ← hresult, ← h.failures,
      failures_take_settled]
  case ending =>
    intro _ e he
    rw [ending_take_settled, hrun] at he
    cases he

/-- A line that is read moves from the input to the lines taken. -/
theorem Inv.lines_cons {line content : Bytes} {rest : List Bytes}
    (h : Inv concurrency answer mayBreakOff input l) (hu : l.pump.unread = line :: rest)
    (hread : Lines.read line = .ok content) :
    ∃ taken, Lines.cut input = taken ++ rest ∧
      (∀ line ∈ taken, ∃ content, Lines.read line = .ok content) ∧
      l.requests ++ (Lines.nonEmpty [line]).map Record.ofPayload =
        (Lines.nonEmpty taken).map Record.ofPayload := by
  obtain ⟨taken, hcut, hok, hreq⟩ := h.lines
  refine ⟨taken ++ [line], ?_, ?_, ?_⟩
  · rw [hcut, hu, List.append_assoc, List.singleton_append]
  · intro other hmem
    rcases List.mem_append.mp hmem with hmem | hmem
    · exact hok other hmem
    · rw [List.mem_singleton.mp hmem]
      exact ⟨content, hread⟩
  · rw [Lines.nonEmpty_append, List.map_append, hreq]

/-- A turn keeps the loop in its place. -/
theorem Inv.turn {shutdown : Bool} (h : Inv concurrency answer mayBreakOff input l)
    (hrun : l.ending = none) (hbreak : shutdown = true → mayBreakOff = true) {t : Turn}
    (ht : l.pump.Turned concurrency shutdown t) :
    Inv concurrency answer mayBreakOff input (l.take t) := by
  have hnone : ∀ {P : PipeEnd → Prop}, mayBreakOff = false → ∀ e, l.ending = some e → P e :=
    fun _ e he => by rw [hrun] at he; cases he
  cases ht with
  | stop hstop =>
    refine { h with ending := fun hb e he => ?_ }
    cases he
    rcases hstop with hs | ⟨hend, hempty⟩
    · rw [hbreak hs] at hb
      cases hb
    · exact .inl ⟨by rw [hempty]; rfl, hend, hempty⟩
  | settled hs => exact h.settle hrun hs
  | ended _ hu => exact { h with ended := fun _ => hu, ending := hnone }
  | @unreadable line rest fault _ hu hf =>
    refine { h with ending := fun _ e he => ?_ }
    cases he
    obtain ⟨taken, hcut, -⟩ := h.lines
    exact .inr ⟨line, by rw [hcut, hu]; simp, fault, rfl, hf⟩
  | @blank line rest hr hu hb =>
    refine { h with
      lines := ?_
      ended := fun he => by rw [take, hr.more] at he; cases he
      ending := hnone }
    have hlines := h.lines_cons hu hb
    rw [Lines.nonEmpty_blank hb, List.map_nil, List.append_nil] at hlines
    exact hlines
  | @launched line rest b content hr hu hc =>
    have hlines := h.lines_cons hu hc
    rw [Lines.nonEmpty_content hc, List.map_singleton] at hlines
    refine { h with
      lines := hlines
      ended := fun he => by rw [take, hr.more] at he; cases he
      settled_le := ?_, slots := ?_, results := ?_, room := ?_
      ending := hnone }
    · simp only [take, List.length_append]
      exact Nat.le_add_right_of_le h.settled_le
    · show List.map _ (l.pump.slots ++ _) = List.drop l.settled (l.requests ++ _)
      rw [List.map_append, h.slots, List.drop_append_of_le_length h.settled_le]
      rfl
    · intro i slot hi r hres
      rcases getElem?_concat_eq_some hi with ⟨-, hi⟩ | ⟨-, rfl⟩
      · exact h.results i slot hi r hres
      · cases hres
    · simp only [take, List.length_append, List.length_singleton]
      exact hr.room
  | wait => exact h

/-! ## Every state of every run -/

theorem Inv.step {l' : PumpLoop} (h : Inv concurrency answer mayBreakOff input l)
    (hstep : Step concurrency answer mayBreakOff l l') :
    Inv concurrency answer mayBreakOff input l' := by
  cases hstep with
  | complete place hrun _ _ => exact h.complete hrun
  | turn shutdown hrun hbreak _ => exact h.turn hrun hbreak (l.pump.turned concurrency shutdown)
  | breaks fault _ hbreak _ =>
    refine { h with ending := fun hb => ?_ }
    rw [hbreak] at hb
    cases hb

/-- Every state of every run has its place in the input. -/
theorem inv_of_reaches (h : Reaches concurrency answer mayBreakOff input l) :
    Inv concurrency answer mayBreakOff input l := by
  induction h with
  | refl => exact inv_begin input
  | tail _ hstep ih => exact ih.step hstep

/-- A run that does not break off and finishes has read every line and settled every request. -/
theorem Inv.finished {dropped : Nat} (h : Inv concurrency answer false input l)
    (he : l.ending = some (.finished dropped)) :
    dropped = 0 ∧ l.requests = (Lines.nonEmpty (Lines.cut input)).map Record.ofPayload ∧
      l.settled = (Lines.nonEmpty (Lines.cut input)).length := by
  rcases h.ending rfl _ he with ⟨hd, hended, hslots⟩ | ⟨_, _, _, hfault, _⟩
  · obtain ⟨taken, hcut, -, hreq⟩ := h.lines
    rw [h.ended hended, List.append_nil] at hcut
    have hlen := h.length_slots
    rw [hslots, hreq, List.length_map, List.length_nil, Nat.add_zero, ← hcut] at hlen
    rw [← hcut] at hreq
    exact ⟨by cases hd; rfl, hreq, hlen⟩
  · cases hfault

end PumpLoop
end ReplyStage
