import Mathlib.Order.Bounds.Basic
import ReplyStage.Connection.Exchange
import ReplyStage.Proofs.Reply.Conversion
import ReplyStage.Proofs.Stage.Process
/-!
# Waiting up to a deadline

A request waits for as long as both the settings and the deadline allow, and no less
(`isGreatest_timeLimit`), so with a later deadline it never waits for less (`timeLimit_mono`). The
wait is measured twice, by the stage and by the client that carries the request, and either of them
may be the one to end it. The error is the same (`conclude_timedOut`), and it stands for nothing
else (`timedOut_of_conclude`). `process_deadline` says what this makes of a record.
-/

namespace ReplyStage

/-! ## Deadlines -/

namespace Deadline

/-- The deadline is not after the present. -/
def Passed (deadline : Option Duration) (now : Duration) : Prop :=
  ∃ d, deadline = some d ∧ d.nanos ≤ now.nanos

/-- A wait for so many nanoseconds is over by the deadline. -/
def Leaves (deadline : Option Duration) (now : Duration) (nanos : Nat) : Prop :=
  ∀ d, deadline = some d → now.nanos + nanos ≤ d.nanos

/-- One deadline is not before another. To have none is to have the last of all. -/
def NotBefore (later deadline : Option Duration) : Prop :=
  ∀ d', later = some d' → ∃ d, deadline = some d ∧ d.nanos ≤ d'.nanos

variable {deadline later : Option Duration} {now : Duration} {nanos : Nat}

theorem Leaves.notBefore (h : Leaves deadline now nanos) (hlater : NotBefore later deadline) :
    Leaves later now nanos := by
  intro d' hd'
  obtain ⟨d, hd, hle⟩ := hlater d' hd'
  exact (h d hd).trans hle

theorem not_passed_of_notBefore (h : ¬ Passed deadline now) (hlater : NotBefore later deadline) :
    ¬ Passed later now := by
  rintro ⟨d', hd', hle'⟩
  obtain ⟨d, hd, hle⟩ := hlater d' hd'
  exact h ⟨d, hd, hle.trans hle'⟩

end Deadline

/-! ## The two timers -/

namespace Response

variable {τ : Type}

/-- The response of a client that carries a request over the network and waits as long as the
request does. It may also fail to say anything. -/
def OfClient (sending : Sending τ) : Response → Prop
  | .never => True
  | .after _ answer => ∃ outcome, answer = sending.request.answer sending.timeout outcome

/-- A timer ends the wait: the stage's, as nothing has come until then, or that of the client. -/
def TimedOut (sending : Sending τ) : Response → Prop
  | .never => True
  | .after millis answer => sending.timeout.ceilMillis < millis ∨
      answer = sending.request.answer sending.timeout (.error .timedOut)

end Response

namespace Stage

variable {τ : Type} {c : StageSettings} {s : Stage} {headersSupported : τ → Bool}
  {deadline later : Option Duration} {now t : Duration} {transport : τ} {record : Record}
  {request : Request} {sending : Sending τ} {response : Response}

theorem conclude_timedOut (h : response.TimedOut sending) : (s.conclude sending response).2 =
    .error (.timeout sending.request.subject sending.timeout) := by
  cases response with
  | never => rfl
  | after millis answer =>
    rw [conclude]
    split
    case isTrue intime =>
      rcases h with late | rfl
      · omega
      · rfl
    case isFalse => rfl

/-- An answer that is not the client's timer is no timeout, and a reply is none either. -/
theorem timedOut_of_answer {subject : String} {after : Duration}
    {outcome : Except ExchangeFailure Reply}
    (h : s.accept (sending.request.answer sending.timeout outcome) =
      .error (.timeout subject after)) :
    outcome = .error .timedOut := by
  cases outcome with
  | ok reply =>
    obtain ⟨_, -, -, hconversion⟩ := Reply.toRecord_eq_error_iff.mp h
    cases hconversion
  | error failure =>
    cases failure with
    | timedOut => rfl
    | noResponders => cases h
    | notCarried details => cases h

/-- Over the network only a timer makes a timeout. -/
theorem timedOut_of_conclude {subject : String} {after : Duration}
    (client : response.OfClient sending)
    (h : (s.conclude sending response).2 = .error (.timeout subject after)) :
    response.TimedOut sending := by
  cases response with
  | never => trivial
  | after millis answer =>
    obtain ⟨outcome, rfl⟩ := client
    by_cases hmillis : millis ≤ sending.timeout.ceilMillis
    · rw [conclude_inTime hmillis] at h
      exact .inr (by rw [timedOut_of_answer h])
    · exact .inl (Nat.lt_of_not_le hmillis)

/-! ## The longest wait -/

theorem exists_timeLimit_iff :
    (∃ t, s.timeLimit now deadline = some t) ↔ ¬ Deadline.Passed deadline now := by
  rw [← Option.ne_none_iff_exists', Ne, timeLimit_eq_none_iff, Deadline.Passed]

theorem isGreatest_timeLimit (h : s.timeLimit now deadline = some t) :
    IsGreatest {n | n ≤ s.timeout.nanos ∧ Deadline.Leaves deadline now n} t.nanos := by
  have hahead := exists_timeLimit_iff.mp ⟨t, h⟩
  rw [nanos_of_timeLimit h]
  cases deadline with
  | none => exact ⟨⟨le_rfl, nofun⟩, fun n hn => hn.1⟩
  | some d =>
    have hlt : now.nanos < d.nanos := Nat.lt_of_not_le fun hle => hahead ⟨d, rfl, hle⟩
    simp only [Option.elim]
    constructor
    · refine ⟨min_le_left _ _, ?_⟩
      rintro _ ⟨⟩
      omega
    · rintro n ⟨hlimit, hleaves⟩
      have := hleaves d rfl
      exact le_min hlimit (by omega)

/-- With a later deadline a request waits, if it waits with the earlier, and not for less. -/
theorem timeLimit_mono (hlater : Deadline.NotBefore later deadline)
    (h : s.timeLimit now deadline = some t) :
    ∃ t', s.timeLimit now later = some t' ∧ t.nanos ≤ t'.nanos := by
  have hahead := exists_timeLimit_iff.mp ⟨t, h⟩
  obtain ⟨t', ht'⟩ : ∃ t', s.timeLimit now later = some t' :=
    exists_timeLimit_iff.mpr (Deadline.not_passed_of_notBefore hahead hlater)
  refine ⟨t', ht', (isGreatest_timeLimit h).mono (isGreatest_timeLimit ht') ?_⟩
  rintro n ⟨hlimit, hleaves⟩
  exact ⟨hlimit, hleaves.notBefore hlater⟩

/-! ## What the deadline makes of a record -/

/-- A request is sent with the time that it has, if it has any. -/
theorem sent_timeLimit (made : s.request (headersSupported transport) record = .ok request)
    (respond : Sending τ → Response) (deadline : Option Duration) (now : Duration) :
    (s.process headersSupported respond (.connected transport) record deadline now).sent =
      (s.timeLimit now deadline).map fun t => ⟨transport, request, t⟩ := by
  cases hlimit : s.timeLimit now deadline with
  | none => rw [process_of_start_error (start_late rfl made hlimit), Option.map_none]
  | some t => exact sent_eq_some_iff.mpr (start_ok_iff.mpr ⟨rfl, made, hlimit⟩)

/-- What comes of a record with a deadline, when there is a connection and a request to send. -/
theorem process_deadline (built : ofSettings c = .ok s) (headersSupported : τ → Bool)
    (made : s.request (headersSupported transport) record = .ok request)
    (respond : Sending τ → Response) (deadline : Option Duration) (now : Duration) :
    let process := fun deadline =>
      s.process headersSupported respond (.connected transport) record deadline now
    let p := process deadline
    -- The limit is that of the settings, which is some time.
    c.waitTime = .ok s.timeout ∧ 0 < s.timeout.nanos ∧
    -- Nothing is sent just if the deadline has passed, and the error says that there was no time.
    (p.sent = none ∧ p.result = .error (.timeout request.subject .zero) ↔
      Deadline.Passed deadline now) ∧
    -- Otherwise the request waits for some time, as long as limit and deadline allow,
    (¬ Deadline.Passed deadline now → ∃ sending, p.sent = some sending ∧
      sending.transport = transport ∧ sending.request = request ∧ 0 < sending.timeout.nanos ∧
      IsGreatest {n | n ≤ s.timeout.nanos ∧ Deadline.Leaves deadline now n} sending.timeout.nanos ∧
      (deadline = none → sending.timeout = s.timeout) ∧
      -- and for no less if the deadline is moved later.
      (∀ later, Deadline.NotBefore later deadline → ∃ sending', (process later).sent = some sending' ∧
        sending.timeout.nanos ≤ sending'.timeout.nanos) ∧
      -- The stage waits for the answer until this time is over,
      (respond sending = .never → p.millis = sending.timeout.ceilMillis) ∧
      -- and reports it whichever timer ends the wait.
      ((respond sending).TimedOut sending →
        p.result = .error (.timeout request.subject sending.timeout)) ∧
      -- A client makes no other timeout.
      ((respond sending).OfClient sending →
        ∀ subject after, p.result = .error (.timeout subject after) →
          (respond sending).TimedOut sending ∧ subject = request.subject ∧
            after = sending.timeout)) := by
  intro process p
  obtain ⟨_, hvalid, -⟩ := ofSettings_ok built
  have hwait := StageSettings.waitTime_of_validate hvalid
  have hsent := fun deadline => sent_timeLimit made respond deadline now
  refine ⟨hwait, StageSettings.waitTime_pos hwait, ⟨?refused, ?passed⟩, fun hahead => ?waits⟩
  case refused =>
    rintro ⟨hnone, -⟩
    rw [hsent deadline, Option.map_eq_none_iff] at hnone
    exact timeLimit_eq_none_iff.mp hnone
  case passed =>
    intro hpassed
    have hstart : s.start headersSupported (.connected transport) record deadline now =
        .error (.timeout request.subject .zero) :=
      start_late rfl made (timeLimit_eq_none_iff.mpr hpassed)
    simp only [p, process, process_of_start_error hstart, and_self]
  case waits =>
    obtain ⟨t, ht⟩ : ∃ t, s.timeLimit now deadline = some t := exists_timeLimit_iff.mpr hahead
    let sending : Sending τ := ⟨transport, request, t⟩
    have hp : p.sent = some sending := by rw [hsent deadline, ht, Option.map_some]
    have hprocess : p = ⟨some sending, (s.conclude sending (respond sending)).2,
        (s.conclude sending (respond sending)).1⟩ := process_of_start_ok (sent_eq_some_iff.mp hp)
    refine ⟨sending, hp, rfl, rfl, timeLimit_pos built ht, isGreatest_timeLimit ht, ?none, ?later,
      ?never, ?timer, ?client⟩
    case none =>
      rintro rfl
      exact (Option.some.inj ht).symm
    case later =>
      intro later hlater
      obtain ⟨t', ht', hle⟩ := timeLimit_mono hlater ht
      exact ⟨⟨transport, request, t'⟩, by rw [hsent later, ht', Option.map_some], hle⟩
    case never =>
      intro hnever
      rw [hprocess, hnever]
      rfl
    case timer =>
      intro htimer
      rw [hprocess, conclude_timedOut htimer]
    case client =>
      intro hclient subject after h
      rw [hprocess] at h
      have htimer := timedOut_of_conclude hclient h
      rw [conclude_timedOut htimer] at h
      cases h
      exact ⟨htimer, rfl, rfl⟩

/-- For instance, a request of a stage that waits for three seconds, with a deadline in two seconds.
The client's timer ends the wait. -/
theorem process_deadline_in_two_seconds :
    let s : Stage := {
      label := defaultName
      subject := ⟨"orders", [.literal "orders"]⟩
      headers := ⟨[], {}⟩
      timeout := ⟨3000000000⟩
      maxReplyBytes := none }
    let request : Request := ⟨"orders", [0x41], none⟩
    let p := s.process (fun _ : Unit => false)
      (fun sending =>
        .after 2000 (sending.request.answer sending.timeout (.error .timedOut)))
      (.connected ()) (Record.ofPayload [0x41]) (some ⟨5000000000⟩) ⟨3000000000⟩
    ofSettings { subject := "orders" } = .ok s ∧
      s.request false (Record.ofPayload [0x41]) = .ok request ∧
      p.sent = some ⟨(), request, ⟨2000000000⟩⟩ ∧
      p.result = .error (.timeout "orders" ⟨2000000000⟩) := by
  intro s request p
  have built : ofSettings { subject := "orders" } = .ok s := ok_of_toOption (by decide +kernel)
  have made : s.request false (Record.ofPayload [0x41]) = .ok request :=
    ok_of_toOption (by decide +kernel)
  have hsent : p.sent = some ⟨(), request, ⟨2000000000⟩⟩ := by decide +kernel
  have hahead : ¬ Deadline.Passed (some ⟨5000000000⟩) ⟨3000000000⟩ := by
    rintro ⟨d, hd, hle⟩
    cases hd
    revert hle
    decide
  obtain ⟨-, -, -, hwaits⟩ := process_deadline built (fun _ : Unit => false) made
    (fun sending => .after 2000 (sending.request.answer sending.timeout (.error .timedOut)))
    (some ⟨5000000000⟩) ⟨3000000000⟩
  obtain ⟨sending, h, -, -, -, -, -, -, -, htimer, -⟩ := hwaits hahead
  cases Option.some.inj (hsent.symm.trans h)
  exact ⟨built, made, hsent, htimer (.inr rfl)⟩

end Stage
end ReplyStage
