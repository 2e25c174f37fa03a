import ReplyStage.Proofs.Request.Headers
import ReplyStage.Proofs.Stage.Setup
import ReplyStage.Stage.Process
/-!
# What comes of a record

A record gives one request at most. `process_outcome` says when there is one, what it carries, which
error stands for it when there is none, and what the transport's answer comes to. The lemmas before
it take the conditions one at a time, in the order in which the stage looks at them.
-/

namespace ReplyStage

/-! ## Subjects and headers of a record -/

namespace SubjectRule

theorem resolve_ok_iff {r : SubjectRule} {record : Record} {subject : String} :
    r.resolve record = .ok subject ↔
      r.template.evaluate record = .ok subject ∧ Text.isBlankText subject = false := by
  unfold resolve
  cases r.template.evaluate record with
  | error e => simp
  | ok s =>
    by_cases hb : Text.isBlankText s
    · simp only [hb, if_true, reduceCtorEq, Except.ok.injEq, false_iff, not_and]
      rintro rfl
      simp [hb]
    · simp only [hb, Bool.false_eq_true, if_false, Except.ok.injEq]
      constructor
      · rintro rfl
        exact ⟨rfl, by simpa using hb⟩
      · exact fun h => h.1

end SubjectRule

namespace HeaderRules

/-- Headers fail with the error of a named template. -/
theorem resolve_error {r : HeaderRules} {record : Record} {e : StageError}
    (h : r.resolve record = .error e) : ∃ name err, e = .headerTemplate name err := by
  obtain ⟨_, named, _, err, -, -, -, he⟩ := evaluateAll_error (map_eq_error_iff.mp h)
  exact ⟨named.1, err, he⟩

end HeaderRules

namespace StageSettings

/-- The settings give a record a subject: the value of their subject template, which is not blank. -/
def Names (c : StageSettings) (record : Record) (subject : String) : Prop :=
  ∃ t, Template.compile c.subject = .ok t ∧ t.evaluate record = .ok subject ∧
    Text.isBlankText subject = false

/-- Why the settings give a record no subject: their subject template fails, or is blank. -/
inductive Nameless (c : StageSettings) (record : Record) : TemplateError → Prop
  | failed {t e} : Template.compile c.subject = .ok t → t.evaluate record = .error e →
      Nameless c record e
  | blank {t subject} : Template.compile c.subject = .ok t → t.evaluate record = .ok subject →
      Text.isBlankText subject = true →
      Nameless c record (.malformed c.subject "resolved to an empty subject")

end StageSettings

namespace Stage

variable {τ : Type} {c : StageSettings} {s : Stage} {headersSupported : τ → Bool}
  {respond : Sending τ → Response} {connection : Connection τ} {record : Record}
  {deadline : Option Duration} {now : Duration} {transport : τ} {subject : String}

theorem names_iff (built : ofSettings c = .ok s) :
    c.Names record subject ↔ s.subject.resolve record = .ok subject := by
  obtain ⟨_, _, _, hs, _⟩ := ofSettings_ok built
  have hc := SubjectRule.compile_of_ofText hs
  rw [SubjectRule.resolve_ok_iff]
  constructor
  · rintro ⟨t, ht, he, hb⟩
    rw [hc] at ht
    cases ht
    exact ⟨he, hb⟩
  · rintro ⟨he, hb⟩
    exact ⟨s.subject.template, hc, he, hb⟩

theorem resolve_of_nameless (built : ofSettings c = .ok s) {e : TemplateError}
    (h : c.Nameless record e) : s.subject.resolve record = .error (.template e) := by
  obtain ⟨_, _, _, hs, _⟩ := ofSettings_ok built
  have hc := SubjectRule.compile_of_ofText hs
  unfold SubjectRule.resolve
  cases h with
  | failed ht he =>
    rw [hc] at ht
    cases ht
    rw [he]
  | blank ht he hb =>
    rw [hc] at ht
    cases ht
    rw [he]
    simp only [hb, if_true, SubjectRule.blankError, Template.source_compile hc]

/-! ## The time to wait -/

theorem timeLimit_eq_none_iff :
    s.timeLimit now deadline = none ↔ ∃ d, deadline = some d ∧ d.nanos ≤ now.nanos := by
  cases deadline with
  | none => simp [timeLimit]
  | some d => by_cases h : d.nanos ≤ now.nanos <;> simp [timeLimit, h]

/-- The time to wait is the stage's own, or what is left until the deadline if that is less. -/
theorem nanos_of_timeLimit {limit : Duration} (h : s.timeLimit now deadline = some limit) :
    limit.nanos = deadline.elim s.timeout.nanos fun d => min s.timeout.nanos (d.nanos - now.nanos) := by
  cases deadline with
  | none => cases h; rfl
  | some d =>
    simp only [timeLimit] at h
    split at h
    · cases h
    · cases h
      exact Nat.min_comm _ _

theorem timeLimit_pos (built : ofSettings c = .ok s) {limit : Duration}
    (h : s.timeLimit now deadline = some limit) : 0 < limit.nanos := by
  obtain ⟨_, hv, _⟩ := ofSettings_ok built
  have hpos := StageSettings.waitTime_pos (StageSettings.waitTime_of_validate hv)
  rw [nanos_of_timeLimit h]
  cases deadline with
  | none => exact hpos
  | some d =>
    have hd : ¬ d.nanos ≤ now.nanos := fun hd => by
      rw [timeLimit_eq_none_iff.2 ⟨d, rfl, hd⟩] at h
      cases h
    simp only [Option.elim]
    omega

/-! ## The request, one condition after another -/

theorem start_closed (h : ∀ t, connection ≠ .connected t) :
    s.start headersSupported connection record deadline now = .error .closed := by
  cases connection with
  | connected t => exact absurd rfl (h t)
  | unconnected => rfl
  | closed => rfl

theorem start_nameless (h : connection = .connected transport) {e : StageError}
    (hs : s.subject.resolve record = .error e) :
    s.start headersSupported connection record deadline now = .error e := by
  subst h
  simp only [start, Connection.acquire, request, hs]

theorem start_headers_error (h : connection = .connected transport)
    (hs : s.subject.resolve record = .ok subject) (hsup : headersSupported transport = true)
    {e : StageError} (hh : s.headers.resolve record = .error e) :
    s.start headersSupported connection record deadline now = .error e := by
  subst h
  simp only [start, Connection.acquire, request, hs, hsup, if_true, hh, Except.map]

/-- The headers that a record goes with on a transport. -/
def Heads (s : Stage) (supported : Bool) (record : Record) : Option HeaderMap → Prop
  | some headers => supported = true ∧ s.headers.resolve record = .ok headers
  | none => supported = false

theorem request_ok_iff {supported : Bool} {r : Request} :
    s.request supported record = .ok r ↔ s.subject.resolve record = .ok r.subject ∧
      r.payload = record.payload ∧ s.Heads supported record r.headers := by
  obtain ⟨rs, rp, rh⟩ := r
  unfold request
  cases hs : s.subject.resolve record with
  | error e => simp
  | ok subject =>
    cases supported with
    | false =>
      cases rh with
      | none => simp [Heads, eq_comm]
      | some headers => simp [Heads]
    | true =>
      cases hh : s.headers.resolve record with
      | error e => cases rh <;> simp [Heads, Except.map, hh]
      | ok headers =>
        cases rh with
        | none => simp [Heads, Except.map]
        | some headers' =>
          simp [Heads, Except.map, hh, eq_comm]

/-- A request is sent to the open connection, as made for the record, with some time to wait. -/
theorem start_ok_iff {sending : Sending τ} :
    s.start headersSupported connection record deadline now = .ok sending ↔
      connection = .connected sending.transport ∧
      s.request (headersSupported sending.transport) record = .ok sending.request ∧
      s.timeLimit now deadline = some sending.timeout := by
  obtain ⟨t, r, limit⟩ := sending
  cases connection with
  | unconnected => simp [start, Connection.acquire]
  | closed => simp [start, Connection.acquire]
  | connected t' =>
    simp only [start, Connection.acquire, Connection.connected.injEq]
    by_cases ht : t' = t
    · subst ht
      cases hr : s.request (headersSupported t') record with
      | error e => simp
      | ok r' =>
        cases hl : s.timeLimit now deadline with
        | none => simp
        | some limit' => simp
    · simp only [ht, false_and, iff_false]
      cases hr : s.request (headersSupported t') record with
      | error e => simp
      | ok r' => cases hl : s.timeLimit now deadline <;> simp [ht]

theorem start_late (h : connection = .connected transport) {r : Request}
    (hr : s.request (headersSupported transport) record = .ok r)
    (hd : s.timeLimit now deadline = none) :
    s.start headersSupported connection record deadline now = .error (.timeout r.subject .zero) := by
  subst h
  simp only [start, Connection.acquire, hr, hd]

/-! ## The outcome -/

theorem process_of_start_error {e : StageError}
    (h : s.start headersSupported connection record deadline now = .error e) :
    s.process headersSupported respond connection record deadline now = ⟨none, .error e, 0⟩ := by
  simp only [process, h]

theorem process_of_start_ok {sending : Sending τ}
    (h : s.start headersSupported connection record deadline now = .ok sending) :
    s.process headersSupported respond connection record deadline now =
      ⟨some sending, (s.conclude sending (respond sending)).2,
        (s.conclude sending (respond sending)).1⟩ := by
  simp only [process, h]

theorem sent_eq_some_iff {sending : Sending τ} :
    (s.process headersSupported respond connection record deadline now).sent = some sending ↔
      s.start headersSupported connection record deadline now = .ok sending := by
  cases h : s.start headersSupported connection record deadline now with
  | error e => simp [process_of_start_error h]
  | ok sending' => simp [process_of_start_ok h]

/-- The transport's part in the outcome is its response to the request that is sent, if one is. -/
theorem process_congr {respond' : Sending τ → Response}
    (h : ∀ sending, (s.process headersSupported respond connection record deadline now).sent =
      some sending → respond' sending = respond sending) :
    s.process headersSupported respond' connection record deadline now =
      s.process headersSupported respond connection record deadline now := by
  cases hs : s.start headersSupported connection record deadline now with
  | error e => rw [process_of_start_error hs, process_of_start_error hs]
  | ok sending =>
    rw [process_of_start_ok hs, process_of_start_ok hs, h sending (sent_eq_some_iff.2 hs)]

theorem heads_exists_iff {supported : Bool} :
    (∃ headers, s.Heads supported record headers) ↔
      (supported = true → ∃ headers, s.headers.resolve record = .ok headers) := by
  constructor
  · rintro ⟨headers, h⟩ rfl
    cases headers with
    | none => cases h
    | some headers => exact ⟨headers, h.2⟩
  · intro h
    cases supported with
    | false => exact ⟨none, rfl⟩
    | true =>
      obtain ⟨headers, hh⟩ := h rfl
      exact ⟨some headers, rfl, hh⟩

/-- A request is sent exactly when the connection is open, the record has a subject and, where they
are supported, headers, and the deadline is still to come. -/
theorem sent_iff (built : ofSettings c = .ok s) :
    (∃ sending, (s.process headersSupported respond connection record deadline now).sent =
        some sending) ↔
      ∃ transport subject, connection = .connected transport ∧ c.Names record subject ∧
        (headersSupported transport = true → ∃ headers, s.headers.resolve record = .ok headers) ∧
        ∀ d, deadline = some d → now.nanos < d.nanos := by
  simp only [sent_eq_some_iff, start_ok_iff, request_ok_iff, ← heads_exists_iff, names_iff built]
  constructor
  · rintro ⟨sending, hc, ⟨hs, -, hh⟩, hl⟩
    refine ⟨_, _, hc, hs, ⟨_, hh⟩, fun d hd => Nat.lt_of_not_le fun hle => ?_⟩
    rw [timeLimit_eq_none_iff.2 ⟨d, hd, hle⟩] at hl
    cases hl
  · rintro ⟨transport, subject, hc, hs, ⟨headers, hh⟩, hd⟩
    cases hl : s.timeLimit now deadline with
    | none =>
      obtain ⟨d, hsome, hle⟩ := timeLimit_eq_none_iff.1 hl
      exact absurd (hd d hsome) (Nat.not_lt.2 hle)
    | some limit => exact ⟨⟨transport, ⟨subject, record.payload, headers⟩, limit⟩, hc, ⟨hs, rfl, hh⟩, rfl⟩

theorem conclude_inTime {sending : Sending τ} {millis : Nat} {answer : Except StageError Reply}
    (h : millis ≤ sending.timeout.ceilMillis) :
    s.conclude sending (.after millis answer) = (millis, s.accept answer) := by
  simp only [conclude, h, if_true]

theorem conclude_late {sending : Sending τ} {response : Response}
    (h : ∀ millis answer, response = .after millis answer → sending.timeout.ceilMillis < millis) :
    s.conclude sending response = (sending.timeout.ceilMillis,
      .error (.timeout sending.request.subject sending.timeout)) := by
  cases response with
  | never => rfl
  | after millis answer =>
    have := h millis answer rfl
    simp only [conclude, Nat.not_le.2 this, if_false, conclude.late]

/-- What comes of a record. That there is one request at most is in the type of `Processed.sent`: the
first part only says that the transport's response to any other request changes nothing. Where calls
run side by side, `Shared.sentBy` counts what each of them sends. An answer is in time within the
whole milliseconds of the wait, rounded up, so up to the end of the millisecond in which the wait
ends (`Duration.ceilMillis_bounds`). -/
theorem process_outcome (built : ofSettings c = .ok s) (headersSupported : τ → Bool)
    (respond : Sending τ → Response) (connection : Connection τ) (record : Record)
    (deadline : Option Duration) (now : Duration) :
    let p := s.process headersSupported respond connection record deadline now
    -- One request at most: the transport is asked for nothing but the request that is sent.
    (∀ respond' : Sending τ → Response,
      (∀ sending, p.sent = some sending → respond' sending = respond sending) →
      s.process headersSupported respond' connection record deadline now = p) ∧
    -- It is sent exactly when nothing is in its way.
    ((∃ sending, p.sent = some sending) ↔
      ∃ transport subject, connection = .connected transport ∧ c.Names record subject ∧
        (headersSupported transport = true → ∃ headers, s.headers.resolve record = .ok headers) ∧
        ∀ d, deadline = some d → now.nanos < d.nanos) ∧
    -- It carries the subject, the payload and, where they are supported, the headers of the record.
    (∀ sending, p.sent = some sending →
      connection = .connected sending.transport ∧ c.Names record sending.request.subject ∧
        sending.request.payload = record.payload ∧
        (headersSupported sending.transport = true →
          ∃ headers, s.headers.resolve record = .ok headers ∧
            sending.request.headers = some headers) ∧
        (headersSupported sending.transport = false → sending.request.headers = none)) ∧
    -- Of several things in its way the first is the error: no connection,
    ((∀ transport, connection ≠ .connected transport) →
      p.sent = none ∧ p.result = .error .closed) ∧
    -- no subject,
    (∀ transport e, connection = .connected transport → c.Nameless record e →
      p.sent = none ∧ p.result = .error (.template e)) ∧
    -- no headers,
    (∀ transport subject e, connection = .connected transport → c.Names record subject →
      headersSupported transport = true → s.headers.resolve record = .error e →
      (∃ name err, e = .headerTemplate name err) ∧ p.sent = none ∧ p.result = .error e) ∧
    -- no time.
    (∀ transport subject d, connection = .connected transport → c.Names record subject →
      (headersSupported transport = true → ∃ headers, s.headers.resolve record = .ok headers) →
      deadline = some d → d.nanos ≤ now.nanos →
      p.sent = none ∧ p.result = .error (.timeout subject .zero)) ∧
    -- A request waits for the time of the settings, or until the deadline if that comes first.
    (∀ sending, p.sent = some sending →
      0 < sending.timeout.nanos ∧ ∃ limit, c.waitTime = .ok limit ∧ sending.timeout.nanos =
        deadline.elim limit.nanos fun d => min limit.nanos (d.nanos - now.nanos)) ∧
    -- The result is the transport's error, the record of its reply, or that no answer came in time.
    (∀ sending, p.sent = some sending →
      (∀ millis e, respond sending = .after millis (.error e) →
        millis ≤ sending.timeout.ceilMillis → p.result = .error e) ∧
      (∀ millis reply, respond sending = .after millis (.ok reply) →
        millis ≤ sending.timeout.ceilMillis → p.result = reply.toRecord c.maxReplyBytes) ∧
      ((∀ millis answer, respond sending = .after millis answer →
          sending.timeout.ceilMillis < millis) →
        p.result = .error (.timeout sending.request.subject sending.timeout))) := by
  intro p
  obtain ⟨_, hv, _, _, _, _, hm⟩ := ofSettings_ok built
  refine ⟨fun _ => process_congr, sent_iff built, fun sending h => ?_, fun h => ?_,
    fun transport e ht he => ?_, fun transport subject e ht hn hsup he => ?_,
    fun transport subject d ht hn hh hd hle => ?_, fun sending h => ?_, fun sending h => ?_⟩
  · obtain ⟨hc, hr, -⟩ := start_ok_iff.1 (sent_eq_some_iff.1 h)
    obtain ⟨hs, hp, hh⟩ := request_ok_iff.1 hr
    refine ⟨hc, (names_iff built).2 hs, hp, fun hsup => ?_, fun hsup => ?_⟩
    · cases hheaders : sending.request.headers with
      | none => rw [hheaders, hsup] at hh; cases hh
      | some headers => rw [hheaders] at hh; exact ⟨headers, hh.2, rfl⟩
    · cases hheaders : sending.request.headers with
      | none => rfl
      | some headers => rw [hheaders, hsup] at hh; cases hh.1
  · simp only [p, process_of_start_error (start_closed h), and_self]
  · have hstart : s.start headersSupported connection record deadline now = .error (.template e) :=
      start_nameless ht (resolve_of_nameless built he)
    simp only [p, process_of_start_error hstart, and_self]
  · have hstart : s.start headersSupported connection record deadline now = .error e :=
      start_headers_error ht ((names_iff built).1 hn) hsup he
    refine ⟨HeaderRules.resolve_error he, ?_⟩
    simp only [p, process_of_start_error hstart, and_self]
  · obtain ⟨headers, hh⟩ := heads_exists_iff.2 hh
    have hr : s.request (headersSupported transport) record =
        .ok ⟨subject, record.payload, headers⟩ :=
      request_ok_iff.2 ⟨(names_iff built).1 hn, rfl, hh⟩
    have hstart := start_late ht hr (timeLimit_eq_none_iff.2 ⟨d, hd, hle⟩)
    simp only [p, process_of_start_error hstart, and_self]
  · obtain ⟨-, -, hl⟩ := start_ok_iff.1 (sent_eq_some_iff.1 h)
    exact ⟨timeLimit_pos built hl, s.timeout, StageSettings.waitTime_of_validate hv,
      nanos_of_timeLimit hl⟩
  · have hp : p = ⟨some sending, (s.conclude sending (respond sending)).2,
        (s.conclude sending (respond sending)).1⟩ := process_of_start_ok (sent_eq_some_iff.1 h)
    refine ⟨fun millis e hr hle => ?_, fun millis reply hr hle => ?_, fun hr => ?_⟩
    · simp only [hp, hr, conclude_inTime hle, accept]
    · simp only [hp, hr, conclude_inTime hle, accept, hm]
    · simp only [hp, conclude_late hr]

/-- A stage that waits for three seconds waits for two, when the deadline is two seconds ahead. -/
theorem process_outcome_near_deadline :
    let c : StageSettings := {
      subject := "orders.$\x7b! meta(\"id\").or(\"none\") \x7d"
      headers := .ofList [("X-Trace", "$\x7b! meta(\"trace\") \x7d")] }
    let s : Stage := {
      label := defaultName
      subject := ⟨c.subject, [.literal "orders.", .expression ⟨.metadata "id", some "none"⟩]⟩
      headers := {
        templates := [("X-Trace", ⟨"$\x7b! meta(\"trace\") \x7d",
          [.expression ⟨.metadata "trace", none⟩]⟩)]
        filter := {} }
      timeout := ⟨3000000000⟩
      maxReplyBytes := none }
    let record := (Record.ofPayload [0x41]).set "trace" "t1"
    let p := s.process (fun _ : Unit => true) (fun _ => .never) (.connected ()) record
      (some ⟨5000000000⟩) ⟨3000000000⟩
    ofSettings c = .ok s ∧ ∃ sending, p.sent = some sending ∧ sending.timeout = ⟨2000000000⟩ ∧
      p.result = .error (.timeout sending.request.subject sending.timeout) := by
  intro c s record p
  have built : ofSettings c = .ok s := ok_of_toOption (by decide +kernel)
  have names : c.Names record "orders.none" :=
    ⟨s.subject.template, ok_of_toOption (by decide +kernel), ok_of_toOption (by decide +kernel),
      by decide +kernel⟩
  have heads : s.headers.resolve record = .ok (.ofList [("X-Trace", "t1")]) :=
    ok_of_toOption (by decide +kernel)
  obtain ⟨-, hsent, -, -, -, -, -, hwait, hresult⟩ := process_outcome built (fun _ : Unit => true)
    (fun _ => .never) (.connected ()) record (some ⟨5000000000⟩) ⟨3000000000⟩
  obtain ⟨sending, h⟩ := hsent.2
    ⟨(), "orders.none", rfl, names, fun _ => ⟨_, heads⟩, fun d hd => by cases hd; decide⟩
  obtain ⟨-, limit, hlimit, hnanos⟩ := hwait sending h
  rw [show c.waitTime = .ok s.timeout from ok_of_toOption (by decide +kernel)] at hlimit
  cases hlimit
  refine ⟨built, sending, h, ?_, (hresult sending h).2.2 (fun _ _ hr => by cases hr)⟩
  cases ht : sending.timeout with
  | mk nanos =>
    rw [ht] at hnanos
    exact congrArg Duration.mk hnanos

end Stage
end ReplyStage
