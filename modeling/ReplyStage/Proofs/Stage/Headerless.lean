import ReplyStage.Proofs.Stage.Process
import ReplyStage.Proofs.Template.Values
/-!
# Stages over a connection without headers

Where a connection carries no headers, a stage leaves alone what is configured about them. What comes
of a record is then told by its payload and by the metadata that the subject is made of
(`process_without_headers`), and neither the header templates nor the filter make a difference
(`process_headerless`).
-/

namespace ReplyStage

/-! ## What a template takes from a record -/

/-- Two records with the same payload, and the same metadata under some keys. -/
structure Record.AgreeOn (keys : List String) (left right : Record) : Prop where
  payload : left.payload = right.payload
  metadata : ∀ key ∈ keys, left.get? key = right.get? key

/-- The metadata key that a segment takes its text from, if it takes it from there. -/
def Segment.metadataKey? : Segment → Option String
  | .expression ⟨.metadata key, _⟩ => some key
  | .expression ⟨.json _, _⟩ | .expression ⟨.content, _⟩ | .literal _ => none

/-- The metadata keys that a template names. -/
def Template.metadataKeys (t : Template) : List String := t.segments.filterMap Segment.metadataKey?

variable {keys : List String} {left right : Record}

theorem Record.AgreeOn.json (h : AgreeOn keys left right) : left.json = right.json := by
  rw [Record.json, h.payload, Record.json]

theorem Record.AgreeOn.text (h : AgreeOn keys left right) : left.text = right.text := by
  rw [Record.text, h.payload, Record.text]

theorem Record.agreeOn_set {key : String} (h : key ∉ keys) (r : Record) (value : String) :
    r.AgreeOn keys (r.set key value) where
  payload := (payload_set r key value).symm
  metadata other hother := by
    rw [get?_set, if_neg]
    rintro rfl
    exact h hother

theorem Segment.value_congr {s : Segment} (h : left.AgreeOn keys right)
    (hkey : ∀ key, s.metadataKey? = some key → key ∈ keys) : s.value left = s.value right := by
  cases s with
  | literal text => rfl
  | expression e =>
    obtain ⟨selector, default⟩ := e
    rw [value, value, h.json]
    cases selector with
    | metadata key => simp only [Selector.pick, h.metadata key (hkey key rfl)]
    | json path => rfl
    | content => simp only [Selector.pick, h.text]

theorem Template.valueOfSegments_congr {segments : List Segment}
    (h : ∀ s ∈ segments, s.value left = s.value right) :
    valueOfSegments left segments = valueOfSegments right segments := by
  induction segments with
  | nil => rfl
  | cons s rest ih =>
    obtain ⟨hs, hrest⟩ := List.forall_mem_cons.mp h
    rw [valueOfSegments, valueOfSegments, hs, ih hrest]

/-- A template looks at nothing of a record but its payload and the metadata that it names. -/
theorem Template.evaluate_congr {t : Template} (h : left.AgreeOn t.metadataKeys right) :
    t.evaluate left = t.evaluate right := by
  rw [evaluate_eq, evaluate_eq]
  apply valueOfSegments_congr
  intro s hs
  apply Segment.value_congr h
  intro key hkey
  exact List.mem_filterMap.mpr ⟨s, hs, hkey⟩

theorem SubjectRule.resolve_congr {r : SubjectRule} (h : left.AgreeOn r.template.metadataKeys right) :
    r.resolve left = r.resolve right := by
  rw [resolve, resolve, Template.evaluate_congr h]

namespace Stage

variable {τ : Type} {c : StageSettings} {s s' : Stage} {headersSupported : τ → Bool}
  {connection : Connection τ} {headers : Dict String} {forwarded : FilterSettings}

/-! ## What a stage makes of a record without headers -/

/-- Without headers a request is a subject and the payload. -/
theorem request_headerless (s : Stage) (record : Record) :
    s.request false record =
      (s.subject.resolve record).map fun subject => ⟨subject, record.payload, none⟩ := by
  unfold request
  cases s.subject.resolve record <;> rfl

/-- Neither the rules for headers nor metadata that the subject does not name have a part in it. -/
theorem start_without_headers (s : Stage) (rules : HeaderRules)
    (unsupported : ∀ transport, connection = .connected transport → headersSupported transport = false)
    (h : left.AgreeOn s.subject.template.metadataKeys right) (deadline : Option Duration)
    (now : Duration) :
    start { s with headers := rules } headersSupported connection right deadline now =
      s.start headersSupported connection left deadline now := by
  cases connection with
  | unconnected => rfl
  | closed => rfl
  | connected transport =>
    simp only [start, Connection.acquire, unsupported transport rfl, request_headerless,
      SubjectRule.resolve_congr h, h.payload]
    rfl

theorem process_without_headers (s : Stage) (rules : HeaderRules)
    (unsupported : ∀ transport, connection = .connected transport → headersSupported transport = false)
    (h : left.AgreeOn s.subject.template.metadataKeys right) (respond : Sending τ → Response)
    (deadline : Option Duration) (now : Duration) :
    process { s with headers := rules } headersSupported respond connection right deadline now =
      s.process headersSupported respond connection left deadline now := by
  rw [process, process, start_without_headers s rules unsupported h]
  rfl

/-- Settings that differ in what they say about headers make stages that differ in that only. -/
theorem eq_of_ofSettings (built : ofSettings c = .ok s)
    (built' : ofSettings { c with headers, forwarded } = .ok s') :
    s' = { s with headers := s'.headers } := by
  obtain ⟨_, hvalid, -, hsubject, -, hlabel, hlimit⟩ := ofSettings_ok built
  obtain ⟨_, hvalid', -, hsubject', -, hlabel', hlimit'⟩ := ofSettings_ok built'
  have hwait := StageSettings.waitTime_of_validate hvalid
  have hwait' := StageSettings.waitTime_of_validate hvalid'
  have htimeout : s'.timeout = s.timeout := Except.ok.inj (hwait'.symm.trans hwait)
  have hrule : s'.subject = s.subject := Except.ok.inj (hsubject'.symm.trans hsubject)
  calc s' = ⟨s'.label, s'.subject, s'.headers, s'.timeout, s'.maxReplyBytes⟩ := rfl
    _ = ⟨s.label, s.subject, s'.headers, s.timeout, s.maxReplyBytes⟩ := by
      rw [hlabel', hrule, htimeout, hlimit', hlabel, hlimit]

/-- What comes of a record over a connection without headers. -/
theorem process_headerless (built : ofSettings c = .ok s)
    (built' : ofSettings { c with headers, forwarded } = .ok s')
    (unsupported : ∀ transport, connection = .connected transport → headersSupported transport = false)
    (respond : Sending τ → Response) (record : Record) (deadline : Option Duration)
    (now : Duration) :
    let p := s.process headersSupported respond connection record deadline now
    -- Header templates and filter make no difference, to what is sent or to what comes of it,
    s'.process headersSupported respond connection record deadline now = p ∧
    -- there are no headers in what is sent,
    (∀ sending, p.sent = some sending → sending.request.headers = none) ∧
    -- and of the metadata only the entries count that the subject names.
    ∀ other, record.AgreeOn s.subject.template.metadataKeys other →
      s.process headersSupported respond connection other deadline now = p ∧
        s'.process headersSupported respond connection other deadline now = p := by
  intro p
  have hsame : ∀ rules other, record.AgreeOn s.subject.template.metadataKeys other →
      process { s with headers := rules } headersSupported respond connection other deadline now = p :=
    fun rules other h => process_without_headers s rules unsupported h respond deadline now
  have hself : record.AgreeOn s.subject.template.metadataKeys record := ⟨rfl, fun _ _ => rfl⟩
  rw [eq_of_ofSettings built built']
  refine ⟨hsame s'.headers record hself, fun sending hsent => ?_, fun other h =>
    ⟨hsame s.headers other h, hsame s'.headers other h⟩⟩
  obtain ⟨hconnected, hrequest, -⟩ := start_ok_iff.mp (sent_eq_some_iff.mp hsent)
  rw [unsupported _ hconnected, request_headerless] at hrequest
  obtain ⟨subject, -, hrequest⟩ := map_ok hrequest
  rw [← hrequest]

/-- For instance, a stage with a header that the record has no value for. -/
def ofTraces : StageSettings where
  subject := "orders.$\x7b! meta(\"id\") \x7d"
  headers := .ofList [("X-Trace", "$\x7b! meta(\"trace\") \x7d")]

/-- Without headers it sends what a stage with a filter sends, whose record has a trace. -/
theorem process_headerless_ofTraces :
    let s : Stage := {
      label := defaultName
      subject := ⟨ofTraces.subject, [.literal "orders.", .expression ⟨.metadata "id", none⟩]⟩
      headers := {
        templates := [("X-Trace", ⟨"$\x7b! meta(\"trace\") \x7d",
          [.expression ⟨.metadata "trace", none⟩]⟩)]
        filter := {} }
      timeout := ⟨3000000000⟩
      maxReplyBytes := none }
    let s' : Stage := { s with headers := ⟨[], { includePrefixes := ["tr"] }⟩ }
    let record := (Record.ofPayload [0x41]).set "id" "7"
    let p := s.process (fun _ : Unit => false) (fun _ => .never) (.connected ()) record none ⟨0⟩
    ofSettings ofTraces = .ok s ∧
      ofSettings { ofTraces with headers := .empty, forwarded := { includePrefixes := ["tr"] } } =
        .ok s' ∧
      p.sent = some ⟨(), ⟨"orders.7", [0x41], none⟩, ⟨3000000000⟩⟩ ∧
      s'.process (fun _ : Unit => false) (fun _ => .never) (.connected ())
        (record.set "trace" "t1") none ⟨0⟩ = p := by
  intro s s' record p
  have built : ofSettings ofTraces = .ok s := ok_of_toOption (by decide +kernel)
  have built' : ofSettings { ofTraces with
      headers := .empty, forwarded := { includePrefixes := ["tr"] } } = .ok s' :=
    ok_of_toOption (by decide +kernel)
  have unsupported : ∀ transport, Connection.connected () = .connected transport →
      (fun _ : Unit => false) transport = false := fun _ _ => rfl
  have agree : record.AgreeOn s.subject.template.metadataKeys (record.set "trace" "t1") :=
    Record.agreeOn_set (by decide) record "t1"
  obtain ⟨-, -, hother⟩ := process_headerless built built' unsupported (fun _ => .never) record none ⟨0⟩
  exact ⟨built, built', by decide +kernel, (hother _ agree).2⟩

end Stage
end ReplyStage
