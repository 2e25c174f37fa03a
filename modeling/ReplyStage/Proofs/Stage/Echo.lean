import ReplyStage.Proofs.Reply.Metadata
import ReplyStage.Proofs.Request.Headers
import ReplyStage.Proofs.Stage.Process
/-!
# Metadata that comes back

A record's metadata goes out in headers, and the headers of a reply become the metadata of the
record that is made of it. What is lost on the way shows with a responder that sends back what it
got: `process_echo` says what the record that comes out has under each key. A header that is made of
a template hides the metadata of the same name, even where it is empty, and an empty value is
dropped.
-/

namespace ReplyStage

/-- What a responder replies that sends back what it got. -/
def Request.echo (r : Request) : Reply where
  subject := r.subject
  payload := r.payload
  headers := r.headers

/-- Every request is answered in time with what it carries. -/
def Echoes {τ : Type} (respond : Sending τ → Response) : Prop :=
  ∀ sending, ∃ millis ≤ sending.timeout.ceilMillis,
    respond sending = .after millis (.ok sending.request.echo)

namespace StageSettings

/-- The value of the header template with a name, where there is one. -/
def templated? (c : StageSettings) (record : Record) (name : String) : Option String :=
  (c.headers.get? name).bind fun text =>
    (Template.compile text).toOption.bind fun template => (template.evaluate record).toOption

/-- A record's metadata under a key, where it has any and it is selected. -/
def selected? (c : StageSettings) (record : Record) (key : String) : Option String :=
  (Filter.ofSettings c.forwarded).toOption.bind fun filter =>
    if filter.selects key then record.get? key else none

/-- The value that stands first under a name in a record's request: that of the header template with
this name if there is one, else the record's metadata, if it is selected. -/
def forwarded? (c : StageSettings) (record : Record) (name : String) : Option String :=
  if (c.headers.get? name).isSome then c.templated? record name else c.selected? record name

end StageSettings

namespace Stage

variable {c : StageSettings} {s : Stage} {record : Record} {subject : String} {headers : HeaderMap}

/-- The headers of a record have the forwarded values first. -/
theorem head?_get_resolve (built : ofSettings c = .ok s)
    (heads : s.headers.resolve record = .ok headers) (name : String) :
    (headers.get name).head? = c.forwarded? record name := by
  obtain ⟨filter, -, hfilter, -, hrules, -⟩ := ofSettings_ok built
  obtain ⟨templates, hcompile, hs⟩ := map_ok hrules
  obtain ⟨values, heval, rfl⟩ := map_ok heads
  rw [← hs] at heval ⊢
  rw [HeaderMap.head?_get_ofList, lookupEntry_append, Filter.lookupEntry_select]
  have hvalued := HeaderRules.rel_values hcompile heval name
  unfold StageSettings.forwarded? StageSettings.templated? StageSettings.selected?
  rw [hfilter]
  generalize c.headers.get? name = text? at hvalued ⊢
  generalize lookupEntry name values = value? at hvalued ⊢
  cases hvalued with
  | none => rfl
  | some h =>
    obtain ⟨template, htext, hvalue⟩ := h
    simp [htext, hvalue, Except.toOption]

/-- A record's metadata comes back from a responder that sends back what it got, as far as the
request carries it. -/
theorem process_echo {τ : Type} {transport : τ} {headersSupported : τ → Bool}
    {respond : Sending τ → Response} (built : ofSettings c = .ok s)
    (supported : headersSupported transport = true) (echoes : Echoes respond)
    (names : c.Names record subject) (heads : s.headers.resolve record = .ok headers)
    (fits : ∀ limit, c.maxReplyBytes = some limit → record.payload.length ≤ limit)
    (deadline : Option Duration) (now : Duration)
    (ahead : ∀ d, deadline = some d → now.nanos < d.nanos) :
    ∃ out, (s.process headersSupported respond (.connected transport) record deadline now).result =
        .ok out ∧ out.payload = record.payload ∧
      -- a forwarded value comes back unless it is empty, and the stage itself tells the subject,
      (∀ key, out.get? key = ((c.forwarded? record key).filter (· ≠ "")).or
        (if key = "nats_subject" then some subject else none)) ∧
      -- so selected metadata comes back if no template hides it,
      (∀ key value, c.headers.get? key = none → c.selected? record key = some value → value ≠ "" →
        out.get? key = some value) ∧
      -- and there is nothing else
      (∀ key value, out.get? key = some value → c.templated? record key = some value ∨
        (c.headers.get? key = none ∧ c.selected? record key = some value) ∨
        (key = "nats_subject" ∧ value = subject)) := by
  obtain ⟨-, -, -, -, -, -, hmax⟩ := ofSettings_ok built
  have hlimit : s.timeLimit now deadline ≠ none := fun hnone => by
    obtain ⟨d, hd, hle⟩ := timeLimit_eq_none_iff.1 hnone
    exact absurd (ahead d hd) (Nat.not_lt.2 hle)
  obtain ⟨limit, hlimit⟩ := Option.ne_none_iff_exists'.1 hlimit
  have hrequest : s.request (headersSupported transport) record =
      .ok ⟨subject, record.payload, some headers⟩ :=
    request_ok_iff.2 ⟨(names_iff built).1 names, rfl, supported, heads⟩
  have hstart : s.start headersSupported (.connected transport) record deadline now =
      .ok ⟨transport, ⟨subject, record.payload, some headers⟩, limit⟩ :=
    start_ok_iff.2 ⟨rfl, hrequest, hlimit⟩
  obtain ⟨millis, hle, hresponse⟩ :=
    echoes ⟨transport, ⟨subject, record.payload, some headers⟩, limit⟩
  obtain ⟨out, hout⟩ : ∃ out, (Request.echo ⟨subject, record.payload, some headers⟩).toRecord
      s.maxReplyBytes = .ok out :=
    ⟨_, Reply.toRecord_eq_ok_iff.mpr ⟨hmax ▸ fits, rfl⟩⟩
  have hget : ∀ key, out.get? key = ((c.forwarded? record key).filter (· ≠ "")).or
      (if key = "nats_subject" then some subject else none) := fun key => by
    rw [Reply.get?_toRecord hout, ← head?_get_resolve built heads]
    rfl
  refine ⟨out, ?_, Reply.payload_toRecord hout, hget, fun key value hnone hvalue hne => ?_,
    fun key value hvalue => ?_⟩
  · rw [process_of_start_ok hstart, hresponse, conclude_inTime hle]
    exact hout
  · rw [hget, StageSettings.forwarded?, hnone, hvalue]
    simp [Option.filter, hne]
  · rw [hget] at hvalue
    rcases Option.or_eq_some_iff.1 hvalue with hfirst | ⟨-, hown⟩
    · obtain ⟨hforwarded, -⟩ := Option.filter_eq_some_iff.1 hfirst
      unfold StageSettings.forwarded? at hforwarded
      split at hforwarded
      · exact .inl hforwarded
      · rename_i hnone
        exact .inr (.inl ⟨by simpa using hnone, hforwarded⟩)
    · split at hown
      · rename_i hkey
        exact .inr (.inr ⟨hkey, (Option.some.inj hown).symm⟩)
      · cases hown

/-- For instance, a stage whose header template makes a trace that is forwarded too, with an empty
value among the metadata. -/
def ofTraced : StageSettings where
  subject := "orders.$\x7b! meta(\"id\").or(\"none\") \x7d"
  headers := .ofList [("trace", "t-$\x7b! meta(\"id\") \x7d")]
  forwarded := { includePrefixes := ["tr"], includePatterns := ["^id$"] }
  maxReplyBytes := some 4

theorem process_echo_traced :
    let record : Record :=
      ⟨[0x41], .ofList [("id", "7"), ("other", "x"), ("trace", "old"), ("tree", "")]⟩
    ∃ s out, ofSettings ofTraced = .ok s ∧
      (s.process (fun _ : Unit => true) (fun sending => .after 0 (.ok sending.request.echo))
        (.connected ()) record none ⟨0⟩).result = .ok out ∧
      out.payload = [0x41] ∧ out.get? "trace" = some "t-7" ∧ out.get? "id" = some "7" ∧
      out.get? "tree" = none ∧ out.get? "nats_subject" = some "orders.7" := by
  intro record
  have resolves : ((ofSettings ofTraced).toOption.bind fun s =>
      (s.headers.resolve record).toOption).isSome = true := by decide +kernel
  obtain ⟨headers, hheaders⟩ := Option.isSome_iff_exists.1 resolves
  obtain ⟨s, hs, hheads⟩ := Option.bind_eq_some_iff.1 hheaders
  have built : ofSettings ofTraced = .ok s := ok_of_toOption hs
  have names : ofTraced.Names record "orders.7" :=
    ⟨⟨ofTraced.subject, [.literal "orders.", .expression ⟨.metadata "id", some "none"⟩]⟩,
      ok_of_toOption (by decide +kernel), ok_of_toOption (by decide +kernel), by decide +kernel⟩
  let supports : Unit → Bool := fun _ => true
  have supported : supports () = true := rfl
  have echoes : Echoes fun sending : Sending Unit => .after 0 (.ok sending.request.echo) :=
    fun sending => ⟨0, Nat.zero_le _, rfl⟩
  obtain ⟨out, hout, hpayload, hget, -⟩ := process_echo built supported echoes names
    (ok_of_toOption hheads) (fun limit hlimit => by cases hlimit; decide) none ⟨0⟩ nofun
  refine ⟨s, out, built, hout, hpayload, ?_, ?_, ?_, ?_⟩
  all_goals rw [hget]
  all_goals decide +kernel

end Stage
end ReplyStage
