import ReplyStage.Proofs.Reply.Delivery
import ReplyStage.Proofs.Reply.Metadata
/-!
# The record of a reply

Everything that a record made of a reply holds, told by the reply alone. Three sources are written
one after another: the subject, what the reply's own subject tells about a delivery, and the headers,
whose names come in any order. `toRecord_contents` says what is under each key and that the order
does not show.
-/

namespace ReplyStage

namespace HeaderMap

/-- What headers bring along when their names are walked in the given order. -/
def firstValuesIn (order : List (String × List String)) : List (String × String) :=
  pickEntries (fun values => values.head?.filter (· ≠ "")) order

theorem firstValue?_eq_some_iff {h : HeaderMap} {name value : String} :
    h.firstValue? name = some value ↔ (h.get name).head? = some value ∧ value ≠ "" := by
  rw [firstValue?, Option.filter_eq_some_iff, decide_eq_true_iff]

end HeaderMap

namespace Record

/-- Entries with different keys may be set in any order. -/
theorem setAll_perm {entries others : List (String × String)} (hperm : others.Perm entries)
    (h : (entries.map Prod.fst).Nodup) (record : Record) :
    record.setAll others = record.setAll entries := by
  have hmetadata : (record.setAll others).metadata = (record.setAll entries).metadata := by
    rw [metadata_setAll, metadata_setAll, Dict.insertAll_perm hperm h]
  have hpayload : (record.setAll others).payload = (record.setAll entries).payload := by
    rw [payload_setAll, payload_setAll]
  generalize record.setAll others = left at hmetadata hpayload
  generalize record.setAll entries = right at hmetadata hpayload
  cases left
  cases right
  cases hmetadata
  cases hpayload
  rfl

end Record

/-! ## Deliveries -/

namespace Delivery

/-- The counts in the metadata of a delivery. -/
def counts (info : Delivery) : List (String × Nat) := [
  ("nats_sequence_stream", info.streamSequence),
  ("nats_sequence_consumer", info.consumerSequence),
  ("nats_num_delivered", info.delivered),
  ("nats_num_pending", info.pending)]

theorem mem_entries_of_mem_counts {info : Delivery} {e : String × Nat} (h : e ∈ info.counts) :
    (e.1, toString e.2) ∈ info.entries := by
  simp only [counts, List.mem_cons, List.not_mem_nil, or_false] at h
  rcases h with rfl | rfl | rfl | rfl <;> simp [entries]

/-- What is told of a delivery are numbers in their ranges. -/
theorem AckTokens.numbers {tokens : List String} {info : Delivery} (h : AckTokens tokens info) :
    ∃ delivered streamSequence consumerSequence timestamp pending,
      info.Numbers delivered streamSequence consumerSequence timestamp pending := by
  cases h with
  | short _ hnumbers => exact ⟨_, _, _, _, _, hnumbers⟩
  | long _ hnumbers => exact ⟨_, _, _, _, _, hnumbers⟩

theorem AckTokens.counts_le {tokens : List String} {info : Delivery} (h : AckTokens tokens info)
    {e : String × Nat} (he : e ∈ info.counts) : e.2 ≤ Text.maxWord := by
  obtain ⟨_, _, _, _, _, hnumbers⟩ := h.numbers
  simp only [counts, List.mem_cons, List.not_mem_nil, or_false] at he
  rcases he with rfl | rfl | rfl | rfl
  · exact hnumbers.streamSequence.2
  · exact hnumbers.consumerSequence.2
  · exact hnumbers.delivered.2
  · exact hnumbers.pending.2

/-- The time of a delivery comes back from what is written of it. -/
theorem AckTokens.readInt_timestamp {tokens : List String} {info : Delivery}
    (h : AckTokens tokens info) :
    Text.readInt Text.maxWide (toString info.timestampNanos) = .ok info.timestampNanos := by
  obtain ⟨_, _, _, _, _, hnumbers⟩ := h.numbers
  obtain ⟨-, hlow, hhigh⟩ := hnumbers.timestamp
  have hwide : (Text.maxWide : Int) = 2 ^ 127 - 1 := rfl
  rw [Text.readInt_eq_ok_iff, hwide, Int.sub_add_cancel]
  exact ⟨Text.intText_toString _, hlow, hhigh⟩

end Delivery

namespace Reply

variable {r : Reply} {limit : Option Nat} {record : Record}

/-- A reply tells about a delivery: its own subject is an acknowledgement subject. -/
def TellsOf (r : Reply) (info : Delivery) : Prop :=
  ∃ subject, r.replyTo = some subject ∧ Delivery.AckTokens (Delivery.tokens subject) info

theorem delivery?_eq_some_iff {info : Delivery} : r.delivery? = some info ↔ r.TellsOf info := by
  rw [delivery?, Option.bind_eq_some_iff]
  constructor
  · rintro ⟨subject, hsubject, hinfo⟩
    exact ⟨subject, hsubject, Delivery.ackTokens_of_ofSubject? hinfo⟩
  · rintro ⟨subject, hsubject, htokens⟩
    exact ⟨subject, hsubject, Delivery.ofSubject?_of_ackTokens htokens⟩

/-! ## The order of the headers -/

/-- The names of a reply's headers with their values. -/
def headerValues (r : Reply) : List (String × List String) :=
  r.headers.elim [] fun headers => headers.values.entries

/-- The record of a reply whose headers are walked in the given order. -/
def toRecordIn (r : Reply) (order : List (String × List String)) (limit : Option Nat) :
    Except StageError Record :=
  (Record.ofReplyPayload r.payload limit).map fun record =>
    record.setAll (r.ownEntries ++ HeaderMap.firstValuesIn order)

theorem nodup_headerValues (r : Reply) : (r.headerValues.map Prod.fst).Nodup := by
  unfold headerValues
  cases r.headers with
  | none => exact .nil
  | some headers => exact headers.values.sorted.nodup_keys

theorem toRecord_eq (r : Reply) (limit : Option Nat) :
    r.toRecord limit = r.toRecordIn r.headerValues limit := by
  unfold toRecord toRecordIn headerEntries headerValues
  cases r.headers with
  | none => rfl
  | some headers => simp only [headers.firstValues_eq]; rfl

theorem toRecordIn_perm {order : List (String × List String)} (h : order.Perm r.headerValues)
    (limit : Option Nat) : r.toRecordIn order limit = r.toRecord limit := by
  have hperm : (HeaderMap.firstValuesIn order).Perm (HeaderMap.firstValuesIn r.headerValues) :=
    h.filterMap _
  have hnodup : ((HeaderMap.firstValuesIn r.headerValues).map Prod.fst).Nodup :=
    r.nodup_headerValues.sublist (keys_pickEntries _ _)
  rw [toRecord_eq, toRecordIn, toRecordIn]
  simp only [Record.setAll_append, Record.setAll_perm hperm hnodup]

/-! ## What is under each key -/

/-- The keys that the stage itself writes. -/
def reservedKeys : List String := "nats_subject" :: Delivery.keys

theorem toRecord_eq_error_iff {e : StageError} : r.toRecord limit = .error e ↔
    ∃ max, limit = some max ∧ max < r.payload.length ∧
      e = .conversion (.tooLarge r.payload.length max) := by
  rw [toRecord, map_eq_error_iff]
  unfold Record.ofReplyPayload
  cases limit with
  | none => simp
  | some max =>
    by_cases hmax : max < r.payload.length
    · simp [hmax, eq_comm]
    · simp [hmax]

theorem ownValue?_of_not_reserved {key : String} (h : key ∉ reservedKeys) :
    r.ownValue? key = none := by
  apply lookupEntry_eq_none
  intro hkey
  apply h
  unfold ownEntries at hkey
  cases hinfo : r.delivery? with
  | none =>
    rw [hinfo] at hkey
    exact List.mem_cons.mpr (.inl (List.mem_singleton.mp hkey))
  | some info =>
    rw [hinfo] at hkey
    exact hkey

theorem headerValue?_eq_some_iff {key value : String} :
    r.headerValue? key = some value ↔
      ∃ headers, r.headers = some headers ∧ (headers.get key).head? = some value ∧ value ≠ "" := by
  rw [headerValue?, Option.bind_eq_some_iff]
  simp only [HeaderMap.firstValue?_eq_some_iff]

/-- Only the headers count for a key that the stage does not write. -/
theorem get?_toRecord_of_not_reserved (h : r.toRecord limit = .ok record) {key : String}
    (hkey : key ∉ reservedKeys) : record.get? key = r.headerValue? key := by
  rw [get?_toRecord h, ownValue?_of_not_reserved hkey, Option.or_none]

/-- No header has a name that is one of the stage's keys. -/
def NamesNoReserved (r : Reply) : Prop :=
  ∀ headers, r.headers = some headers → ∀ key ∈ reservedKeys, headers.values.get? key = none

/-- Only the stage's values count for its keys if no header has such a name. -/
theorem get?_toRecord_of_reserved (h : r.toRecord limit = .ok record) (hnames : r.NamesNoReserved)
    {key : String} (hkey : key ∈ reservedKeys) : record.get? key = r.ownValue? key := by
  have hnone : r.headerValue? key = none := by
    cases hheaders : r.headers with
    | none => rw [headerValue?, hheaders, Option.bind_none]
    | some headers =>
      rw [headerValue?, hheaders, Option.bind_some, HeaderMap.firstValue?, HeaderMap.get,
        hnames headers hheaders key hkey]
      rfl
  rw [get?_toRecord h, hnone, Option.none_or]

theorem isSome_ownValue?_iff {key : String} (hkey : key ∈ Delivery.keys) :
    (∃ value, r.ownValue? key = some value) ↔ ∃ info, r.delivery? = some info := by
  cases hinfo : r.delivery? with
  | none => simp [ownValue?_eq_none hinfo hkey]
  | some info =>
    rw [← Delivery.keys_entries info] at hkey
    obtain ⟨e, he, rfl⟩ := List.mem_map.mp hkey
    exact iff_of_true ⟨e.2, ownValue?_delivery hinfo he⟩ ⟨info, rfl⟩

/-- All of a record that is made of a reply. -/
theorem toRecord_contents (r : Reply) (limit : Option Nat) :
    -- A reply makes no record just if its payload is over the limit.
    (∀ e, r.toRecord limit = .error e ↔ ∃ max, limit = some max ∧ max < r.payload.length ∧
      e = .conversion (.tooLarge r.payload.length max)) ∧
    -- The order in which its headers are walked does not matter.
    (∀ order, order.Perm r.headerValues → r.toRecordIn order limit = r.toRecord limit) ∧
    ∀ record, r.toRecord limit = .ok record →
      record.payload = r.payload ∧
      -- A key that is not the stage's own has the first value of the header with this name.
      (∀ key, key ∉ reservedKeys → ∀ value, record.get? key = some value ↔
        ∃ headers, r.headers = some headers ∧ (headers.get key).head? = some value ∧ value ≠ "") ∧
      -- If no header has the name of another key, the subject stands under its own,
      (r.NamesNoReserved → record.get? "nats_subject" = some r.subject ∧
        -- the others are there if the reply tells about a delivery,
        (∀ key ∈ Delivery.keys, (∃ value, record.get? key = some value) ↔
          ∃ info, r.TellsOf info) ∧
        -- and its numbers are written as usual, so that they can be read again
        ∀ info, r.TellsOf info →
          record.get? "nats_domain" = some info.domain ∧
          (∀ key n, (key, n) ∈ info.counts → ∃ text, record.get? key = some text ∧
            Text.CanonicalNat text n ∧ Text.readNat Text.maxWord text = .ok n) ∧
          ∃ text, record.get? "nats_timestamp_unix_nano" = some text ∧
            Text.CanonicalInt text info.timestampNanos ∧
            Text.readInt Text.maxWide text = .ok info.timestampNanos) := by
  refine ⟨fun e => toRecord_eq_error_iff, fun order horder => toRecordIn_perm horder limit,
    fun record h => ⟨payload_toRecord h, fun key hkey value => ?_, fun hnames => ⟨?_, ?_, ?_⟩⟩⟩
  · rw [get?_toRecord_of_not_reserved h hkey, headerValue?_eq_some_iff]
  · rw [get?_toRecord_of_reserved h hnames List.mem_cons_self, ownValue?_subject]
  · intro key hkey
    simp only [get?_toRecord_of_reserved h hnames (List.mem_cons_of_mem _ hkey),
      isSome_ownValue?_iff hkey, delivery?_eq_some_iff]
  · intro info hinfo
    have hentry : ∀ e ∈ info.entries, record.get? e.1 = some e.2 := fun e he => by
      have hkey : e.1 ∈ reservedKeys :=
        List.mem_cons_of_mem _ (Delivery.keys_entries info ▸ List.mem_map_of_mem he)
      rw [get?_toRecord_of_reserved h hnames hkey,
        ownValue?_delivery (delivery?_eq_some_iff.mpr hinfo) he]
    obtain ⟨subject, -, htokens⟩ := hinfo
    refine ⟨hentry ("nats_domain", info.domain) (by simp [Delivery.entries]), fun key n hcount => ?_,
      _, hentry ("nats_timestamp_unix_nano", _) (by simp [Delivery.entries]),
      Text.canonicalInt_toString _, htokens.readInt_timestamp⟩
    exact ⟨_, hentry _ (Delivery.mem_entries_of_mem_counts hcount), Text.canonicalNat_toString n,
      Text.readNat_toString (htokens.counts_le hcount)⟩

/-- For instance, a reply about a delivery whose numbers are written with signs and zeros in front,
with several values under one name and an empty first one under another. -/
def tracedReply : Reply where
  subject := "orders.42"
  replyTo := some "$JS.ACK.hub.ACC.ORDERS.worker.+01.007.3.-05.0.r"
  payload := [0x7B, 0x7D]
  headers := some (.ofList [("X-Trace", "b"), ("X-Trace", "a"), ("Empty", ""), ("Empty", "late")])

theorem toRecord_contents_tracedReply :
    tracedReply.toRecord (some 1) = .error (.conversion (.tooLarge 2 1)) ∧
      ∃ record, tracedReply.toRecord (some 2) = .ok record ∧ record.payload = [0x7B, 0x7D] ∧
        tracedReply.toRecordIn tracedReply.headerValues.reverse (some 2) = .ok record ∧
        record.get? "X-Trace" = some "b" ∧ record.get? "Empty" ≠ some "late" ∧
        record.get? "nats_subject" = some "orders.42" ∧ record.get? "nats_domain" = some "hub" ∧
        ∃ text, record.get? "nats_timestamp_unix_nano" = some text ∧ Text.CanonicalInt text (-5) := by
  obtain ⟨record, hok⟩ : ∃ record, tracedReply.toRecord (some 2) = .ok record := ⟨_, rfl⟩
  obtain ⟨herror, -⟩ := toRecord_contents tracedReply (some 1)
  obtain ⟨-, horder, hrecord⟩ := toRecord_contents tracedReply (some 2)
  obtain ⟨hpayload, hheaders, hown⟩ := hrecord record hok
  have hnames : tracedReply.NamesNoReserved := by
    rintro headers ⟨⟩
    decide +kernel
  have htells : tracedReply.TellsOf ⟨"hub", "ORDERS", "worker", 1, 7, 3, -5, 0⟩ :=
    delivery?_eq_some_iff.mp (by decide +kernel)
  obtain ⟨hsubject, -, hdelivery⟩ := hown hnames
  obtain ⟨hdomain, -, text, htext, hcanonical, -⟩ := hdelivery _ htells
  refine ⟨(herror _).mpr ⟨1, rfl, by decide, rfl⟩, record, hok, hpayload, ?_, ?_, ?_, hsubject,
    hdomain, text, htext, hcanonical⟩
  · rw [horder _ (List.reverse_perm _), hok]
  · exact (hheaders "X-Trace" (by decide) "b").mpr ⟨_, rfl, by decide +kernel, by decide⟩
  · intro hlate
    obtain ⟨_, ⟨⟩, hfirst, -⟩ := (hheaders "Empty" (by decide) "late").mp hlate
    exact absurd hfirst (by decide +kernel)

end Reply
end ReplyStage
