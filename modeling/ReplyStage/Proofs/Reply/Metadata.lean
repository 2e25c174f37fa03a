import ReplyStage.Proofs.Dict
import ReplyStage.Proofs.Results
import ReplyStage.Reply.Basic
/-!
# The metadata of a reply's record

The metadata of a record that is made of a reply comes from two sides: what the stage itself tells
about the reply, and what the reply's headers bring along. `get?_toRecord` says what is under each
key. Headers are written last, so that a responder who knows a key of the stage has the last word on
it (`toRecord_forgedReply`): `own_metadata_stands_iff` says when the stage's own values are the ones
that remain.
-/

namespace ReplyStage

/-! ## Entries -/

/-- Picks a value out of each value of a list of entries, where there is one to pick. -/
def pickEntries {β γ : Type} (pick : β → Option γ) (entries : List (String × β)) :
    List (String × γ) :=
  entries.filterMap fun e => (pick e.2).map fun picked => (e.1, picked)

theorem keys_pickEntries {β γ : Type} (pick : β → Option γ) (entries : List (String × β)) :
    ((pickEntries pick entries).map Prod.fst).Sublist (entries.map Prod.fst) := by
  induction entries with
  | nil => exact .slnil
  | cons first rest ih =>
    unfold pickEntries at ih ⊢
    cases hp : pick first.2 with
    | none =>
      rw [List.filterMap_cons_none (by rw [hp]; rfl)]
      exact ih.cons first.1
    | some picked =>
      rw [List.filterMap_cons_some (by rw [hp]; rfl)]
      exact ih.cons_cons first.1

theorem lookupEntry_pickEntries {β γ : Type} (pick : β → Option γ) {entries : List (String × β)}
    (h : (entries.map Prod.fst).Nodup) (key : String) :
    lookupEntry key (pickEntries pick entries) = (lookupEntry key entries).bind pick := by
  induction entries with
  | nil => rfl
  | cons first rest ih =>
    obtain ⟨k, v⟩ := first
    obtain ⟨hfirst, hrest⟩ := List.nodup_cons.mp h
    have ih := ih hrest
    unfold pickEntries at ih ⊢
    rw [lookupEntry]
    cases hp : pick v with
    | none =>
      rw [List.filterMap_cons_none (by rw [hp]; rfl), ih]
      split
      · rename_i hk
        subst hk
        rw [lookupEntry_eq_none hfirst, Option.bind_some, hp]
        rfl
      · rfl
    | some picked =>
      rw [List.filterMap_cons_some (by rw [hp]; rfl), lookupEntry, ih]
      split
      · rw [Option.bind_some, hp]
      · rfl

namespace Record

theorem setAll_append (r : Record) (entries more : List (String × String)) :
    r.setAll (entries ++ more) = (r.setAll entries).setAll more :=
  List.foldl_append

theorem payload_setAll (r : Record) (entries : List (String × String)) :
    (r.setAll entries).payload = r.payload := by
  induction entries generalizing r with
  | nil => rfl
  | cons first rest ih => exact ih (r.set first.1 first.2)

theorem metadata_setAll (r : Record) (entries : List (String × String)) :
    (r.setAll entries).metadata = r.metadata.insertAll entries := by
  induction entries generalizing r with
  | nil => rfl
  | cons first rest ih => exact ih (r.set first.1 first.2)

/-- Entries with different keys come to stand in front of what was there before. -/
theorem get?_setAll {entries : List (String × String)} (h : (entries.map Prod.fst).Nodup)
    (r : Record) (key : String) :
    (r.setAll entries).get? key = (lookupEntry key entries).or (r.get? key) := by
  rw [get?, metadata_setAll, Dict.get?_insertAll h]
  rfl

end Record

/-! ## Headers -/

namespace HeaderMap

/-- The value that headers bring along under a name: the first one, where it is not empty. -/
def firstValue? (h : HeaderMap) (name : String) : Option String :=
  (h.get name).head?.filter (· ≠ "")

theorem firstValues_eq (h : HeaderMap) :
    h.firstValues = pickEntries (fun values => values.head?.filter (· ≠ "")) h.values.entries := by
  unfold firstValues pickEntries
  congr 1
  funext ⟨name, values⟩
  cases values with
  | nil => rfl
  | cons value rest =>
    by_cases hv : value = ""
    · subst hv
      rfl
    · simp [Option.filter, hv]

theorem nodup_firstValues (h : HeaderMap) : (h.firstValues.map Prod.fst).Nodup := by
  rw [firstValues_eq]
  exact h.values.sorted.nodup_keys.sublist (keys_pickEntries _ _)

theorem lookupEntry_firstValues (h : HeaderMap) (name : String) :
    lookupEntry name h.firstValues = h.firstValue? name := by
  rw [firstValues_eq, lookupEntry_pickEntries _ h.values.sorted.nodup_keys, firstValue?, get,
    Dict.get?]
  cases lookupEntry name h.values.entries <;> rfl

end HeaderMap

/-! ## Replies -/

/-- The keys of the metadata that tells about a delivery. -/
def Delivery.keys : List String := ["nats_sequence_stream", "nats_sequence_consumer",
  "nats_num_delivered", "nats_num_pending", "nats_domain", "nats_timestamp_unix_nano"]

theorem Delivery.keys_entries (info : Delivery) : info.entries.map Prod.fst = keys := rfl

namespace Reply

variable {r : Reply} {limit : Option Nat} {record : Record}

/-- The value that a reply brings along under a key. -/
def headerValue? (r : Reply) (key : String) : Option String :=
  r.headers.bind fun headers => headers.firstValue? key

/-- The value that the stage itself has for a key. -/
def ownValue? (r : Reply) (key : String) : Option String := lookupEntry key r.ownEntries

theorem nodup_headerEntries (r : Reply) : (r.headerEntries.map Prod.fst).Nodup := by
  unfold headerEntries
  split
  · exact HeaderMap.nodup_firstValues _
  · exact .nil

theorem lookupEntry_headerEntries (r : Reply) (key : String) :
    lookupEntry key r.headerEntries = r.headerValue? key := by
  unfold headerEntries headerValue?
  cases r.headers with
  | none => rfl
  | some headers => exact headers.lookupEntry_firstValues key

theorem nodup_ownEntries (r : Reply) : (r.ownEntries.map Prod.fst).Nodup := by
  unfold ownEntries
  cases r.delivery? with
  | none => exact List.nodup_singleton _
  | some info =>
    show ("nats_subject" :: info.entries.map Prod.fst).Nodup
    rw [Delivery.keys_entries]
    decide

theorem ownValue?_subject (r : Reply) : r.ownValue? "nats_subject" = some r.subject := rfl

theorem ownValue?_delivery {info : Delivery} (h : r.delivery? = some info) {e : String × String}
    (he : e ∈ info.entries) : r.ownValue? e.1 = some e.2 := by
  apply lookupEntry_of_mem r.nodup_ownEntries
  unfold ownEntries
  rw [h]
  exact List.mem_cons_of_mem _ he

theorem ownValue?_eq_none (h : r.delivery? = none) {key : String} (hkey : key ∈ Delivery.keys) :
    r.ownValue? key = none := by
  apply lookupEntry_eq_none
  unfold ownEntries
  rw [h]
  intro hmem
  obtain rfl : key = "nats_subject" := List.mem_singleton.mp hmem
  exact absurd hkey (by decide)

/-- A record is made of every reply whose payload is within the limit. -/
theorem toRecord_eq_ok_iff :
    r.toRecord limit = .ok record ↔ (∀ max, limit = some max → r.payload.length ≤ max) ∧
      (Record.ofPayload r.payload).setAll (r.ownEntries ++ r.headerEntries) = record := by
  unfold toRecord Record.ofReplyPayload
  cases limit with
  | none => simp [Except.map]
  | some max =>
    by_cases hmax : max < r.payload.length
    · simp [Except.map, hmax, Nat.not_le_of_lt hmax]
    · simp [Except.map, hmax, Nat.le_of_not_lt hmax]

theorem payload_toRecord (h : r.toRecord limit = .ok record) : record.payload = r.payload := by
  obtain ⟨-, rfl⟩ := toRecord_eq_ok_iff.mp h
  exact Record.payload_setAll _ _

/-- What a record of a reply holds under a key: the value of the headers, or else the stage's. -/
theorem get?_toRecord (h : r.toRecord limit = .ok record) (key : String) :
    record.get? key = (r.headerValue? key).or (r.ownValue? key) := by
  obtain ⟨-, rfl⟩ := toRecord_eq_ok_iff.mp h
  have hnone : (Record.ofPayload r.payload).get? key = none := rfl
  rw [Record.setAll_append, Record.get?_setAll r.nodup_headerEntries,
    Record.get?_setAll r.nodup_ownEntries, hnone, Option.or_none, lookupEntry_headerEntries]
  rfl

/-- A value of the stage remains where the headers bring along no other. -/
theorem get?_toRecord_eq_some_iff (h : r.toRecord limit = .ok record) {key value : String}
    (hown : r.ownValue? key = some value) :
    record.get? key = some value ↔ ∀ other, r.headerValue? key = some other → other = value := by
  rw [get?_toRecord h, hown]
  cases r.headerValue? key with
  | none => simp
  | some other => simp

/-- When the metadata that the stage itself writes is what a record holds. -/
theorem own_metadata_stands_iff (h : r.toRecord limit = .ok record) :
    -- the subject stands unless a header has its key
    (record.get? "nats_subject" = some r.subject ↔
      ∀ other, r.headerValue? "nats_subject" = some other → other = r.subject) ∧
    -- and so does everything that is known of a delivery,
    (∀ info, r.delivery? = some info → ∀ e ∈ info.entries,
      (record.get? e.1 = some e.2 ↔ ∀ other, r.headerValue? e.1 = some other → other = e.2)) ∧
    -- and where nothing is known of one, nothing is told of it unless by a header
    (r.delivery? = none → ∀ key ∈ Delivery.keys,
      (record.get? key = none ↔ r.headerValue? key = none)) := by
  refine ⟨get?_toRecord_eq_some_iff h r.ownValue?_subject, ?_, ?_⟩
  · intro info hinfo e he
    exact get?_toRecord_eq_some_iff h (ownValue?_delivery hinfo he)
  · intro hnone key hkey
    rw [get?_toRecord h, ownValue?_eq_none hnone hkey, Option.or_none]

/-- For instance, a reply about an acknowledged delivery, with headers that have keys of the
stage. -/
def forgedReply : Reply where
  subject := "orders.42"
  replyTo := some "$JS.ACK.ORDERS.worker.1.7.7.17.0"
  payload := [0x7B, 0x7D]
  headers := some (.ofList [("nats_subject", "orders.1"), ("nats_num_delivered", "9")])

theorem delivery?_forgedReply :
    forgedReply.delivery? = some ⟨"", "ORDERS", "worker", 1, 7, 7, 17, 0⟩ := by decide +kernel

theorem headerValue?_forgedReply :
    forgedReply.headerValue? "nats_subject" = some "orders.1" ∧
      forgedReply.headerValue? "nats_num_delivered" = some "9" ∧
      forgedReply.headerValue? "nats_sequence_stream" = none := by decide +kernel

theorem own_metadata_stands_iff_forgedReply :
    ∃ record, forgedReply.toRecord none = .ok record ∧
      record.get? "nats_subject" ≠ some "orders.42" ∧
      record.get? "nats_sequence_stream" = some "7" := by
  obtain ⟨record, hrecord⟩ : ∃ record, forgedReply.toRecord none = .ok record := ⟨_, rfl⟩
  obtain ⟨hforged, -, hnone⟩ := headerValue?_forgedReply
  obtain ⟨hsubject, hdelivery, -⟩ := own_metadata_stands_iff hrecord
  refine ⟨record, hrecord, ?_, ?_⟩
  · intro hstands
    exact absurd (hsubject.mp hstands _ hforged) (by decide)
  · have hstream := hdelivery _ delivery?_forgedReply _ List.mem_cons_self
    refine hstream.mpr fun other hother => ?_
    rw [hnone] at hother
    cases hother

/-- A responder can put values of its own in the place of the stage's. -/
theorem toRecord_forgedReply :
    ∃ record info, forgedReply.toRecord none = .ok record ∧ forgedReply.delivery? = some info ∧
      record.get? "nats_subject" ≠ some forgedReply.subject ∧
      record.get? "nats_num_delivered" ≠ some (toString info.delivered) := by
  obtain ⟨record, hrecord⟩ : ∃ record, forgedReply.toRecord none = .ok record := ⟨_, rfl⟩
  obtain ⟨hsubject, hdelivered, -⟩ := headerValue?_forgedReply
  refine ⟨record, _, hrecord, delivery?_forgedReply, ?_, ?_⟩
  · rw [get?_toRecord hrecord, hsubject]
    decide
  · rw [get?_toRecord hrecord, hdelivered]
    decide

end Reply
end ReplyStage
