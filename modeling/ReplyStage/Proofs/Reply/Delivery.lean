import ReplyStage.Proofs.Text.Integer
import ReplyStage.Reply.Delivery
/-!
# Acknowledgement subjects, token by token

Which subjects tell about a delivery, and what they tell: `AckTokens` lists the two layouts, and
`ofSubject?_layouts` says that they are all that is understood. Read the other way, a delivery that
is written down in either layout comes back from its subject.
-/

namespace ReplyStage.Delivery

variable {info : Delivery}

/-! ## The layouts -/

/-- The tokens of the numbers of a delivery, each within the range of its number. -/
structure Numbers (info : Delivery)
    (delivered streamSequence consumerSequence timestamp pending : String) : Prop where
  delivered : Text.NatText delivered info.delivered ∧ info.delivered ≤ 2 ^ 64 - 1
  streamSequence : Text.NatText streamSequence info.streamSequence ∧ info.streamSequence ≤ 2 ^ 64 - 1
  consumerSequence :
    Text.NatText consumerSequence info.consumerSequence ∧ info.consumerSequence ≤ 2 ^ 64 - 1
  timestamp : Text.IntText timestamp info.timestampNanos ∧
    -(2 ^ 127) ≤ info.timestampNanos ∧ info.timestampNanos ≤ 2 ^ 127 - 1
  pending : Text.NatText pending info.pending ∧ info.pending ≤ 2 ^ 64 - 1

/-- The domain that a token stands for. -/
def domainOf (token : String) : String := if token = "_" then "" else token

/-- The tokens of an acknowledgement subject, and the delivery that it tells about. -/
inductive AckTokens : List String → Delivery → Prop
  /-- nine tokens without a domain -/
  | short {info delivered streamSequence consumerSequence timestamp pending} :
      info.domain = "" →
      info.Numbers delivered streamSequence consumerSequence timestamp pending →
      AckTokens ["$JS", "ACK", info.stream, info.consumer, delivered, streamSequence,
        consumerSequence, timestamp, pending] info
  /-- twelve tokens or more, with a domain and an account before the stream -/
  | long {info domain account delivered streamSequence consumerSequence timestamp pending random
      more} :
      info.domain = domainOf domain →
      info.Numbers delivered streamSequence consumerSequence timestamp pending →
      AckTokens ("$JS" :: "ACK" :: domain :: account :: info.stream :: info.consumer :: delivered ::
        streamSequence :: consumerSequence :: timestamp :: pending :: random :: more) info

/-! ## Reading -/

theorem count?_eq_some_iff {token : String} {n : Nat} :
    count? token = some n ↔ Text.NatText token n ∧ n ≤ 2 ^ 64 - 1 :=
  toOption_eq_some_iff.trans Text.readNat_eq_ok_iff

theorem time?_eq_some_iff {token : String} {i : Int} :
    time? token = some i ↔ Text.IntText token i ∧ -(2 ^ 127) ≤ i ∧ i ≤ 2 ^ 127 - 1 := by
  have hwide : (Text.maxWide : Int) = 2 ^ 127 - 1 := rfl
  rw [time?, toOption_eq_some_iff, Text.readInt_eq_ok_iff, hwide, Int.sub_add_cancel]

/-- The tokens from the stream on are taken in order, and what follows them does not count. -/
theorem ofFields?_eq_some_iff {domain stream consumer delivered streamSequence consumerSequence
    timestamp pending : String} (more : List String) :
    ofFields? domain (stream :: consumer :: delivered :: streamSequence :: consumerSequence ::
        timestamp :: pending :: more) = some info ↔
      info.domain = domainOf domain ∧ info.stream = stream ∧ info.consumer = consumer ∧
        info.Numbers delivered streamSequence consumerSequence timestamp pending := by
  rw [ofFields?]
  simp only [Option.bind_eq_bind, Option.bind_eq_some_iff, count?_eq_some_iff, time?_eq_some_iff,
    Option.pure_def, Option.some.injEq]
  constructor
  · rintro ⟨d, hd, s, hs, c, hc, t, ht, p, hp, rfl⟩
    exact ⟨rfl, rfl, rfl, hd, hs, hc, ht, hp⟩
  · rintro ⟨hdomain, rfl, rfl, hd, hs, hc, ht, hp⟩
    refine ⟨_, hd, _, hs, _, hc, _, ht, _, hp, ?_⟩
    cases info
    cases hdomain
    rfl

theorem exists_seven {α : Type} {tokens : List α} (h : tokens.length = 7) :
    ∃ a b c d e f g, tokens = [a, b, c, d, e, f, g] := by
  match tokens, h with
  | [a, b, c, d, e, f, g], _ => exact ⟨a, b, c, d, e, f, g, rfl⟩

theorem exists_ten {α : Type} {tokens : List α} (h : 10 ≤ tokens.length) :
    ∃ a b c d e f g i j k more, tokens = a :: b :: c :: d :: e :: f :: g :: i :: j :: k :: more := by
  match tokens, h with
  | a :: b :: c :: d :: e :: f :: g :: i :: j :: k :: more, _ =>
    exact ⟨a, b, c, d, e, f, g, i, j, k, more, rfl⟩

theorem ofSubject?_of_ackTokens {subject : String} (h : AckTokens (tokens subject) info) :
    ofSubject? subject = some info := by
  unfold ofSubject?
  generalize tokens subject = tokens at h
  cases h with
  | short hdomain hnumbers =>
    exact (ofFields?_eq_some_iff []).mpr ⟨hdomain, rfl, rfl, hnumbers⟩
  | long hdomain hnumbers =>
    simp only [List.length_cons]
    rw [if_neg (by omega), if_pos (by omega)]
    exact (ofFields?_eq_some_iff _).mpr ⟨hdomain, rfl, rfl, hnumbers⟩

theorem ackTokens_of_ofSubject? {subject : String} (h : ofSubject? subject = some info) :
    AckTokens (tokens subject) info := by
  unfold ofSubject? at h
  split at h
  · rename_i rest htokens
    rw [htokens]
    split at h
    · rename_i hseven
      obtain ⟨stream, consumer, _, _, _, _, _, rfl⟩ := exists_seven hseven
      obtain ⟨hdomain, rfl, rfl, hnumbers⟩ := (ofFields?_eq_some_iff _).mp h
      exact .short hdomain hnumbers
    · split at h
      · rename_i hten
        obtain ⟨domain, account, stream, consumer, _, _, _, _, _, _, _, rfl⟩ := exists_ten hten
        obtain ⟨hdomain, rfl, rfl, hnumbers⟩ := (ofFields?_eq_some_iff _).mp h
        exact .long hdomain hnumbers
      · cases h
  · cases h

/-! ## Writing -/

/-- The numbers of a delivery as tokens. -/
def numbers (info : Delivery) : List String :=
  [toString info.delivered, toString info.streamSequence, toString info.consumerSequence,
    toString info.timestampNanos, toString info.pending]

/-- The tokens of a delivery in the layout without a domain. -/
def shortTokens (info : Delivery) : List String :=
  "$JS" :: "ACK" :: info.stream :: info.consumer :: info.numbers

/-- The tokens of a delivery in the layout with a domain; an empty one is an underscore. -/
def longTokens (info : Delivery) (account random : String) (more : List String) : List String :=
  "$JS" :: "ACK" :: (if info.domain = "" then "_" else info.domain) :: account ::
    info.stream :: info.consumer :: (info.numbers ++ random :: more)

/-- The subject with the given tokens. -/
def subjectOf (tokens : List String) : String := Text.join '.' tokens

/-- What a delivery has to be to be written down: its tokens are whole, and its numbers in range. -/
structure Printable (info : Delivery) : Prop where
  stream : '.' ∉ info.stream.toList
  consumer : '.' ∉ info.consumer.toList
  delivered : info.delivered ≤ 2 ^ 64 - 1
  streamSequence : info.streamSequence ≤ 2 ^ 64 - 1
  consumerSequence : info.consumerSequence ≤ 2 ^ 64 - 1
  timestamp : -(2 ^ 127) ≤ info.timestampNanos ∧ info.timestampNanos ≤ 2 ^ 127 - 1
  pending : info.pending ≤ 2 ^ 64 - 1

theorem Printable.numbers (h : info.Printable) :
    info.Numbers (toString info.delivered) (toString info.streamSequence)
      (toString info.consumerSequence) (toString info.timestampNanos) (toString info.pending) where
  delivered := ⟨Text.natText_toString _, h.delivered⟩
  streamSequence := ⟨Text.natText_toString _, h.streamSequence⟩
  consumerSequence := ⟨Text.natText_toString _, h.consumerSequence⟩
  timestamp := ⟨Text.intText_toString _, h.timestamp⟩
  pending := ⟨Text.natText_toString _, h.pending⟩

theorem whole_numbers (info : Delivery) : ∀ token ∈ info.numbers, '.' ∉ token.toList := by
  have hnat : ∀ n : Nat, '.' ∉ (toString n).toList := Text.not_mem_toString (by decide)
  have hint : ∀ i : Int, '.' ∉ (toString i).toList :=
    Text.not_mem_toString_int (by decide) (by decide)
  simp only [numbers, List.forall_mem_cons]
  exact ⟨hnat _, hnat _, hnat _, hint _, hnat _, nofun⟩

/-- Tokens come back from their subject. -/
theorem tokens_subjectOf {given : List String} (hne : given ≠ [])
    (h : ∀ token ∈ given, '.' ∉ token.toList) : tokens (subjectOf given) = given :=
  Text.split_join hne h

theorem tokens_short (h : info.Printable) :
    tokens (subjectOf info.shortTokens) = info.shortTokens := by
  refine tokens_subjectOf (List.cons_ne_nil _ _) ?_
  simp only [shortTokens, List.forall_mem_cons]
  exact ⟨by decide, by decide, h.stream, h.consumer, info.whole_numbers⟩

theorem tokens_long (h : info.Printable) {account random : String} {more : List String}
    (hdomain : '.' ∉ info.domain.toList) (haccount : '.' ∉ account.toList)
    (hrandom : '.' ∉ random.toList) (hmore : ∀ token ∈ more, '.' ∉ token.toList) :
    tokens (subjectOf (info.longTokens account random more)) =
      info.longTokens account random more := by
  have hwritten : '.' ∉ (if info.domain = "" then "_" else info.domain).toList := by
    split
    · decide
    · exact hdomain
  refine tokens_subjectOf (List.cons_ne_nil _ _) ?_
  simp only [longTokens, List.forall_mem_cons, List.forall_mem_append]
  exact ⟨by decide, by decide, hwritten, haccount, h.stream, h.consumer, info.whole_numbers,
    hrandom, hmore⟩

theorem domainOf_written (hdomain : info.domain ≠ "_") :
    domainOf (if info.domain = "" then "_" else info.domain) = info.domain := by
  unfold domainOf
  by_cases hempty : info.domain = ""
  · rw [if_pos hempty, if_pos rfl, hempty]
  · rw [if_neg hempty, if_neg hdomain]

/-- What a subject tells about a delivery, and which subjects tell it. -/
theorem ofSubject?_layouts :
    -- Just the two layouts are understood.
    (∀ subject info, ofSubject? subject = some info ↔ AckTokens (tokens subject) info) ∧
    -- A delivery without a domain comes back from the short one,
    (∀ info : Delivery, info.Printable → info.domain = "" →
      ofSubject? (subjectOf info.shortTokens) = some info) ∧
    -- and any other from the long one, with any tokens in the places that do not count.
    (∀ (info : Delivery) (account random : String) (more : List String), info.Printable →
      info.domain ≠ "_" → '.' ∉ info.domain.toList → '.' ∉ account.toList →
      '.' ∉ random.toList → (∀ token ∈ more, '.' ∉ token.toList) →
      ofSubject? (subjectOf (info.longTokens account random more)) = some info) := by
  refine ⟨fun subject info => ⟨ackTokens_of_ofSubject?, ofSubject?_of_ackTokens⟩, ?_, ?_⟩
  · intro info hinfo hdomain
    apply ofSubject?_of_ackTokens
    rw [tokens_short hinfo]
    exact .short hdomain hinfo.numbers
  · intro info account random more hinfo hunderscore hdomain haccount hrandom hmore
    apply ofSubject?_of_ackTokens
    rw [tokens_long hinfo hdomain haccount hrandom hmore]
    exact .long (domainOf_written hunderscore).symm hinfo.numbers

/-- For instance, a delivery with the largest counts and the smallest time. -/
def extremeDelivery : Delivery :=
  ⟨"", "ORDERS", "worker", 2 ^ 64 - 1, 2 ^ 64 - 1, 0, -(2 ^ 127), 1⟩

theorem ofSubject?_extremeDelivery :
    extremeDelivery.Printable ∧
      AckTokens (tokens (subjectOf (extremeDelivery.longTokens "ACC" "r" ["x"]))) extremeDelivery ∧
      ofSubject? (subjectOf extremeDelivery.shortTokens) = some extremeDelivery ∧
      ofSubject? (subjectOf (extremeDelivery.longTokens "ACC" "r" ["x"])) =
        some extremeDelivery := by
  have hprintable : extremeDelivery.Printable :=
    ⟨by decide, by decide, by decide, by decide, by decide, by decide, by decide⟩
  obtain ⟨hlayouts, hshort, hlong⟩ := ofSubject?_layouts
  have htold := hlong extremeDelivery "ACC" "r" ["x"] hprintable (by decide) (by decide)
    (by decide) (by decide) (by decide)
  exact ⟨hprintable, (hlayouts _ _).mp htold, hshort extremeDelivery hprintable rfl, htold⟩

end ReplyStage.Delivery
