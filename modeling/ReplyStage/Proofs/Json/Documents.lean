import ReplyStage.Json.Reader
import ReplyStage.Proofs.Binary64
import ReplyStage.Proofs.Dict
import ReplyStage.Proofs.Json.Path
import ReplyStage.Proofs.Results
/-!
# The documents that are read

Not every document comes from a text. What is read has integers of 64 bits, mantissas of 53, members
in order, and no more levels than may be open (`readable_parse`), and so has each of its parts
(`Readable.leads`).
-/

namespace ReplyStage.Json

/-- Numbers as they are read. -/
inductive Number.Readable : Number → Prop
  | integer {i : Int} : -2 ^ 63 ≤ i → i < 2 ^ 64 → Readable (.integer i)
  | real {x : Binary64} : x.Storable → Readable (.real x)

/-- Documents as they are read with some levels left. -/
inductive Readable : Nat → Json → Prop
  | null {depth} : Readable depth .null
  | bool {depth b} : Readable depth (.bool b)
  | number {depth n} : n.Readable → Readable depth (.number n)
  | string {depth s} : Readable depth (.string s)
  | array {depth items} : (∀ item ∈ items, Readable depth item) → Readable (depth + 1) (.array items)
  | object {depth members} : Sorted members → (∀ member ∈ members, Readable depth member.2) →
      Readable (depth + 1) (.object members)

/-! ## Parts -/

theorem Readable.mono {depth depth' : Nat} {j : Json} (h : Readable depth j) (hle : depth ≤ depth') :
    Readable depth' j := by
  induction h generalizing depth' with
  | null => exact .null
  | bool => exact .bool
  | number hn => exact .number hn
  | string => exact .string
  | array _ ih =>
    obtain ⟨more, rfl⟩ := Nat.exists_eq_add_of_le' hle
    exact .array fun item hitem => ih item hitem (Nat.le_add_left ..)
  | object hsorted _ ih =>
    obtain ⟨more, rfl⟩ := Nat.exists_eq_add_of_le' hle
    exact .object hsorted fun member hmember => ih member hmember (Nat.le_add_left ..)

theorem Readable.child {depth : Nat} {step : String} {j child : Json} (h : Readable depth j)
    (hchild : Child step j child) : Readable depth child := by
  cases hchild with
  | member hlookup =>
    cases h with
    | object _ hmembers =>
      exact (hmembers _ (mem_of_lookupEntry hlookup)).mono (Nat.le_succ _)
  | item _ _ hitem =>
    cases h with
    | array hitems => exact (hitems _ (List.mem_of_getElem? hitem)).mono (Nat.le_succ _)

/-- The parts of a document are as readable as the whole. -/
theorem Readable.leads {depth : Nat} {steps : List String} {j part : Json} (h : Readable depth j)
    (hleads : Leads steps j part) : Readable depth part := by
  induction hleads with
  | here => exact h
  | on hchild _ ih => exact ih (h.child hchild)

/-! ## Numbers -/

namespace Numeral

theorem absorb_le {value : Nat} (h : value ≤ maxSignificand) (digits : List Nat) :
    (absorb value digits).1 ≤ maxSignificand := by
  induction digits generalizing value with
  | nil => exact h
  | cons d rest ih =>
    rw [absorb]
    split
    · exact ih ‹_›
    · exact h

theorem storable_scaleUp {x y : Binary64} {e : Nat} (hx : x.Storable) (h : scaleUp x e = some y) :
    y.Storable := by
  unfold scaleUp at h
  split at h
  · obtain ⟨_, -, hmul⟩ := Option.bind_eq_some_iff.mp h
    exact Binary64.storable_mul? hmul
  · split at h
    · cases h
      exact hx
    · cases h

theorem storable_scaleDown {x y : Binary64} {e : Nat} (h : scaleDown x e = some y) :
    y.Storable := by
  unfold scaleDown at h
  split at h
  · obtain ⟨_, -, hdiv⟩ := Option.bind_eq_some_iff.mp h
    exact Binary64.storable_div? hdiv
  · split at h
    · obtain ⟨_, -, h⟩ := Option.bind_eq_some_iff.mp h
      obtain ⟨_, -, hdiv⟩ := Option.bind_eq_some_iff.mp h
      exact Binary64.storable_div? hdiv
    · cases h
      exact Binary64.storable_zero _

theorem storable_scale {significand : Nat} {e : Int} {x : Binary64}
    (h : scale significand e = some x) : x.Storable := by
  obtain ⟨y, hy, h⟩ := Option.bind_eq_some_iff.mp h
  cases e with
  | ofNat e => exact storable_scaleUp (Binary64.storable_ofNat? hy) h
  | negSucc e => exact storable_scaleDown h

theorem storable_signed {n : Numeral} {x : Binary64} (h : x.Storable) : (n.signed x).Storable := by
  unfold signed
  split
  · exact h.neg
  · exact h

theorem readable_real {n : Numeral} {significand : Nat} {e : Int} {number : Number}
    (h : n.real significand e = .ok number) : number.Readable := by
  unfold real at h
  split at h
  · cases h
    exact .real (storable_signed (storable_scale ‹_›))
  · cases h

theorem readable_integer {n : Numeral} {value : Nat} {number : Number}
    (hvalue : value ≤ maxSignificand) (h : n.integer value = .ok number) : number.Readable := by
  have hle : value ≤ 2 ^ 64 - 1 := hvalue
  unfold integer at h
  split at h
  · split at h
    · rename_i hbound
      cases h
      have hbound : value ≤ 2 ^ 63 := hbound.2
      exact .integer (by omega) (by omega)
    · exact readable_real h
  · cases h
    exact .integer (by omega) (by omega)

theorem readable_read {n : Numeral} {number : Number} (h : n.read = .ok number) :
    number.Readable := by
  have hwhole := absorb_le (Nat.zero_le maxSignificand) n.whole
  unfold read at h
  dsimp only at h
  split at h
  · split at h
    · exact readable_integer hwhole h
    · exact readable_real h
  · split at h
    · exact readable_real h
    · split at h
      · exact readable_real h
      · split at h
        · cases h
        · cases h
          exact .real (storable_signed (Binary64.storable_zero false))

end Numeral

/-! ## Values -/

-- of an object it is shown at each member that those before it are in order, so that those after it
-- can be put among them
mutual

theorem Source.readable_read : (value : Source) → ∀ {depth start : Nat} {j : Json},
    value.read depth start = .ok j → Readable depth j
  | .null, _, _, _, h => by
    rw [Source.read] at h
    cases h
    exact .null
  | .bool b, _, _, _, h => by
    rw [Source.read] at h
    cases h
    exact .bool
  | .number n, _, _, _, h => by
    rw [Source.read] at h
    obtain ⟨number, hnumber, rfl⟩ := map_ok h
    exact .number (Numeral.readable_read hnumber)
  | .string q, _, _, _, h => by
    rw [Source.read] at h
    obtain ⟨s, -, rfl⟩ := map_ok h
    exact .string
  | .array items, depth, _, _, h => by
    cases depth with
    | zero =>
      rw [Source.read] at h
      cases h
    | succ depth =>
      rw [Source.read] at h
      obtain ⟨read, hread, rfl⟩ := map_ok h
      exact .array (items.readable_read hread)
  | .object members, depth, _, _, h => by
    cases depth with
    | zero =>
      rw [Source.read] at h
      cases h
    | succ depth =>
      rw [Source.read] at h
      obtain ⟨read, hread, rfl⟩ := map_ok h
      obtain ⟨hsorted, hmembers⟩ := members.readable_read hread List.Pairwise.nil nofun
      exact .object hsorted hmembers
  | .broken b, _, _, _, h => by
    rw [Source.read] at h
    cases h

theorem Items.readable_read : (items : Items) → ∀ {depth : Nat} {read : List Json},
    items.read depth = .ok read → ∀ item ∈ read, Readable depth item
  | .done none, _, _, h => by
    rw [Items.read] at h
    cases h
    nofun
  | .done (some b), _, _, h => by
    rw [Items.read] at h
    cases h
  | .item start value rest, depth, read, h => by
    rw [Items.read] at h
    split at h
    · cases h
    · rename_i hvalue
      obtain ⟨others, hothers, rfl⟩ := map_ok h
      exact List.forall_mem_cons.mpr ⟨value.readable_read hvalue, rest.readable_read hothers⟩

theorem Members.readable_read : (members : Members) →
    ∀ {depth : Nat} {before read : List (String × Json)}, members.read depth before = .ok read →
      Sorted before → (∀ member ∈ before, Readable depth member.2) →
      Sorted read ∧ ∀ member ∈ read, Readable depth member.2
  | .done none, _, _, _, h, hsorted, hbefore => by
    rw [Members.read] at h
    cases h
    exact ⟨hsorted, hbefore⟩
  | .done (some b), _, _, _, h, _, _ => by
    rw [Members.read] at h
    cases h
  | .member name start value rest, depth, before, read, h, hsorted, hbefore => by
    rw [Members.read] at h
    split at h
    · cases h
    split at h
    · cases h
    rename_i key hname _ json hvalue
    refine rest.readable_read h (sorted_insertEntry key json hsorted) fun member hmember => ?_
    rcases mem_insertEntry hmember with rfl | hmember
    · exact value.readable_read hvalue
    · exact hbefore member hmember

end

/-- What is read is readable. -/
theorem readable_parse {bytes : Bytes} {j : Json} (h : parse bytes = .ok j) : Readable maxDepth j := by
  obtain ⟨json, hread, hrest⟩ := bind_ok (mapError_ok h)
  split at hrest
  · cases hrest
  · cases hrest
    exact (Document.ofBytes bytes).root.readable_read hread

end ReplyStage.Json
