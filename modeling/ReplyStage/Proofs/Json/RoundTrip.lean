import ReplyStage.Proofs.Json.Reading
import ReplyStage.Proofs.Json.Rendering
/-!
# The compact form is read back

A document whose numbers are all integers comes back from its compact form, if it is one that can come
from a text at all (`parse_render`).
-/

namespace ReplyStage.Json

open Text.Utf8 (encode)

/-- Documents with no number but integers. -/
inductive Integral : Json → Prop
  | null : Integral .null
  | bool {b} : Integral (.bool b)
  | integer {i} : Integral (.number (.integer i))
  | string {s} : Integral (.string s)
  | array {items} : (∀ item ∈ items, Integral item) → Integral (.array items)
  | object {members : List (String × Json)} : (∀ member ∈ members, Integral member.2) →
      Integral (.object members)

/-- A value is read as a document wherever it begins. -/
def IsRead (depth : Nat) (j : Json) (value : Source) : Prop := ∀ start, value.read depth start = .ok j

theorem reads_integer {depth : Nat} {i : Int} {text : Bytes} (h : IntegerText i text)
    (hlow : -2 ^ 63 ≤ i) (hhigh : i < 2 ^ 64) : Reads text (IsRead depth (.number (.integer i))) := by
  cases h with
  | @unsigned n _ hwhole hdecimal =>
    have hmax : n ≤ Numeral.maxSignificand := Nat.le_sub_one_of_lt (show n < 2 ^ 64 by omega)
    refine (reads_whole (.inl rfl) hwhole).imp ?_
    rintro _ ⟨finish, rfl⟩ start
    have hread : Numeral.read ⟨decide (([] : Bytes) ≠ []), digitValues text, none, none, finish⟩ =
        .ok (.integer n) := read_count ⟨hmax, hwhole, hdecimal⟩ finish
    rw [Source.read, hread]
    rfl
  | @negative n text hpos hwhole hdecimal =>
    have hle : n ≤ 2 ^ 63 := by omega
    refine (reads_whole (.inr rfl) hwhole).imp ?_
    rintro _ ⟨finish, rfl⟩ start
    have hread : Numeral.read ⟨decide (([0x2D] : Bytes) ≠ []), digitValues text, none, none, finish⟩ =
        .ok (.integer (-n)) := read_negative hdecimal hpos hle finish
    rw [Source.read, hread]
    rfl

theorem Items.Shows.read {depth : Nat} {read : Items} {items : List Json}
    (h : read.Shows (items.map (IsRead depth))) : read.read depth = .ok items := by
  induction items generalizing read with
  | nil =>
    cases h
    rfl
  | cons item items ih =>
    cases h with
    | item hitem hrest =>
      rw [Items.read, hitem, ih hrest]
      rfl

/-- Members in order are added at the end, one after another. -/
theorem Members.Shows.read {depth : Nat} {read : Members} {before members : List (String × Json)}
    (h : read.Shows (members.map fun member => (fun name => name.read = .ok member.1,
      IsRead depth member.2))) (hsorted : Sorted (before ++ members)) :
    read.read depth before = .ok (before ++ members) := by
  induction members generalizing read before with
  | nil =>
    cases h
    rw [Members.read, List.append_nil]
  | cons member members ih =>
    cases h with
    | member hname hvalue hrest =>
      have hlt : ∀ e ∈ before, e.1 < member.1 := fun e he =>
        (List.pairwise_append.mp hsorted).2.2 e he member List.mem_cons_self
      rw [List.append_cons] at hsorted ⊢
      rw [Members.read, hname]
      dsimp only
      rw [hvalue]
      dsimp only
      rw [insertEntry_of_lt hlt]
      exact ih hrest hsorted

/-- What each of some parts makes of its text, part by part. -/
theorem forall₂_map_of_mem {α β γ : Type} {related : α → β → Prop} {joined : β → γ → Prop}
    {f : α → γ} {as : List α} {bs : List β} (h : List.Forall₂ related as bs)
    (himp : ∀ a ∈ as, ∀ b, related a b → joined b (f a)) : List.Forall₂ joined bs (as.map f) := by
  induction h with
  | nil => exact .nil
  | cons hfirst _ ih =>
    obtain ⟨hmem, hrest⟩ := List.forall_mem_cons.mp himp
    exact .cons (hmem _ hfirst) (ih hrest)

theorem namedText_membersBytes {names : List String} {written texts : List Bytes}
    (hnames : List.Forall₂ StringText names written) (hlength : names.length = texts.length) :
    NamedText (names.zip texts) (membersBytes (written.zip texts)) := by
  refine ⟨_, objectText_membersBytes _, ?_⟩
  induction hnames generalizing texts with
  | nil => exact .nil
  | cons hname _ ih =>
    cases texts with
    | nil => cases hlength
    | cons text texts => exact .cons ⟨hname, rfl⟩ (ih (Nat.succ.inj hlength))

theorem forall₂_zip_map {α β γ : Type} {related : α → β → Prop} (f : α → γ) {as : List α}
    {bs : List β} (h : List.Forall₂ related as bs) :
    List.Forall₂ (fun a named => named.1 = f a ∧ related a named.2) as ((as.map f).zip bs) := by
  induction h with
  | nil => exact .nil
  | cons hfirst _ ih => exact .cons ⟨rfl, hfirst⟩ ih

/-- The compact form of a document is read as this document, whatever comes after it. -/
theorem CompactText.reads {depth : Nat} {j : Json} (hreadable : Readable depth j)
    (hintegral : Integral j) {text : Bytes} (h : CompactText j text) :
    Reads text (IsRead depth j) := by
  -- the induction is on the levels that are left, which is what the reader counts
  induction hreadable generalizing text with
  | null =>
    cases h
    refine reads_null.imp ?_
    rintro _ rfl start
    rfl
  | bool =>
    cases h with
    | true =>
      refine reads_true.imp ?_
      rintro _ rfl start
      rfl
    | false =>
      refine reads_false.imp ?_
      rintro _ rfl start
      rfl
  | number hn =>
    cases hintegral
    cases hn with
    | integer hlow hhigh =>
      cases h with
      | integer htext => exact reads_integer htext hlow hhigh
  | string =>
    cases h with
    | string htext =>
      refine (reads_string htext.readsName).imp ?_
      rintro _ ⟨q, rfl, hq⟩ start
      rw [Source.read, hq]
      rfl
  | @array depth items _ ih =>
    cases hintegral with
    | array hitems =>
      cases h with
      | @array _ texts htexts =>
        have hreads : List.Forall₂ Reads texts (items.map (IsRead depth)) :=
          forall₂_map_of_mem htexts fun item hitem _ => ih item hitem (hitems item hitem)
        refine (reads_array (arrayText_arrayBytes texts) hreads).imp ?_
        rintro _ ⟨read, rfl, hshows⟩ start
        rw [Source.read, hshows.read]
        rfl
  | @object depth members hsorted _ ih =>
    cases hintegral with
    | object hmembers =>
      cases h with
      | @object _ names texts hnames htexts =>
        have hlength : (members.map Prod.fst).length = texts.length := by
          rw [List.length_map, ← htexts.length_eq, List.length_map]
        have hnamed := forall₂_zip_map Prod.fst (List.forall₂_map_left_iff.mp htexts)
        have hreads : List.Forall₂ (fun named kind => kind.1 = named.1 ∧ Reads named.2 kind.2)
            ((members.map Prod.fst).zip texts)
            (members.map fun member => (member.1, IsRead depth member.2)) :=
          forall₂_map_of_mem hnamed fun member hmember _ hform =>
            ⟨hform.1.symm, ih member hmember (hmembers member hmember) hform.2⟩
        refine (reads_named (namedText_membersBytes hnames hlength) hreads).imp ?_
        rintro _ ⟨read, rfl, hshows⟩ start
        rw [List.map_map] at hshows
        have hread : read.read depth [] = .ok members := hshows.read hsorted
        rw [Source.read, hread]
        rfl

/-- The compact form of a document is a text of this document. -/
theorem parse_compactText {j : Json} (hreadable : Readable maxDepth j) (hintegral : Integral j)
    {text : Bytes} (h : CompactText j text) : parse text = .ok j := by
  have hspace : Space [] := nofun
  obtain ⟨root, hroot, hread⟩ :=
    Document.ofBytes_text hspace (h.reads hreadable hintegral) hspace
  rw [List.nil_append, List.append_nil] at hroot
  rw [parse, hroot, Document.read, hread]
  rfl

/-- A document with no numbers but integers comes back from what is written of it. -/
theorem parse_render {j : Json} (hreadable : Readable maxDepth j) (hintegral : Integral j) :
    parse (encode j.render) = .ok j :=
  parse_compactText hreadable hintegral (compactText_render hreadable)

end ReplyStage.Json
