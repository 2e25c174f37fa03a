import ReplyStage.Proofs.Json.Numbers
import ReplyStage.Proofs.Json.Strings
/-!
# Values are read

A text of the grammar is read as one value wherever it stands, up to where it ends (`Reads`). What
the value is like is told by a property of it: of a list by one property for each item, and of an
object by one for each name and each value (`Items.Shows`, `Members.Shows`). So whoever reads lists
and objects of their own kind has to say only what their parts are like.
-/

namespace ReplyStage.Json

/-- Lists that match one list match each other. -/
theorem forall₂_of_common {α β γ : Type} {related : α → β → Prop} {other : α → γ → Prop}
    {joined : β → γ → Prop} (h : ∀ a b c, related a b → other a c → joined b c) {as : List α}
    {bs : List β} {cs : List γ} (hbs : List.Forall₂ related as bs)
    (hcs : List.Forall₂ other as cs) : List.Forall₂ joined bs cs := by
  induction hbs generalizing cs with
  | nil =>
    cases hcs
    exact .nil
  | cons hb _ ih =>
    cases hcs with
    | cons hc hcs => exact .cons (h _ _ _ hb hc) (ih hcs)

/-! ## What is read -/

/-- Items that are all there, each with its property. -/
inductive Items.Shows : Items → List (Source → Prop) → Prop
  | done : Items.Shows (.done none) []
  | item {start value rest kind kinds} : kind value → Items.Shows rest kinds →
      Items.Shows (.item start value rest) (kind :: kinds)

/-- Members that are all there, each with the properties of its name and its value. -/
inductive Members.Shows : Members → List ((Quoted → Prop) × (Source → Prop)) → Prop
  | done : Members.Shows (.done none) []
  | member {name start value rest kind kinds} : kind.1 name → kind.2 value →
      Members.Shows rest kinds → Members.Shows (.member name start value rest) (kind :: kinds)

/-- Wherever a text stands, it is read as one value with a property. -/
structure Reads (text : Bytes) (kind : Source → Prop) : Prop where
  begins : ∃ b rest, text = b :: rest ∧ isSpace b = false ∧ b ≠ 0x5D
  reads : ∀ fuel offset rest, 3 * text.length ≤ fuel → Ends rest →
    ∃ value, readValue fuel offset (text ++ rest) = (value, offset + text.length, rest) ∧ kind value

/-- Wherever a text stands, it is read as one string with a property. -/
def ReadsName (text : Bytes) (kind : Quoted → Prop) : Prop :=
  ∃ content, Recognizable content ∧ text = inQuotes content ∧
    ∀ start following, kind ⟨start, content, .closed, following⟩

/-- A member whose name and value have their properties. -/
def ReadsMember (text : Bytes) (kind : (Quoted → Prop) × (Source → Prop)) : Prop :=
  ∃ name value, MemberText name value text ∧ ReadsName name kind.1 ∧ Reads value kind.2

theorem Reads.imp {text : Bytes} {kind kind' : Source → Prop} (h : Reads text kind)
    (himp : ∀ value, kind value → kind' value) : Reads text kind' where
  begins := h.begins
  reads fuel offset rest hfuel hrest := by
    obtain ⟨value, hread, hkind⟩ := h.reads fuel offset rest hfuel hrest
    exact ⟨value, hread, himp value hkind⟩

/-- A text is read by its first byte. -/
theorem Reads.of_cons {b : UInt8} {text : Bytes} {kind : Source → Prop} (hspace : isSpace b = false)
    (hbracket : b ≠ 0x5D)
    (h : ∀ fuel offset rest, 3 * text.length + 2 ≤ fuel → Ends rest →
      ∃ value, readValue (fuel + 1) offset (b :: (text ++ rest)) =
        (value, offset + 1 + text.length, rest) ∧ kind value) : Reads (b :: text) kind where
  begins := ⟨b, text, rfl, hspace, hbracket⟩
  reads fuel offset rest hfuel hrest := by
    rw [List.length_cons] at hfuel
    obtain ⟨fuel, rfl⟩ : ∃ fuel', fuel = fuel' + 1 := Nat.exists_eq_succ_of_ne_zero (by omega)
    obtain ⟨value, hread, hkind⟩ := h fuel offset rest (by omega) hrest
    rw [List.length_cons, Nat.add_comm text.length, ← Nat.add_assoc]
    exact ⟨value, hread, hkind⟩

theorem Reads.length_pos {text : Bytes} {kind : Source → Prop} (h : Reads text kind) :
    0 < text.length := by
  obtain ⟨b, rest, rfl, -⟩ := h.begins
  exact Nat.succ_pos _

theorem ReadsMember.length_pos {text : Bytes} {kind : (Quoted → Prop) × (Source → Prop)}
    (h : ReadsMember text kind) : 0 < text.length := by
  obtain ⟨name, value, ⟨after, before, -, -, rfl⟩, ⟨content, -, rfl, -⟩, -⟩ := h
  exact Nat.succ_pos _

/-! ## White space -/

theorem skipSpace_append {space : Bytes} (h : Space space) (offset : Nat) (rest : Bytes) :
    skipSpace offset (space ++ rest) = skipSpace (offset + space.length) rest := by
  induction space generalizing offset with
  | nil => rfl
  | cons b space ih =>
    obtain ⟨hb, hspace⟩ := List.forall_mem_cons.mp h
    rw [List.cons_append, skipSpace, if_pos hb, ih hspace, List.length_cons, Nat.add_assoc,
      Nat.add_comm 1]

theorem skipSpace_cons {b : UInt8} (h : isSpace b = false) (offset : Nat) (rest : Bytes) :
    skipSpace offset (b :: rest) = (offset, b :: rest) := by
  rw [skipSpace, h]
  rfl

theorem Ends.append {space rest : Bytes} (h : Ends rest) (hspace : Space space) :
    Ends (space ++ rest) := by
  cases space with
  | nil => exact h
  | cons b space =>
    rintro _ ⟨⟩
    exact .inl (hspace b List.mem_cons_self)

theorem ends_cons {b : UInt8} (h : b = 0x2C ∨ b = 0x5D ∨ b = 0x7D) (rest : Bytes) :
    Ends (b :: rest) := by
  rintro _ ⟨⟩
  exact .inr h

/-! ## Words, strings and numbers -/

theorem readWord_append (value : Source) (offset : Nat) (word rest : Bytes) :
    readWord value offset word (word ++ rest) = (value, offset + word.length, rest) := by
  induction word generalizing offset with
  | nil => rfl
  | cons b word ih =>
    rw [List.cons_append, readWord, if_pos rfl, ih, List.length_cons, Nat.add_assoc, Nat.add_comm 1]

theorem reads_null : Reads [0x6E, 0x75, 0x6C, 0x6C] (· = .null) := by
  refine .of_cons rfl (by decide) fun fuel offset rest _ _ => ⟨.null, ?_, rfl⟩
  rw [readValue, if_neg (by decide), if_neg (by decide), if_neg (by decide), if_pos rfl,
    readWord_append]

theorem reads_true : Reads [0x74, 0x72, 0x75, 0x65] (· = .bool true) := by
  refine .of_cons rfl (by decide) fun fuel offset rest _ _ => ⟨.bool true, ?_, rfl⟩
  rw [readValue, if_neg (by decide), if_neg (by decide), if_neg (by decide), if_neg (by decide),
    if_pos rfl, readWord_append]

theorem reads_false : Reads [0x66, 0x61, 0x6C, 0x73, 0x65] (· = .bool false) := by
  refine .of_cons rfl (by decide) fun fuel offset rest _ _ => ⟨.bool false, ?_, rfl⟩
  rw [readValue, if_neg (by decide), if_neg (by decide), if_neg (by decide), if_neg (by decide),
    if_neg (by decide), if_pos rfl, readWord_append]

theorem reads_string {text : Bytes} {kind : Quoted → Prop} (h : ReadsName text kind) :
    Reads text fun value => ∃ q, value = .string q ∧ kind q := by
  obtain ⟨content, hcontent, rfl, hkind⟩ := h
  refine .of_cons rfl (by decide) fun fuel offset rest _ _ => ?_
  refine ⟨_, ?_, _, rfl, hkind (offset + 1) (1 + rest.length)⟩
  rw [readValue, if_pos rfl, List.append_assoc, List.singleton_append,
    readQuoted_recognizable hcontent, List.length_append, List.length_singleton, Nat.add_assoc _ _ 1]

/-- A number is read with its sign and its digits. -/
theorem reads_number {sign whole fraction exponent : Bytes} (hsign : sign = [] ∨ sign = [0x2D])
    (hwhole : WholeText whole) (hfraction : FractionText fraction)
    (hexponent : ExponentText exponent) :
    Reads (sign ++ (whole ++ (fraction ++ exponent))) fun value => ∃ n, value = .number n ∧
      n.negative = decide (sign ≠ []) ∧ n.whole = digitValues whole ∧
      (fraction = [] → n.fraction = none) ∧ (exponent = [] → n.exponent = none) := by
  rcases hsign with rfl | rfl
  · obtain ⟨b, more, rfl⟩ := List.exists_cons_of_ne_nil hwhole.1.1
    have hb := hwhole.1.2 b List.mem_cons_self
    have hne : ∀ c, digitValue? c = none → b ≠ c := by
      rintro c hc rfl
      rw [hc] at hb
      cases hb
    have hspace : isSpace b = false := by
      simp [isSpace, hne 0x20 rfl, hne 0x09 rfl, hne 0x0A rfl, hne 0x0D rfl]
    rw [List.nil_append, List.cons_append]
    refine .of_cons hspace (hne _ rfl) fun fuel offset rest _ hrest => ?_
    obtain ⟨n, hread, hn⟩ := readNumeral_text hwhole hfraction hexponent hrest false offset
    refine ⟨_, ?_, n, rfl, hn⟩
    rw [readValue, if_neg (hne _ rfl), if_neg (hne _ rfl), if_neg (hne _ rfl), if_neg (hne _ rfl),
      if_neg (hne _ rfl), if_neg (hne _ rfl), if_neg (hne _ rfl), if_pos hb]
    simp only [List.cons_append, List.append_assoc] at hread ⊢
    rw [readNumber, hread]
    simp only [List.length_cons, Nat.add_assoc, Nat.add_comm 1]
  · rw [List.singleton_append]
    refine .of_cons rfl (by decide) fun fuel offset rest _ hrest => ?_
    obtain ⟨n, hread, hn⟩ :=
      readNumeral_text hwhole hfraction hexponent hrest true (offset + 1)
    refine ⟨_, ?_, n, rfl, hn⟩
    rw [readValue, if_neg (by decide), if_neg (by decide), if_neg (by decide), if_neg (by decide),
      if_neg (by decide), if_neg (by decide), if_pos rfl]
    simp only [List.append_assoc]
    rw [readNumber, hread]

/-- A number without a fraction or an exponent is read with nothing but its sign and its digits. -/
theorem reads_whole {sign whole : Bytes} (hsign : sign = [] ∨ sign = [0x2D])
    (hwhole : WholeText whole) :
    Reads (sign ++ whole) fun value => ∃ finish,
      value = .number ⟨decide (sign ≠ []), digitValues whole, none, none, finish⟩ := by
  have hreads := reads_number hsign hwhole (.inl rfl) (.inl rfl)
  rw [List.append_nil, List.append_nil] at hreads
  refine hreads.imp ?_
  rintro _ ⟨⟨negative, digits, fraction, exponent, finish⟩, rfl, rfl, rfl, hfraction, hexponent⟩
  obtain rfl : fraction = none := hfraction rfl
  obtain rfl : exponent = none := hexponent rfl
  exact ⟨finish, rfl⟩

/-! ## Lists -/

/-- One item is read, and then those after it. -/
theorem readItem_part {part : Bytes} {kind : Source → Prop} (h : Reads part kind)
    (fuel : Nat) (hfuel : 3 * part.length ≤ fuel) (start : Nat) {tail : Bytes} (htail : Ends tail) :
    ∃ value, kind value ∧ readItem (fuel + 1) start (part ++ tail) =
      (.item start value (readItems fuel false (start + part.length) tail).1,
        (readItems fuel false (start + part.length) tail).2) := by
  obtain ⟨value, hread, hkind⟩ := h.reads fuel start tail hfuel htail
  refine ⟨value, hkind, ?_⟩
  rw [readItem, hread]

/-- The bracket that ends a list. -/
theorem readItems_close {space : Bytes} (h : Space space) (fuel : Nat) (first : Bool) (offset : Nat)
    (rest : Bytes) :
    readItems (fuel + 1) first offset (space ++ 0x5D :: rest) =
      (.done none, offset + space.length + 1, rest) := by
  rw [readItems, skipSpace_append h, skipSpace_cons rfl]
  rfl

/-- The comma before another item. -/
theorem readItems_comma {space : Bytes} (h : Space space) {offset start : Nat} {b : UInt8}
    {text more : Bytes} (hskip : skipSpace (offset + space.length + 1) text = (start, b :: more))
    (hb : b ≠ 0x5D) (fuel : Nat) :
    readItems (fuel + 1) false offset (space ++ 0x2C :: text) = readItem fuel start (b :: more) := by
  have hhead : (b :: more).head? ≠ some 0x5D := fun h => hb (Option.some.inj h)
  rw [readItems, skipSpace_append h, skipSpace_cons rfl]
  simp only [hskip, hhead, if_false, Bool.false_eq_true]
  rfl

/-- Items are read from where the first of them begins. The induction is on the items; each time
around, reading has to be left with fuel for what comes after one item and its comma. -/
theorem readItem_listed {parts : List Bytes} {inner : Bytes} (hlisted : Listed parts inner)
    {kinds : List (Source → Prop)} (hreads : List.Forall₂ Reads parts kinds) (hne : parts ≠ [])
    (fuel : Nat) (hfuel : 3 * inner.length + 1 ≤ fuel) (offset : Nat) (rest : Bytes) :
    ∃ start b more items, skipSpace offset (inner ++ 0x5D :: rest) = (start, b :: more) ∧
      b ≠ 0x5D ∧ readItem fuel start (b :: more) = (items, offset + inner.length + 1, rest) ∧
      items.Shows kinds := by
  induction hlisted generalizing kinds fuel offset with
  | nil => exact absurd rfl hne
  | @last part before after hbefore hafter =>
    cases hreads with
    | cons hpart hnil =>
      cases hnil
      have hpos := hpart.length_pos
      simp only [List.length_append] at hfuel
      obtain ⟨fuel, rfl⟩ : ∃ fuel', fuel = fuel' + 1 + 1 := ⟨fuel - 2, by omega⟩
      obtain ⟨value, hkind, hread⟩ := readItem_part hpart (fuel + 1) (by omega)
        (offset + before.length) ((ends_cons (.inr (.inl rfl)) rest).append hafter)
      obtain ⟨b, more, rfl, hspace, hb⟩ := hpart.begins
      refine ⟨offset + before.length, b, more ++ (after ++ 0x5D :: rest),
        .item (offset + before.length) value (.done none), ?_, hb, ?_, .item hkind .done⟩
      · rw [List.append_assoc, skipSpace_append hbefore, List.append_assoc, List.cons_append,
          skipSpace_cons hspace]
      · rw [← List.cons_append, hread, readItems_close hafter]
        simp only [List.length_append, Nat.add_assoc]
  | @more part next parts before after text hbefore hafter hlisted ih =>
    cases hreads with
    | cons hpart hparts =>
      have hpos := hpart.length_pos
      simp only [List.length_append, List.length_cons] at hfuel
      obtain ⟨fuel, rfl⟩ : ∃ fuel', fuel = fuel' + 1 + 1 := ⟨fuel - 2, by omega⟩
      obtain ⟨start, c, rest', items, hskip, hc, hitems, hshows⟩ := ih hparts (by simp)
        fuel (by omega) (offset + before.length + part.length + after.length + 1)
      obtain ⟨value, hkind, hread⟩ := readItem_part hpart (fuel + 1) (by omega)
        (offset + before.length) ((ends_cons (.inl rfl) (text ++ 0x5D :: rest)).append hafter)
      obtain ⟨b, more, rfl, hspace, hb⟩ := hpart.begins
      refine ⟨offset + before.length, b, more ++ (after ++ 0x2C :: (text ++ 0x5D :: rest)),
        .item (offset + before.length) value items, ?_, hb, ?_, .item hkind hshows⟩
      · simp only [List.append_assoc, List.cons_append]
        rw [skipSpace_append hbefore, skipSpace_cons hspace]
      · rw [← List.cons_append, hread, readItems_comma hafter hskip hc, hitems]
        simp only [List.length_append, List.length_cons, Prod.mk.injEq, true_and, and_true]
        omega

/-- A list is read with what its items are like. -/
theorem reads_array {items : List Bytes} {text : Bytes} (h : ArrayText items text)
    {kinds : List (Source → Prop)} (hitems : List.Forall₂ Reads items kinds) :
    Reads text fun value => ∃ read, value = .array read ∧ read.Shows kinds := by
  obtain ⟨inner, hlisted, rfl⟩ := h
  refine .of_cons rfl (by decide) fun fuel offset rest hfuel _ => ?_
  rw [List.length_append, List.length_singleton] at hfuel
  obtain ⟨fuel, rfl⟩ : ∃ fuel', fuel = fuel' + 1 := ⟨fuel - 1, by omega⟩
  have hread : ∃ read, readItems (fuel + 1) true (offset + 1) (inner ++ 0x5D :: rest) =
      (read, offset + 1 + inner.length + 1, rest) ∧ read.Shows kinds := by
    by_cases hne : items = []
    · subst hne
      cases hitems
      cases hlisted with
      | nil hspace => exact ⟨.done none, readItems_close hspace fuel true (offset + 1) rest, .done⟩
    · obtain ⟨start, b, more, read, hskip, hb, hitem, hshows⟩ :=
        readItem_listed hlisted hitems hne fuel (by omega) (offset + 1) rest
      refine ⟨read, ?_, hshows⟩
      rw [readItems, hskip]
      simp only [hb, if_false, if_true, hitem]
  obtain ⟨read, hread, hshows⟩ := hread
  refine ⟨.array read, ?_, read, rfl, hshows⟩
  rw [readValue, if_neg (by decide), if_pos rfl, List.append_assoc, List.singleton_append, hread,
    List.length_append, List.length_singleton, Nat.add_assoc _ _ 1]

/-! ## Objects -/

/-- One member is read after the opening quote of its name, and then those after it. -/
theorem readMember_part {part : Bytes} {kind : (Quoted → Prop) × (Source → Prop)}
    (h : ReadsMember part kind) (fuel : Nat) (hfuel : 3 * part.length ≤ fuel) (start : Nat)
    {tail : Bytes} (htail : Ends tail) :
    ∃ more name valueStart value, part = 0x22 :: more ∧ kind.1 name ∧ kind.2 value ∧
      readMember (fuel + 1) (start + 1) (more ++ tail) =
        (.member name valueStart value (readMembers fuel false (start + part.length) tail).1,
          (readMembers fuel false (start + part.length) tail).2) := by
  obtain ⟨nameText, valueText, ⟨after, before, hafter, hbefore, rfl⟩,
    ⟨content, hcontent, rfl, hname⟩, hvalue⟩ := h
  simp only [inQuotes, List.length_append, List.length_cons, List.length_nil] at hfuel
  let valueStart := start + 1 + content.length + 1 + after.length + 1 + before.length
  obtain ⟨value, hread, hkind⟩ := hvalue.reads fuel valueStart tail (by omega) htail
  obtain ⟨b, valueMore, rfl, hspace, -⟩ := hvalue.begins
  let afterName := after ++ 0x3A :: (before ++ (b :: valueMore ++ tail))
  have hquoted : readQuoted (start + 1) (content ++ 0x22 :: afterName) =
      (⟨start + 1, content, .closed, 1 + afterName.length⟩, start + 1 + content.length + 1,
        afterName) := readQuoted_recognizable hcontent _ _
  have hcolon : skipSpace (start + 1 + content.length + 1) afterName =
      (start + 1 + content.length + 1 + after.length,
        0x3A :: (before ++ (b :: valueMore ++ tail))) := by
    rw [skipSpace_append hafter, skipSpace_cons rfl]
  have hstart : skipSpace (start + 1 + content.length + 1 + after.length + 1)
      (before ++ (b :: valueMore ++ tail)) = (valueStart, b :: valueMore ++ tail) := by
    rw [skipSpace_append hbefore, List.cons_append, skipSpace_cons hspace]
  refine ⟨content ++ 0x22 :: (after ++ 0x3A :: (before ++ b :: valueMore)),
    ⟨start + 1, content, .closed, 1 + afterName.length⟩, valueStart, value, ?_, hname _ _, hkind, ?_⟩
  · simp only [inQuotes, List.cons_append, List.append_assoc, List.nil_append]
  · have hmore : content ++ 0x22 :: (after ++ 0x3A :: (before ++ b :: valueMore)) ++ tail =
        content ++ 0x22 :: afterName := by
      simp only [afterName, List.cons_append, List.append_assoc]
    rw [hmore, readMember, hquoted]
    have hfinish : valueStart + (b :: valueMore).length =
        start + (inQuotes content ++ (after ++ 0x3A :: (before ++ b :: valueMore))).length := by
      simp only [inQuotes, valueStart, List.length_append, List.length_cons, List.length_nil]
      omega
    simp only [hcolon, hstart, hread, hfinish, if_true]

/-- The brace that ends an object. -/
theorem readMembers_close {space : Bytes} (h : Space space) (fuel : Nat) (first : Bool)
    (offset : Nat) (rest : Bytes) :
    readMembers (fuel + 1) first offset (space ++ 0x7D :: rest) =
      (.done none, offset + space.length + 1, rest) := by
  rw [readMembers, skipSpace_append h, skipSpace_cons rfl]
  rfl

/-- The comma before another member. -/
theorem readMembers_comma {space : Bytes} (h : Space space) {offset start : Nat}
    {text more : Bytes}
    (hskip : skipSpace (offset + space.length + 1) text = (start, 0x22 :: more)) (fuel : Nat) :
    readMembers (fuel + 1) false offset (space ++ 0x2C :: text) =
      readMember fuel (start + 1) more := by
  rw [readMembers, skipSpace_append h, skipSpace_cons rfl]
  simp only [hskip, if_true, Bool.false_eq_true, if_false]
  rfl

/-- Members are read from the name of the first of them, as items are. -/
theorem readMember_listed {parts : List Bytes} {inner : Bytes} (hlisted : Listed parts inner)
    {kinds : List ((Quoted → Prop) × (Source → Prop))}
    (hreads : List.Forall₂ ReadsMember parts kinds) (hne : parts ≠ []) (fuel : Nat)
    (hfuel : 3 * inner.length + 1 ≤ fuel) (offset : Nat) (rest : Bytes) :
    ∃ start more members, skipSpace offset (inner ++ 0x7D :: rest) = (start, 0x22 :: more) ∧
      readMember fuel (start + 1) more = (members, offset + inner.length + 1, rest) ∧
      members.Shows kinds := by
  induction hlisted generalizing kinds fuel offset with
  | nil => exact absurd rfl hne
  | @last part before after hbefore hafter =>
    cases hreads with
    | cons hpart hnil =>
      cases hnil
      have hpos := hpart.length_pos
      simp only [List.length_append] at hfuel
      obtain ⟨fuel, rfl⟩ : ∃ fuel', fuel = fuel' + 1 + 1 := ⟨fuel - 2, by omega⟩
      obtain ⟨more, name, valueStart, value, rfl, hname, hkind, hread⟩ :=
        readMember_part hpart (fuel + 1) (by omega) (offset + before.length)
          ((ends_cons (.inr (.inr rfl)) rest).append hafter)
      refine ⟨offset + before.length, more ++ (after ++ 0x7D :: rest),
        .member name valueStart value (.done none), ?_, ?_, .member hname hkind .done⟩
      · simp only [List.append_assoc, List.cons_append]
        rw [skipSpace_append hbefore, skipSpace_cons rfl]
      · rw [hread, readMembers_close hafter]
        simp only [List.length_append, Nat.add_assoc]
  | @more part next parts before after text hbefore hafter hlisted ih =>
    cases hreads with
    | cons hpart hparts =>
      have hpos := hpart.length_pos
      simp only [List.length_append, List.length_cons] at hfuel
      obtain ⟨fuel, rfl⟩ : ∃ fuel', fuel = fuel' + 1 + 1 := ⟨fuel - 2, by omega⟩
      obtain ⟨start, rest', members, hskip, hmembers, hshows⟩ := ih hparts (by simp)
        fuel (by omega) (offset + before.length + part.length + after.length + 1)
      obtain ⟨more, name, valueStart, value, rfl, hname, hkind, hread⟩ :=
        readMember_part hpart (fuel + 1) (by omega) (offset + before.length)
          ((ends_cons (.inl rfl) (text ++ 0x7D :: rest)).append hafter)
      refine ⟨offset + before.length, more ++ (after ++ 0x2C :: (text ++ 0x7D :: rest)),
        .member name valueStart value members, ?_, ?_, .member hname hkind hshows⟩
      · simp only [List.append_assoc, List.cons_append]
        rw [skipSpace_append hbefore, skipSpace_cons rfl]
      · rw [hread, readMembers_comma hafter hskip, hmembers]
        simp only [List.length_append, List.length_cons, Prod.mk.injEq, true_and, and_true]
        omega

/-- An object is read with what its members are like. -/
theorem reads_object {members : List (Bytes × Bytes)} {text : Bytes} (h : ObjectText members text)
    {kinds : List ((Quoted → Prop) × (Source → Prop))}
    (hmembers : List.Forall₂ (fun member kind => ReadsName member.1 kind.1 ∧ Reads member.2 kind.2)
      members kinds) :
    Reads text fun value => ∃ read, value = .object read ∧ read.Shows kinds := by
  obtain ⟨parts, inner, hparts, hlisted, rfl⟩ := h
  have hreads : List.Forall₂ ReadsMember parts kinds :=
    forall₂_of_common (fun _ _ _ hpart hmember => ⟨_, _, hpart, hmember⟩) hparts hmembers
  refine .of_cons rfl (by decide) fun fuel offset rest hfuel _ => ?_
  rw [List.length_append, List.length_singleton] at hfuel
  obtain ⟨fuel, rfl⟩ : ∃ fuel', fuel = fuel' + 1 := ⟨fuel - 1, by omega⟩
  have hread : ∃ read, readMembers (fuel + 1) true (offset + 1) (inner ++ 0x7D :: rest) =
      (read, offset + 1 + inner.length + 1, rest) ∧ read.Shows kinds := by
    by_cases hne : parts = []
    · subst hne
      cases hreads
      cases hlisted with
      | nil hspace => exact ⟨.done none, readMembers_close hspace fuel true (offset + 1) rest, .done⟩
    · obtain ⟨start, more, read, hskip, hmember, hshows⟩ :=
        readMember_listed hlisted hreads hne fuel (by omega) (offset + 1) rest
      refine ⟨read, ?_, hshows⟩
      rw [readMembers, hskip]
      simp only [if_true, hmember]
      rfl
  obtain ⟨read, hread, hshows⟩ := hread
  refine ⟨.object read, ?_, read, rfl, hshows⟩
  rw [readValue, if_neg (by decide), if_neg (by decide), if_pos rfl, List.append_assoc,
    List.singleton_append, hread, List.length_append, List.length_singleton, Nat.add_assoc _ _ 1]

theorem StringText.readsName {s : String} {text : Bytes} (h : StringText s text) :
    ReadsName text fun name => name.read = .ok s := by
  obtain ⟨content, hcontent, rfl⟩ := h
  exact ⟨content, hcontent.recognizable, rfl, Quoted.read_content hcontent⟩

/-- An object is read with its names and with what its values are like. -/
theorem reads_named {members : List (String × Bytes)} {text : Bytes} (h : NamedText members text)
    {kinds : List (String × (Source → Prop))}
    (hkinds : List.Forall₂ (fun member kind => kind.1 = member.1 ∧ Reads member.2 kind.2)
      members kinds) :
    Reads text fun value => ∃ read, value = .object read ∧
      read.Shows (kinds.map fun kind => (fun name => name.read = .ok kind.1, kind.2)) := by
  obtain ⟨written, hobject, hwritten⟩ := h
  refine reads_object hobject (List.forall₂_map_right_iff.mpr ?_)
  refine forall₂_of_common ?_ hwritten hkinds
  rintro member w kind ⟨hname, hvalue⟩ ⟨hkind, hreads⟩
  rw [hkind, hvalue]
  exact ⟨hname.readsName, hreads⟩

/-! ## Values that are skipped -/

theorem Items.Shows.skipFault? {items : Items} {kinds : List (Source → Prop)}
    (h : items.Shows kinds) (hkinds : ∀ kind ∈ kinds, ∀ value, kind value → value.skipFault? = none) :
    items.skipFault? = none := by
  induction h with
  | done => rfl
  | item hkind _ ih =>
    obtain ⟨hfirst, hrest⟩ := List.forall_mem_cons.mp hkinds
    rw [Items.skipFault?, hfirst _ hkind, ih hrest]
    rfl

theorem Members.Shows.skipFault? {members : Members}
    {kinds : List ((Quoted → Prop) × (Source → Prop))} (h : members.Shows kinds)
    (hkinds : ∀ kind ∈ kinds, (∀ name, kind.1 name → name.skipFault? = none) ∧
      ∀ value, kind.2 value → value.skipFault? = none) :
    members.skipFault? = none := by
  induction h with
  | done => rfl
  | member hname hkind _ ih =>
    obtain ⟨⟨hfirst, hvalue⟩, hrest⟩ := List.forall_mem_cons.mp hkinds
    rw [Members.skipFault?, hfirst _ hname, hvalue _ hkind, ih hrest]
    rfl

theorem readsName_skipped {content : Bytes} (h : Recognizable content) :
    ReadsName (inQuotes content) fun name => name.skipFault? = none :=
  ⟨content, h, rfl, Quoted.skipFault?_recognizable h⟩

/-- Nothing is wrong with a value that is skipped. -/
theorem ValueText.reads {text : Bytes} (h : ValueText text) :
    Reads text fun value => value.skipFault? = none := by
  induction h with
  | null =>
    refine reads_null.imp ?_
    rintro _ rfl
    rfl
  | false =>
    refine reads_false.imp ?_
    rintro _ rfl
    rfl
  | true =>
    refine reads_true.imp ?_
    rintro _ rfl
    rfl
  | number h =>
    obtain ⟨sign, whole, fraction, exponent, hsign, hwhole, hfraction, hexponent, rfl⟩ := h
    refine (reads_number hsign hwhole hfraction hexponent).imp ?_
    rintro _ ⟨n, rfl, -⟩
    rfl
  | string h =>
    refine (reads_string (readsName_skipped h)).imp ?_
    rintro _ ⟨q, rfl, hq⟩
    exact hq
  | @array items text _ harray ih =>
    have hitems : List.Forall₂ Reads items
        (items.map fun _ value => value.skipFault? = none) :=
      List.forall₂_map_right_iff.mpr (List.forall₂_same.mpr ih)
    refine (reads_array harray hitems).imp ?_
    rintro _ ⟨read, rfl, hshows⟩
    refine hshows.skipFault? fun kind hkind value hvalue => ?_
    obtain ⟨_, -, rfl⟩ := List.mem_map.mp hkind
    exact hvalue
  | @object members text hnames _ hobject ih =>
    have hmembers : List.Forall₂
        (fun member kind => ReadsName member.1 kind.1 ∧ Reads member.2 kind.2) members
        (members.map fun _ => (fun name => name.skipFault? = none,
          fun value => value.skipFault? = none)) := by
      refine List.forall₂_map_right_iff.mpr (List.forall₂_same.mpr fun member hmember => ?_)
      obtain ⟨content, hcontent, heq⟩ := hnames member hmember
      exact ⟨heq ▸ readsName_skipped hcontent, ih member hmember⟩
    refine (reads_object hobject hmembers).imp ?_
    rintro _ ⟨read, rfl, hshows⟩
    refine hshows.skipFault? fun kind hkind => ?_
    obtain ⟨_, -, rfl⟩ := List.mem_map.mp hkind
    exact ⟨fun _ h => h, fun _ h => h⟩

/-! ## Whole texts -/

/-- A text is read whole, with white space around its value. -/
theorem Document.ofBytes_text {before text after : Bytes} {kind : Source → Prop}
    (hbefore : Space before) (h : Reads text kind) (hafter : Space after) :
    ∃ root, ofBytes (before ++ (text ++ after)) = ⟨before.length, root, none⟩ ∧ kind root := by
  have hend : Ends (after ++ []) := Ends.append nofun hafter
  obtain ⟨root, hread, hkind⟩ := h.reads (3 * (before ++ (text ++ after)).length + 3) before.length
    (after ++ []) (by simp only [List.length_append]; omega) hend
  obtain ⟨b, more, rfl, hspace, -⟩ := h.begins
  refine ⟨root, ?_, hkind⟩
  have hstart : skipSpace 0 (before ++ (b :: more ++ after)) =
      (before.length, b :: more ++ (after ++ [])) := by
    rw [skipSpace_append hbefore, List.cons_append, skipSpace_cons hspace, Nat.zero_add,
      List.append_nil, List.cons_append]
  rw [ofBytes, hstart]
  simp only [hread]
  rw [skipSpace_append hafter]
  rfl

end ReplyStage.Json
