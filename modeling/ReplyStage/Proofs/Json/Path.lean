import ReplyStage.Json.Path
import ReplyStage.Proofs.Text.Integer
/-!
# Where paths lead

A path leads from a document to a part of it, or it is lost at one of its steps: where a member or an
item is missing, or where there is neither an object nor an array. `lookup_eq_some_iff` and
`lookup_eq_none_iff` say what is looked up in these terms, and `lookup_append` that a path can be
followed in two parts.
-/

namespace ReplyStage.Json

/-- One step of a path: to the member with a name, or to the item at a position. -/
inductive Child (step : String) : Json → Json → Prop
  | member {members child} : lookupEntry step members = some child →
      Child step (.object members) child
  | item {items position child} : Text.NatText step position → position ≤ Text.maxWord →
      items[position]? = some child → Child step (.array items) child

/-- Why a step leads nowhere. -/
inductive Childless (step : String) : Json → Prop
  | noMember {members} : lookupEntry step members = none → Childless step (.object members)
  | noItem {items : List Json} :
      (∀ position, Text.NatText step position → position ≤ Text.maxWord → items[position]? = none) →
      Childless step (.array items)
  | scalar {j} : (∀ items, j ≠ .array items) → (∀ members, j ≠ .object members) → Childless step j

/-- The steps of a path lead to a part. -/
inductive Leads : List String → Json → Json → Prop
  | here {j} : Leads [] j j
  | on {step steps j child part} : Child step j child → Leads steps child part →
      Leads (step :: steps) j part

/-- A step of a path leads nowhere. -/
inductive Lost : List String → Json → Prop
  | now {step steps j} : Childless step j → Lost (step :: steps) j
  | later {step steps j child} : Child step j child → Lost steps child → Lost (step :: steps) j

variable {j part : Json} {step path : String} {steps : List String}

theorem child?_eq_some_iff : j.child? step = some part ↔ Child step j part := by
  constructor
  · intro h
    unfold child? at h
    split at h
    · exact .member h
    · split at h
      · rename_i hposition
        obtain ⟨htext, hle⟩ := Text.readNat_eq_ok_iff.mp hposition
        exact .item htext hle h
      · cases h
    · cases h
  · intro h
    cases h with
    | member h => exact h
    | item htext hle h =>
      rw [child?, Text.readNat_eq_ok_iff.mpr ⟨htext, hle⟩]
      exact h

theorem child?_eq_none_iff : j.child? step = none ↔ Childless step j := by
  constructor
  · intro h
    unfold child? at h
    split at h
    · exact .noMember h
    · refine .noItem fun position htext hle => ?_
      rw [Text.readNat_eq_ok_iff.mpr ⟨htext, hle⟩] at h
      exact h
    · rename_i hobject harray
      exact .scalar harray hobject
  · intro h
    cases h with
    | noMember h => exact h
    | noItem h =>
      rw [child?]
      split
      · rename_i hposition
        obtain ⟨htext, hle⟩ := Text.readNat_eq_ok_iff.mp hposition
        exact h _ htext hle
      · rfl
    | scalar harray hobject =>
      unfold child?
      split
      · exact absurd rfl (hobject _)
      · exact absurd rfl (harray _)
      · rfl

theorem follow_eq_some_iff : follow steps j = some part ↔ Leads steps j part := by
  induction steps generalizing j with
  | nil =>
    rw [follow, Option.some.injEq]
    exact ⟨fun h => h ▸ .here, fun h => by cases h; rfl⟩
  | cons step steps ih =>
    rw [follow, Option.bind_eq_some_iff]
    constructor
    · rintro ⟨child, hchild, hpart⟩
      exact .on (child?_eq_some_iff.mp hchild) (ih.mp hpart)
    · intro h
      cases h with
      | on hchild hpart => exact ⟨_, child?_eq_some_iff.mpr hchild, ih.mpr hpart⟩

theorem follow_eq_none_iff : follow steps j = none ↔ Lost steps j := by
  induction steps generalizing j with
  | nil => exact ⟨nofun, nofun⟩
  | cons step steps ih =>
    rw [follow]
    cases hchild : j.child? step with
    | none =>
      exact ⟨fun _ => .now (child?_eq_none_iff.mp hchild), fun _ => rfl⟩
    | some child =>
      rw [Option.bind_some, ih]
      constructor
      · exact .later (child?_eq_some_iff.mp hchild)
      · intro h
        cases h with
        | now hnone =>
          rw [child?_eq_none_iff.mpr hnone] at hchild
          cases hchild
        | later hother hlost =>
          rw [child?_eq_some_iff.mpr hother] at hchild
          cases hchild
          exact hlost

/-- What is looked up is where the path leads, and is not null. -/
theorem lookup_eq_some_iff :
    j.lookup path = some part ↔ Leads (Json.steps path) j part ∧ part ≠ .null := by
  rw [lookup, Option.filter_eq_some_iff, follow_eq_some_iff, decide_eq_true_eq]

/-- Nothing is looked up where the path is lost, or leads to null. -/
theorem lookup_eq_none_iff :
    j.lookup path = none ↔ Lost (Json.steps path) j ∨ Leads (Json.steps path) j .null := by
  rw [lookup, Option.filter_eq_none_iff, ← follow_eq_none_iff, ← follow_eq_some_iff]
  cases follow (Json.steps path) j <;> simp

/-! ## Steps and paths -/

theorem steps_of_ne (h : path ≠ "") : Json.steps path = Text.split '.' path := if_neg h

/-- Steps come back from the path that joins them. One step without a name is the exception, since
the empty path has no steps. -/
theorem steps_join (hne : steps ≠ []) (hempty : steps ≠ [""])
    (hdots : ∀ step ∈ steps, '.' ∉ step.toList) : Json.steps (Text.join '.' steps) = steps := by
  have hsplit := Text.split_join hne hdots
  rw [steps_of_ne, hsplit]
  intro hjoin
  rw [hjoin] at hsplit
  exact hempty hsplit.symm

/-- The decimal number of an item leads to its position, if that can be counted. -/
theorem child_toString_iff {position : Nat} {items : List Json} :
    Child (toString position) (.array items) part ↔
      position ≤ Text.maxWord ∧ items[position]? = some part := by
  constructor
  · intro h
    cases h with
    | @item _ other _ htext hle hitem =>
      obtain rfl : other = position :=
        Text.natText_unique htext (Text.natText_toString position)
      exact ⟨hle, hitem⟩
  · rintro ⟨hle, hitem⟩
    exact .item (Text.natText_toString position) hle hitem

theorem childless_toString_iff {position : Nat} {items : List Json} :
    Childless (toString position) (.array items) ↔
      Text.maxWord < position ∨ items.length ≤ position := by
  have hitem : (∃ part, items[position]? = some part) ↔ position < items.length := by
    rw [← Option.isSome_iff_exists, isSome_getElem?]
  rw [← child?_eq_none_iff, Option.eq_none_iff_forall_ne_some, ← not_exists]
  simp only [child?_eq_some_iff, child_toString_iff, exists_and_left, hitem]
  omega

theorem follow_append (steps more : List String) (j : Json) :
    follow (steps ++ more) j = (follow steps j).bind (follow more) := by
  induction steps generalizing j with
  | nil => rfl
  | cons step steps ih =>
    rw [List.cons_append, follow, follow, Option.bind_assoc]
    exact congrArg (Option.bind _) (funext ih)

/-- Nothing is under null. -/
theorem follow_null (hne : steps ≠ []) : follow steps .null = none := by
  obtain ⟨step, steps, rfl⟩ := List.exists_cons_of_ne_nil hne
  rfl

/-- A path in two parts leads where the second leads from where the first has led. -/
theorem lookup_append {p q : String} (hp : p ≠ "") (hq : q ≠ "") (j : Json) :
    j.lookup (p ++ "." ++ q) = (j.lookup p).bind (lookup q) := by
  have hpath : p ++ "." ++ q ≠ "" := by
    simp [hp]
  have hsplit : Text.split '.' (p ++ "." ++ q) = Text.split '.' p ++ Text.split '.' q :=
    Text.split_append '.' p q
  rw [lookup, lookup, steps_of_ne hpath, steps_of_ne hp, hsplit, follow_append]
  cases follow (Text.split '.' p) j with
  | none => rfl
  | some middle =>
    by_cases hnull : middle = .null
    · subst hnull
      have hsplit : Text.split '.' q ≠ [] := by simpa [Text.split] using Text.splitChars_ne_nil '.' _
      rw [Option.bind_some, follow_null hsplit]
      rfl
    · have hkeep : (some middle).filter (· ≠ .null) = some middle := by simp [hnull]
      rw [hkeep, Option.bind_some, Option.bind_some, lookup, steps_of_ne hq]

end ReplyStage.Json
