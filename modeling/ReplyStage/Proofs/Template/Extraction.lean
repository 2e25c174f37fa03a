import ReplyStage.Proofs.Json.RoundTrip
import ReplyStage.Proofs.Template.Evaluation
/-!
# Parts of the payload

What a JSON expression stands for: the part of the payload that its path addresses, as its own text or
in its compact form (`lookup_addresses`).
-/

namespace ReplyStage

open Text.Utf8 (encode)

namespace Json

/-- All but strings are written in their compact form. -/
theorem plainText_eq_render {part : Json} (h : ∀ s, part ≠ .string s) :
    part.plainText = part.render := by
  cases part with
  | string s => exact absurd rfl (h s)
  | _ => rfl

/-- What is found in a payload is readable. -/
theorem readable_lookup {record : Record} {j part : Json} {path : String} (h : record.json = .ok j)
    (hpart : j.lookup path = some part) : Readable maxDepth part :=
  (readable_parse h).leads (lookup_eq_some_iff.mp hpart).1

end Json

namespace Template

/-- A template that is one expression has the value of the expression. -/
theorem evaluate_expression {t : Template} {e : Expression} {record : Record} {text : String}
    (ht : t.segments = [.expression e]) (h : e.selector.Finds record text) :
    t.evaluate record = .ok text := by
  have hvalue : Segment.value record (.expression e) = .ok text :=
    Segment.value_eq_ok_iff.mpr (.own h)
  refine evaluate_eq_ok_iff.mpr ⟨[text], ?_, by simp⟩
  rw [ht]
  exact .cons hvalue .nil

end Template

namespace Json

/-- What paths address in a document, and how it is written. -/
theorem lookup_addresses (j : Json) :
    -- Steps with dots between them address the part that they lead to, unless it is null,
    (∀ steps : List String, steps ≠ [] → steps ≠ [""] → (∀ step ∈ steps, '.' ∉ step.toList) →
      (∀ part, j.lookup (Text.join '.' steps) = some part ↔ Leads steps j part ∧ part ≠ .null) ∧
      (j.lookup (Text.join '.' steps) = none ↔ Lost steps j ∨ Leads steps j .null)) ∧
    -- where items have decimal numbers.
    (∀ (position : Nat) (items : List Json),
      (∀ part, Child (toString position) (.array items) part ↔
        position ≤ Text.maxWord ∧ items[position]? = some part) ∧
      (Childless (toString position) (.array items) ↔
        Text.maxWord < position ∨ items.length ≤ position)) ∧
    -- A path finds nothing else,
    (∀ path part, path ≠ "" → j.lookup path = some part →
      part ≠ .null ∧ Leads (Text.split '.' path) j part) ∧
    -- and can be followed in two parts.
    (∀ p q, p ≠ "" → q ≠ "" → j.lookup (p ++ "." ++ q) = (j.lookup p).bind (lookup q)) ∧
    -- In a payload, a string that is found is written as it is, and all else in its compact form,
    ∀ record : Record, record.json = .ok j →
      ∀ (t : Template) path default part, t.segments = [.expression ⟨.json path, default⟩] →
        j.lookup (path.getD "") = some part → t.evaluate record = .ok part.plainText ∧
        (∀ s, part = .string s → part.plainText = s) ∧
        ((∀ s, part ≠ .string s) → CompactText part (encode part.plainText) ∧
          -- which stands for the same value if all numbers in it are integers.
          (Integral part → (Record.ofPayload (encode part.plainText)).json = .ok part)) := by
  refine ⟨fun steps hne hempty hdots => ?_, fun position items => ?_, fun path part hne hpart => ?_,
    fun p q hp hq => lookup_append hp hq j, fun record hjson t path default part ht hpart => ?_⟩
  · have hsteps := steps_join hne hempty hdots
    refine ⟨fun part => ?_, ?_⟩
    · rw [lookup_eq_some_iff, hsteps]
    · rw [lookup_eq_none_iff, hsteps]
  · exact ⟨fun part => child_toString_iff, childless_toString_iff⟩
  · obtain ⟨hleads, hnull⟩ := lookup_eq_some_iff.mp hpart
    rw [steps_of_ne hne] at hleads
    exact ⟨hnull, hleads⟩
  · obtain ⟨hleads, hnull⟩ := lookup_eq_some_iff.mp hpart
    have hreadable := readable_lookup hjson hpart
    refine ⟨Template.evaluate_expression ht (.json hjson hleads hnull), ?_, fun hstring => ?_⟩
    · rintro s rfl
      rfl
    · rw [plainText_eq_render hstring]
      exact ⟨compactText_render hreadable, parse_render hreadable⟩

/-- For instance, a payload with an object in an array. -/
def nested : Json := .object [("a", .array [.object [("0", .number (.integer (-7)))], .null])]

/-- The payload as written, with a blank in it. -/
def nestedRecord : Record := .ofPayload (encode "\x7b\"a\": [\x7b\"0\":-7\x7d,null]\x7d")

/-- A template for the first item. -/
def firstItem : Template where
  source := "$\x7b! json(\"a.0\") \x7d"
  segments := [.expression ⟨.json (some "a.0"), none⟩]

theorem lookup_addresses_nested :
    nested.lookup "a.0" = some (.object [("0", .number (.integer (-7)))]) ∧
      nested.lookup "a.0.0" = some (.number (.integer (-7))) ∧ nested.lookup "a.1" = none ∧
      nested.lookup "a.2" = none ∧ firstItem.evaluate nestedRecord = .ok "\x7b\"0\":-7\x7d" ∧
      (Record.ofPayload (encode "\x7b\"0\":-7\x7d")).json =
        .ok (.object [("0", .number (.integer (-7)))]) := by
  have hjson : nestedRecord.json = .ok nested := ok_of_toOption (by decide +kernel)
  obtain ⟨hsteps, hitems, -, hparts, hwritten⟩ := lookup_addresses nested
  have hitem : Leads ["a", toString 0] nested (.object [("0", .number (.integer (-7)))]) :=
    .on (.member rfl) (.on (((hitems 0 _).1 _).mpr ⟨by decide, rfl⟩) .here)
  have hnull : Leads ["a", toString 1] nested .null :=
    .on (.member rfl) (.on (((hitems 1 _).1 _).mpr ⟨by decide, rfl⟩) .here)
  have hlost : Lost ["a", toString 2] nested :=
    .later (.member rfl) (.now ((hitems 2 _).2.mpr (.inr (by decide))))
  have hfound : nested.lookup "a.0" = some (.object [("0", .number (.integer (-7)))]) :=
    ((hsteps ["a", toString 0] nofun nofun (by decide)).1 _).mpr ⟨hitem, nofun⟩
  obtain ⟨hvalue, -, hcompact⟩ := hwritten nestedRecord hjson firstItem (some "a.0") none _ rfl hfound
  obtain ⟨-, hback⟩ := hcompact nofun
  refine ⟨hfound, ?_, ?_, ?_, hvalue, hback ?_⟩
  · exact (hparts "a.0" "0" nofun nofun).trans (by rw [hfound]; rfl)
  · exact (hsteps ["a", toString 1] nofun nofun (by decide)).2.mpr (.inr hnull)
  · exact (hsteps ["a", toString 2] nofun nofun (by decide)).2.mpr (.inl hlost)
  · exact .object (List.forall_mem_singleton.mpr .integer)

end Json
end ReplyStage
