import ReplyStage.Text.Fields
import ReplyStage.Text.Punycode
import ReplyStage.Unicode.Composition
import ReplyStage.Unicode.Direction
import ReplyStage.Unicode.DomainMapping
import ReplyStage.Unicode.Joining
/-!
# Names of domains

Names of domains are not kept to ASCII. The characters of a name are mapped and composed, and its
labels that are coded in ASCII are decoded. Then every label keeps some rules on marks and joiners
and, where anything is written from right to left, on directions. Labels and names may be of any
length.
-/

namespace ReplyStage.DomainName

open Unicode (isAscii)

/-- How a label begins that is coded in ASCII. -/
def codedMark : List Char := ['x', 'n', '-', '-']

/-- Whether a text is in the form that mapping and composing give. -/
def isSettled (cs : List Char) : Bool :=
  cs.all (fun c => Unicode.domainMapping? c = some [c]) && Unicode.composed cs = cs

/-- The characters of a label. Nothing is coded that need not be, and nothing is coded twice. -/
def decodeLabel (label : List Char) : Option (List Char) :=
  if codedMark.isPrefixOf label then
    match Text.Punycode.decode (label.drop codedMark.length) with
    | none => none
    | some decoded =>
      if decoded.all isAscii ∨ ¬ isSettled decoded ∨ codedMark.isPrefixOf decoded then none
      else some decoded
  else some label

/-! ## Rules for labels -/

/-- Whether the joiners in a text may stand where they do. Both stand after a virama. The one that
keeps letters apart also stands between letters that would join over it. -/
def joinersStand (before : List Char) : List Char → Bool
  | [] => true
  | c :: rest =>
    let afterVirama := before.head?.any fun b => Unicode.combiningClass b.toNat = Unicode.virama
    let betweenJoining :=
      (before.dropWhile Unicode.transparent.contains).head?.any Unicode.joinsNext &&
        (rest.dropWhile Unicode.transparent.contains).head?.any Unicode.joinsPrevious
    (if c = '\u200d' then afterVirama
      else if c = '\u200c' then afterVirama || betweenJoining
      else true) && joinersStand (c :: before) rest

/-- Whether a label is well-formed by itself. A mark has to be on something. -/
def isWellFormed (label : List Char) : Bool :=
  label.all isAscii || (!label.head?.any Unicode.isMark && joinersStand [] label)

/-- Whether a character makes directions matter. -/
def isFromRight (c : Char) : Bool :=
  !isAscii c && Unicode.direction c ∈ [.rightToLeft, .arabicNumber]

/-- Whether a label can be told from those around it where something is written from right to left:
it begins with a letter, has no letters of the other direction, and ends with a letter or a number,
marks aside. Numbers that are written from right to left go with letters that are, and only one kind
of numbers goes with these. -/
def keepsDirection (label : List Char) : Bool :=
  let directions := label.map Unicode.direction
  let ending := (directions.reverse.dropWhile (· = .mark)).head?
  match directions.head? with
  | none => true
  | some .rightToLeft =>
    .leftToRight ∉ directions && !(.europeanNumber ∈ directions && .arabicNumber ∈ directions) &&
      ending ∈ [some .rightToLeft, some .europeanNumber, some .arabicNumber]
  | some .leftToRight =>
    .rightToLeft ∉ directions && .arabicNumber ∉ directions &&
      ending ∈ [some .leftToRight, some .europeanNumber]
  | some _ => false

/-! ## Names -/

/-- The text that stands for a name: mapped, composed and with its coded labels as they are. -/
def standardText? (name : List Char) : Option (List Char) := do
  let mapped ← name.mapM Unicode.domainMapping?
  let text := Unicode.composed mapped.flatten
  let labels ← (Text.splitChars '.' text).mapM decodeLabel
  let directed := labels.any (·.any isFromRight)
  if labels.all fun label => isWellFormed label && (!directed || keepsDirection label) then
    some text
  else none

/-! ## Names in ASCII -/

theorem isAscii_toLower {c : Char} (h : isAscii c) : isAscii c.toLower := by
  have hall : ∀ n < 0x80, isAscii (Char.ofNat n).toLower = true := by decide
  rw [← Char.ofNat_toNat c]
  exact hall c.toNat (of_decide_eq_true h)

theorem domainMapping?_of_isAscii {c : Char} (h : isAscii c) :
    Unicode.domainMapping? c = some [c.toLower] := by
  rw [Unicode.domainMapping?, if_pos h]

theorem mapM_domainMapping?_of_isAscii {name : List Char} (ascii : ∀ c ∈ name, isAscii c) :
    name.mapM Unicode.domainMapping? = some (name.map fun c => [c.toLower]) := by
  induction name with
  | nil => rfl
  | cons c rest ih =>
    rw [List.forall_mem_cons] at ascii
    rw [List.mapM_cons, domainMapping?_of_isAscii ascii.1, ih ascii.2]
    rfl

theorem composed_of_isAscii {cs : List Char} (ascii : ∀ c ∈ cs, isAscii c) :
    Unicode.composed cs = cs := by
  rw [Unicode.composed, if_pos (List.all_eq_true.mpr ascii)]

theorem mapM_decodeLabel_of_plain {labels : List (List Char)}
    (plain : ∀ label ∈ labels, codedMark.isPrefixOf label = false) :
    labels.mapM decodeLabel = some labels := by
  induction labels with
  | nil => rfl
  | cons label rest ih =>
    rw [List.forall_mem_cons] at plain
    have hlabel : decodeLabel label = some label := by
      rw [decodeLabel, plain.1]
      rfl
    rw [List.mapM_cons, hlabel, ih plain.2]
    rfl

/-- A name in ASCII without coded labels stands for itself in lower case: the tables do not bear on
it. -/
theorem standardText?_of_isAscii {name : List Char} (ascii : ∀ c ∈ name, isAscii c)
    (plain : ∀ label ∈ Text.splitChars '.' (name.map Char.toLower),
      codedMark.isPrefixOf label = false) :
    standardText? name = some (name.map Char.toLower) := by
  have hlower : ∀ c ∈ name.map Char.toLower, isAscii c :=
    List.forall_mem_map.mpr fun c hc => isAscii_toLower (ascii c hc)
  have hflat : (name.map fun c => [c.toLower]).flatten = name.map Char.toLower := by
    rw [← List.flatMap_def, List.map_eq_flatMap]
  have hlabels : ∀ label ∈ Text.splitChars '.' (name.map Char.toLower), ∀ c ∈ label, isAscii c :=
    fun label hlabel c hc => hlower c (Text.mem_of_mem_splitChars hlabel hc)
  -- nothing in ASCII is written from right to left
  have hdirected :
      (Text.splitChars '.' (name.map Char.toLower)).any (·.any isFromRight) = false := by
    simp only [List.any_eq_false]
    intro label hlabel hany
    obtain ⟨c, hc, hright⟩ := List.any_eq_true.mp hany
    rw [isFromRight, hlabels label hlabel c hc] at hright
    cases hright
  have hformed : ∀ label ∈ Text.splitChars '.' (name.map Char.toLower), isWellFormed label := by
    intro label hlabel
    rw [isWellFormed, List.all_eq_true.mpr (hlabels label hlabel), Bool.true_or]
  unfold standardText?
  simp only [mapM_domainMapping?_of_isAscii ascii, Option.bind_eq_bind, Option.bind_some, hflat,
    composed_of_isAscii hlower, mapM_decodeLabel_of_plain plain, hdirected, Bool.not_false,
    Bool.true_or, Bool.and_true]
  exact if_pos (List.all_eq_true.mpr hformed)

end ReplyStage.DomainName
