import ReplyStage.Proofs.Settings.Checks
import ReplyStage.Proofs.Text.Items
/-!
# The list of servers

Servers are given as texts, each of which may hold several addresses with commas between them and
blanks around them. All that use the addresses go by one list (`serverUrls`), and that list is shown
as one text (`serverText`). `serverUrls_normal` says how the list comes from the texts and that
neither form of it loses anything.
-/

namespace ReplyStage.ConnectionSettings

variable {c d : ConnectionSettings}

theorem isItem_of_mem_serverUrls {url : String} (h : url ∈ c.serverUrls) : Text.IsItem ',' url := by
  obtain ⟨text, -, hitem⟩ := List.mem_flatMap.mp h
  exact Text.isItem_of_mem_items hitem

/-- Which texts hold the commas does not matter. -/
theorem serverUrls_eq_items (c : ConnectionSettings) :
    c.serverUrls = Text.items ',' (Text.join ',' c.urls) :=
  (Text.items_join_flatMap ',' c.urls).symm

/-- The text of the servers tells which they are. -/
theorem items_serverText (c : ConnectionSettings) : Text.items ',' c.serverText = c.serverUrls :=
  Text.items_join fun _ => isItem_of_mem_serverUrls

theorem serverText_inj : c.serverText = d.serverText ↔ c.serverUrls = d.serverUrls := by
  constructor
  · intro h
    rw [← items_serverText c, h, items_serverText]
  · exact congrArg (Text.join ',')

/-- Servers that are in their final form stay as they are. -/
theorem serverUrls_of_normal (h : d.urls = [c.serverText] ∨ d.urls = c.serverUrls) :
    d.serverUrls = c.serverUrls := by
  rcases h with h | h
  · rw [serverUrls, h, List.flatMap_singleton, items_serverText]
  · rw [serverUrls, h, Text.flatMap_items_of_isItem fun _ => isItem_of_mem_serverUrls]

theorem validate_eq_error_urls_iff {details : String} :
    c.validate = .error (.invalid "urls" details) ↔
      c.serverUrls = [] ∧ details = "at least one URL is required" := by
  unfold validate
  by_cases hurls : c.serverUrls = []
  · simp [hurls, eq_comm]
  · simp only [hurls, if_false, false_and, iff_false]
    split
    · simp
    · split
      · simp
      · split <;> simp

/-- The list of servers is a normal form of the texts that they are given as. -/
theorem serverUrls_normal (c : ConnectionSettings) :
    -- It is what stands between the commas, without the blanks around it and without what is blank,
    (∃ fields, (∀ field ∈ fields, ',' ∉ field.toList) ∧
      Text.join ',' fields = Text.join ',' c.urls ∧
      c.serverUrls = (fields.map Text.trim).filter (· ≠ "")) ∧
    (∀ url ∈ c.serverUrls, Text.IsItem ',' url) ∧
    -- and stays the same when it is given again, as one text or one by one.
    (∀ d : ConnectionSettings, d.urls = [c.serverText] ∨ d.urls = c.serverUrls →
      d.serverUrls = c.serverUrls ∧ d.serverText = c.serverText) ∧
    -- Texts that are equal with commas between them give the same list,
    (∀ d : ConnectionSettings, Text.join ',' d.urls = Text.join ',' c.urls →
      d.serverUrls = c.serverUrls) ∧
    -- more texts give more servers behind,
    (∀ more, ConnectionSettings.serverUrls { c with urls := c.urls ++ more } =
      c.serverUrls ++ ConnectionSettings.serverUrls { c with urls := more }) ∧
    -- and texts are only refused where there is no server among them.
    ∀ details, c.validate = .error (.invalid "urls" details) ↔
      c.serverUrls = [] ∧ details = "at least one URL is required" := by
  refine ⟨?_, fun _ => isItem_of_mem_serverUrls, fun d hd => ?_, fun d hd => ?_, fun more => ?_,
    fun details => validate_eq_error_urls_iff⟩
  · obtain ⟨hfields, hjoin⟩ := Text.join_split ',' (Text.join ',' c.urls)
    exact ⟨_, hfields, hjoin, serverUrls_eq_items c⟩
  · have hurls := serverUrls_of_normal hd
    exact ⟨hurls, serverText_inj.mpr hurls⟩
  · rw [serverUrls_eq_items d, hd, ← serverUrls_eq_items]
  · exact List.flatMap_append

/-- For instance, servers in several texts, with white space and commas to spare. -/
def scattered : ConnectionSettings where
  urls := [" north , ,south", "", "\u3000west,"]

theorem serverUrls_normal_scattered :
    scattered.serverUrls = ["north", "south", "west"] ∧
      ConnectionSettings.serverUrls { urls := ["north,south,west"] } = scattered.serverUrls ∧
      ConnectionSettings.serverUrls { urls := [" north ", " ", "south,,\u3000west", ""] } =
        scattered.serverUrls := by
  have hservers : scattered.serverUrls = ["north", "south", "west"] := by decide +kernel
  obtain ⟨-, -, hagain, hjoined, -⟩ := serverUrls_normal scattered
  refine ⟨hservers, (hagain _ (.inl ?_)).1, hjoined _ (by decide +kernel)⟩
  rw [serverText, hservers]
  decide +kernel

end ReplyStage.ConnectionSettings
