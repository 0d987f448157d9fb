import Mathlib
import Ripple.Proofs.Config.Layers
import Ripple.Proofs.Project.Discovery
import Ripple.Toml.Document

/-! Which settings files keep a project from being loaded.

A settings file may be missing, hold something other than text, or be no settings file at all
(`Workspace.settingsContent`), whatever reads its text. A file that cannot be read as settings counts as none, and
so does a document without a table for this program, whatever stands in its place: each of them sets what an empty
table would (`SettingsContent.Sets`, `Workspace.settings_eq_ok_iff`). What is not looked into is the place of the
tables of all tools: a document in which that is something else cannot be loaded
(`Toml.Table.section_of_lacksTools`), and no other document fails (`Config.load_fails_only_without_tools`). -/
namespace Ripple

/-! ### What a document holds -/

namespace Toml.Table
variable {document settings : Table} {file : Path}

/-- The document keeps this table for this program. -/
def HoldsSettings (document settings : Table) : Prop :=
  ∃ tools, document.lookup "tool" = some (.table tools) ∧ tools.lookup "testdiff" = some (.table settings)

/-- Where the document should keep the tables of its tools stands something else. -/
def LacksTools (document : Table) : Prop :=
  ∃ v, document.lookup "tool" = some v ∧ ∀ tools, v ≠ .table tools

theorem section_of_holds (h : document.HoldsSettings settings) : document.section file = .ok (settings, []) := by
  obtain ⟨tools, htools, hsettings⟩ := h
  simp only [Table.section, htools, hsettings, Option.getD_some]

theorem section_of_lacksTools (h : document.LacksTools) : document.section file = .error .noTable := by
  obtain ⟨v, hv, hother⟩ := h
  rw [Table.section, hv, Option.getD_some]
  split
  · next tools => exact absurd rfl (hother tools)
  · rfl

/-- A document that keeps no table for this program sets nothing. -/
theorem section_of_not_holds (h : ¬document.LacksTools) (hnone : ∀ settings, ¬document.HoldsSettings settings) :
    ∃ told, document.section file = .ok ([], told) := by
  unfold Table.section
  cases htool : document.lookup "tool" with
  | none => exact ⟨[], rfl⟩
  | some v =>
    cases v with
    | table tools =>
      cases hown : tools.lookup "testdiff" with
      | none => exact ⟨[], by simp [hown]⟩
      | some own =>
        cases own with
        | table settings => exact absurd ⟨tools, htool, hown⟩ (hnone settings)
        | _ => exact ⟨[.notTable file], by simp [hown]⟩
    | _ => exact absurd ⟨_, htool, by simp⟩ h

end Toml.Table

/-! ### What a file holds -/

/-- What stands in the settings file of a project. -/
inductive SettingsContent where
  | absent
  /-- Bytes that are no text in UTF-8. -/
  | noText
  /-- A text that is no settings file. -/
  | broken
  | document (t : Toml.Table)

/-- The table that is set by what stands in a settings file: the one that a document keeps for this program, and an
empty one where nothing is kept. -/
inductive SettingsContent.Sets : SettingsContent → Toml.Table → Prop
  | absent : Sets .absent []
  | broken : Sets .broken []
  | held {document settings : Toml.Table} (h : document.HoldsSettings settings) : Sets (.document document) settings
  | notHeld {document : Toml.Table} (h : ¬document.LacksTools) (hnone : ∀ settings, ¬document.HoldsSettings settings) :
    Sets (.document document) []

theorem SettingsContent.section_eq_ok_iff {document settings : Toml.Table} {file : Path} :
    (∃ told, document.section file = .ok (settings, told)) ↔ Sets (.document document) settings := by
  constructor
  · rintro ⟨told, h⟩
    by_cases hholds : ∃ held, document.HoldsSettings held
    · obtain ⟨held, hheld⟩ := hholds
      rw [Toml.Table.section_of_holds hheld] at h
      cases h
      exact .held hheld
    · have hnone := not_exists.mp hholds
      by_cases htools : document.LacksTools
      · rw [Toml.Table.section_of_lacksTools htools] at h
        cases h
      · obtain ⟨told', hempty⟩ : ∃ told', document.section file = .ok ([], told') :=
          Toml.Table.section_of_not_holds htools hnone
        rw [hempty] at h
        cases h
        exact .notHeld htools hnone
  · rintro (_ | _ | hheld | ⟨htools, hnone⟩)
    · exact ⟨[], Toml.Table.section_of_holds hheld⟩
    · exact Toml.Table.section_of_not_holds htools hnone

namespace Workspace
variable (w : Workspace) (decode : Toml.Decoder) (root : Path)

def settingsContent : SettingsContent :=
  match w.read (root.child settingsFile) with
  | .error _ => .absent
  | .ok bytes => match Text.Utf8.decode? bytes with
    | none => .noText
    | some cs => match decode (Text.unixBreaks cs) with
      | none => .broken
      | some document => .document document

theorem settings_eq : w.settings decode root = match w.settingsContent decode root with
    | .absent => .ok ([], [])
    | .noText => .error (.notText (root.child settingsFile))
    | .broken => .ok ([], [.unreadable (root.child settingsFile)])
    | .document document => document.section (root.child settingsFile) := by
  simp only [settings, settingsContent]
  cases w.read (root.child settingsFile) with
  | error e => rfl
  | ok bytes =>
    cases hcs : Text.Utf8.decode? bytes with
    | none => simp only [hcs]
    | some cs => cases hdocument : decode (Text.unixBreaks cs) <;> simp only [hcs, hdocument]

/-- **What is read of a project is what its settings file sets.** -/
theorem settings_eq_ok_iff {settings : Toml.Table} :
    (∃ told, w.settings decode root = .ok (settings, told)) ↔ (w.settingsContent decode root).Sets settings := by
  rw [settings_eq]
  cases w.settingsContent decode root with
  | absent =>
    constructor
    · rintro ⟨told, h⟩
      cases h
      exact .absent
    · rintro ⟨⟩
      exact ⟨[], rfl⟩
  | noText =>
    constructor
    · rintro ⟨told, h⟩
      cases h
    · exact fun h => nomatch h
  | broken =>
    constructor
    · rintro ⟨told, h⟩
      cases h
      exact .broken
    · rintro ⟨⟩
      exact ⟨_, rfl⟩
  | document document => exact SettingsContent.section_eq_ok_iff

end Workspace

namespace Config
variable (decode : Toml.Decoder) (w : Workspace) (root : Path) (base : Config) {document settings : Toml.Table}

theorem load_of_document (h : w.settingsContent decode root = .document document) :
    load decode w root base = (document.section (root.child settingsFile)).map fun found =>
      ((base.ofTable found.1).1, found.2 ++ (base.ofTable found.1).2) := by
  rw [load_eq, w.settings_eq decode, h]

theorem load_of_lacksTools (h : w.settingsContent decode root = .document document) (htools : document.LacksTools) :
    load decode w root base = .error .noTable := by
  rw [load_of_document decode w root base h, Toml.Table.section_of_lacksTools htools]
  rfl

theorem load_of_holds (h : w.settingsContent decode root = .document document)
    (hsettings : document.HoldsSettings settings) : load decode w root base = .ok (base.ofTable settings) := by
  rw [load_of_document decode w root base h, Toml.Table.section_of_holds hsettings]
  rfl

theorem load_of_not_holds (h : w.settingsContent decode root = .document document) (htools : ¬document.LacksTools)
    (hnone : ∀ settings, ¬document.HoldsSettings settings) : ∃ told, load decode w root base = .ok (base, told) := by
  obtain ⟨told, htold⟩ : ∃ told, document.section (root.child settingsFile) = .ok ([], told) :=
    Toml.Table.section_of_not_holds htools hnone
  refine ⟨told, ?_⟩
  rw [load_of_document decode w root base h, htold]
  show Except.ok ((base.ofTable []).1, told ++ (base.ofTable []).2) = _
  rw [base.ofTable_nil, base.ofTable_nil_told, List.append_nil]

theorem load_of_broken (h : w.settingsContent decode root = .broken) :
    load decode w root base = .ok (base, [.unreadable (root.child settingsFile)]) := by
  rw [load_eq, w.settings_eq decode, h]
  show Except.ok ((base.ofTable []).1, [_] ++ (base.ofTable []).2) = _
  rw [base.ofTable_nil, base.ofTable_nil_told, List.append_nil]

/-- **A document fails to load exactly if something other than a table stands under `tool`.** Any other document
gives settings that are valid if those without a project are: with the table that it keeps for this program they
are those of that table, and without one they are what holds without a project, whatever stands in its place. A
text that is no settings file changes nothing either, but for a warning. -/
theorem load_fails_only_without_tools :
    (∀ document, w.settingsContent decode root = .document document →
      (load decode w root base = .error .noTable ↔ document.LacksTools) ∧
      (¬document.LacksTools → ∃ c told, load decode w root base = .ok (c, told) ∧ (base.Valid → c.Valid) ∧
        (∀ settings, document.HoldsSettings settings → c = (base.ofTable settings).1) ∧
        ((∀ settings, ¬document.HoldsSettings settings) → c = base))) ∧
    (w.settingsContent decode root = .broken →
      load decode w root base = .ok (base, [.unreadable (root.child settingsFile)])) := by
  refine ⟨fun document hcontent => ?_, load_of_broken decode w root base⟩
  have hloaded (htools : ¬document.LacksTools) : ∃ c told, load decode w root base = .ok (c, told) := by
    by_cases hholds : ∃ settings, document.HoldsSettings settings
    · obtain ⟨settings, hsettings⟩ := hholds
      exact ⟨_, _, load_of_holds decode w root base hcontent hsettings⟩
    · exact ⟨base, load_of_not_holds decode w root base hcontent htools (not_exists.mp hholds)⟩
  constructor
  · constructor
    · intro hfails
      refine Classical.byContradiction fun htools => ?_
      obtain ⟨c, told, hload⟩ := hloaded htools
      rw [hload] at hfails
      cases hfails
    · exact load_of_lacksTools decode w root base hcontent
  · intro htools
    obtain ⟨c, told, hload⟩ := hloaded htools
    refine ⟨c, told, hload, fun hvalid => hvalid.load hload, fun settings hsettings => ?_, fun hnone => ?_⟩
    · have hsame := hload.symm.trans (load_of_holds decode w root base hcontent hsettings)
      exact congrArg Prod.fst (Except.ok.inj hsame)
    · obtain ⟨told', hbase⟩ := load_of_not_holds decode w root base hcontent htools hnone
      exact congrArg Prod.fst (Except.ok.inj (hload.symm.trans hbase))

end Config

/-! ### Small settings files -/

/-- What a project of a settings file alone sets is what stands in the file. -/
theorem Workspace.settingsContent_ofProject {bytes : List UInt8} {text : List Char}
    (h : Text.Utf8.decode? bytes = some text) (decode : Toml.Decoder) :
    (ofProject [("pyproject.toml", .file bytes)]).settingsContent decode ⟨.root, ["project"]⟩ =
      match decode (Text.unixBreaks text) with
      | none => .broken
      | some document => .document document := by
  have hread : (ofProject [("pyproject.toml", .file bytes)]).read (Path.child ⟨.root, ["project"]⟩ settingsFile) =
      .ok bytes := by cbv
  simp only [settingsContent, hread, h]

namespace Config

/-- A project that keeps a number where its table should be, one that keeps a table, and one whose file is
broken. -/
theorem load_of_number_table_and_broken_file :
    let decode : Toml.Decoder := Toml.Document.parse?
    let root : Path := ⟨.root, ["project"]⟩
    let numbered := Workspace.ofProject [("pyproject.toml", .file "[tool]\ntestdiff = 1\n".toUTF8.toList)]
    let tabled := Workspace.ofProject [("pyproject.toml", .file "[tool.testdiff]\nmax = 3\n".toUTF8.toList)]
    let broken := Workspace.ofProject [("pyproject.toml", .file "[tool.testdiff\n".toUTF8.toList)]
    (∃ c told, load decode numbered root (default 1) = .ok (c, told) ∧ c.Valid ∧ c = default 1) ∧
    (∃ c told, load decode tabled root (default 1) = .ok (c, told) ∧ c.Valid ∧ c.maxCount = some 3) ∧
    load decode broken root (default 1) = .ok (default 1, [.unreadable (root.child settingsFile)]) := by
  intro decode root numbered tabled broken
  have hvalid : (default 1).Valid := valid_default (Int.le_refl 1)
  refine ⟨?_, ?_, ?_⟩
  · have hcontent : numbered.settingsContent decode root = .document [("tool", .table [("testdiff", .integer 1)])] := by
      rw [Workspace.settingsContent_ofProject (show _ = some "[tool]\ntestdiff = 1\n".toList by cbv)]
      rfl
    obtain ⟨_, hloads⟩ := (load_fails_only_without_tools decode numbered root (default 1)).1 _ hcontent
    obtain ⟨c, told, hload, hkept, _, hbase⟩ := hloads (by simp [Toml.Table.LacksTools])
    exact ⟨c, told, hload, hkept hvalid, hbase (by simp [Toml.Table.HoldsSettings])⟩
  · have hcontent : tabled.settingsContent decode root =
        .document [("tool", .table [("testdiff", .table [("max", .integer 3)])])] := by
      rw [Workspace.settingsContent_ofProject (show _ = some "[tool.testdiff]\nmax = 3\n".toList by cbv)]
      rfl
    obtain ⟨_, hloads⟩ := (load_fails_only_without_tools decode tabled root (default 1)).1 _ hcontent
    obtain ⟨c, told, hload, hkept, hset, _⟩ := hloads (by simp [Toml.Table.LacksTools])
    have hc : c = ((default 1).ofTable [("max", .integer 3)]).1 := hset _ ⟨_, rfl, rfl⟩
    exact ⟨c, told, hload, hkept hvalid, hc ▸ rfl⟩
  · refine (load_fails_only_without_tools decode broken root (default 1)).2 ?_
    rw [Workspace.settingsContent_ofProject (show _ = some "[tool.testdiff\n".toList by cbv)]
    rfl

/-- A document that keeps a number where the tables of its tools should be cannot be loaded. -/
theorem number_for_tools_ends_loading :
    let decode : Toml.Decoder := Toml.Document.parse?
    let root : Path := ⟨.root, ["project"]⟩
    let w := Workspace.ofProject [("pyproject.toml", .file "tool = 1\n".toUTF8.toList)]
    w.settingsContent decode root = .document [("tool", .integer 1)] ∧
    ∀ base, ¬∃ c told, load decode w root base = .ok (c, told) := by
  intro decode root w
  have hcontent : w.settingsContent decode root = .document [("tool", .integer 1)] := by
    rw [Workspace.settingsContent_ofProject (show _ = some "tool = 1\n".toList by cbv)]
    rfl
  refine ⟨hcontent, fun base => ?_⟩
  rw [load_of_lacksTools decode w root base hcontent ⟨_, rfl, by simp⟩]
  simp

end Config

end Ripple
