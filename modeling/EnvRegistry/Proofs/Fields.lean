import EnvRegistry.Config.Codec
import EnvRegistry.Proofs.Json.Layout
import EnvRegistry.Relations.Codec

/-! # Decoding records by their fields

    Environments, tags, edge groups, updates, outcomes, requests, configurations
    and their warnings are all read by `Layout.decoder`.  So none of them depends
    on anything but its named fields: the order of the members, members with
    other names, the spelling of the text and fields that hold their default
    make no difference, and the values of the first fields may be listed without
    their names.

    The sections of a configuration are records too, and the same changes are
    harmless inside them. -/

namespace EnvRegistry

open Json (Layout Origin DependsOnNames)

/-! ## Section 1: Environments, tags and edge groups -/

namespace Environment

/-- The fields of an environment. -/
def layout : Layout Environment where
  recordName := "Environment"
  fields := [⟨idField⟩, ⟨nameField⟩, ⟨groupField⟩, ⟨tagsField⟩]
  make := Environment.mk

theorem layout_proper : layout.Proper where
  distinct := by decide
  strict := by
    simp only [layout, List.forall_mem_cons]
    exact ⟨Json.strict_word, Json.strict_text, Json.strict_word, Json.strict_word.listOf,
      List.forall_mem_nil _⟩

theorem decoder_eq (o : Origin) : decoder o = layout.decoder o := rfl

end Environment

namespace Tag

/-- The fields of a tag. -/
def layout : Layout Tag where
  recordName := "Tag"
  fields := [⟨idField⟩, ⟨nameField⟩, ⟨membersField⟩]
  make := Tag.mk

theorem layout_proper : layout.Proper where
  distinct := by decide
  strict := by
    simp only [layout, List.forall_mem_cons]
    exact ⟨Json.strict_word, Json.strict_text, Json.strict_word.setOf, List.forall_mem_nil _⟩

theorem decoder_eq (o : Origin) : decoder o = layout.decoder o := rfl

end Tag

namespace EdgeGroup

/-- The fields of an edge group. -/
def layout : Layout EdgeGroup where
  recordName := "EdgeGroup"
  fields := [⟨idField⟩, ⟨nameField⟩, ⟨membersField⟩]
  make := EdgeGroup.mk

theorem layout_proper : layout.Proper where
  distinct := by decide
  strict := by
    simp only [layout, List.forall_mem_cons]
    exact ⟨Json.strict_word, Json.strict_text, Json.strict_word.listOf, List.forall_mem_nil _⟩

theorem decoder_eq (o : Origin) : decoder o = layout.decoder o := rfl

end EdgeGroup

/-! ## Section 2: Updates, outcomes and requests -/

namespace Relations

namespace Update

/-- The fields of an update. -/
def layout : Layout Update where
  recordName := "RelationsUpdate"
  fields := [⟨groupField⟩, ⟨tagsField⟩, ⟨edgeGroupsField⟩]
  make := Update.mk

theorem layout_proper : layout.Proper where
  distinct := by decide
  strict := by
    simp only [layout, List.forall_mem_cons]
    exact ⟨Json.strict_word.optional, Json.strict_word.listOf.optional,
      Json.strict_word.listOf.optional, List.forall_mem_nil _⟩

theorem decoder_eq (o : Origin) : decoder o = layout.decoder o := rfl

end Update

namespace Outcome

/-- The fields of an outcome. -/
def layout : Layout Outcome where
  recordName := "UpdateOutcome"
  fields := fieldNames.map fun name => ⟨flagField name⟩
  make := Outcome.mk

theorem layout_proper : layout.Proper where
  distinct := by decide
  strict := by
    intro f hf
    obtain ⟨name, -, rfl⟩ := List.mem_map.mp hf
    exact Json.strict_flag

theorem decoder_eq (o : Origin) : decoder o = layout.decoder o := rfl

end Outcome

namespace Request

/-- The fields of a request. -/
def layout : Layout Request where
  recordName := "AssignRequest"
  fields := [⟨tagsField⟩, ⟨edgeGroupsField⟩, ⟨createTagsField⟩, ⟨createEdgeGroupsField⟩,
    ⟨groupField⟩, ⟨overrideField "overrideTags"⟩, ⟨overrideField "overrideEdgeGroups"⟩,
    ⟨overrideField "overrideGroup"⟩]
  make := Request.mk

theorem layout_proper : layout.Proper where
  distinct := by decide
  strict := by
    simp only [layout, List.forall_mem_cons]
    exact ⟨Json.strict_word.listOf, Json.strict_word.listOf, Json.strict_text.listOf,
      Json.strict_text.listOf, Json.strict_word.optional, Json.strict_flag, Json.strict_flag,
      Json.strict_flag, List.forall_mem_nil _⟩

theorem decoder_eq (o : Origin) : decoder o = layout.decoder o := rfl

end Request

end Relations

/-! ## Section 3: Configurations -/

namespace Config

/-- The field of the database section. -/
def databaseLayout : Layout String where
  recordName := "DatabaseConfig"
  fields := [⟨pathField⟩]
  make path := path

theorem databaseLayout_proper : databaseLayout.Proper where
  distinct := by decide
  strict := List.forall_mem_singleton.mpr Json.strict_path

theorem databaseSection_eq (o : Origin) : databaseSection o = databaseLayout.decoder o := by
  funext j
  exact congrArg (_ >>= ·) (funext fun s => (Json.build_single pathField s).symm)

/-- The field of the refresh section. -/
def refreshLayout : Layout (Option String) where
  recordName := "RefreshConfig"
  fields := [⟨commandField⟩]
  make command := command

theorem refreshLayout_proper : refreshLayout.Proper where
  distinct := by decide
  strict := List.forall_mem_singleton.mpr Json.strict_text.optional

theorem refreshSection_eq (o : Origin) : refreshSection o = refreshLayout.decoder o := by
  funext j
  exact congrArg (_ >>= ·) (funext fun s => (Json.build_single commandField s).symm)

/-- The fields of a configuration. -/
def layout (o : Origin) : Layout Config where
  recordName := "Config"
  fields := [⟨versionField⟩, ⟨databaseField o⟩, ⟨refreshField o⟩]
  make := Config.mk

theorem layout_proper (o : Origin) : (layout o).Proper where
  distinct := by
    show ["version", "database", "refresh"].Nodup
    decide
  strict := by
    have hdatabase := databaseLayout_proper.strict_decoder o
    have hrefresh := refreshLayout_proper.strict_decoder o
    rw [← databaseSection_eq] at hdatabase
    rw [← refreshSection_eq] at hrefresh
    simp only [layout, List.forall_mem_cons]
    exact ⟨Json.strict_word, hdatabase, hrefresh, List.forall_mem_nil _⟩

theorem decoder_eq (o : Origin) : decoder o = (layout o).decoder o := rfl

end Config

namespace ConfigWarning

/-- The fields of a warning. -/
def layout : Layout ConfigWarning where
  recordName := "ConfigWarning"
  fields := [⟨levelField⟩, ⟨messageField⟩]
  make := ConfigWarning.mk

theorem layout_proper : layout.Proper where
  distinct := by decide
  strict := by
    simp only [layout, List.forall_mem_cons]
    exact ⟨Json.strict_variant _, Json.strict_text, List.forall_mem_nil _⟩

theorem decoder_eq (o : Origin) : decoder o = layout.decoder o := rfl

end ConfigWarning

/-! ## Section 4: All of them -/

/-- Every record depends on its named fields alone, and so does every section of a configuration:
what is harmless inside a section is a `Change.value` of the configuration. -/
theorem decoders_dependOnNames :
    DependsOnNames Environment.layout.fields (Environment.decoder .text) ∧
    DependsOnNames EdgeGroup.layout.fields (EdgeGroup.decoder .text) ∧
    DependsOnNames Tag.layout.fields (Tag.decoder .text) ∧
    DependsOnNames Relations.Update.layout.fields (Relations.Update.decoder .text) ∧
    DependsOnNames Relations.Request.layout.fields (Relations.Request.decoder .text) ∧
    DependsOnNames Relations.Outcome.layout.fields (Relations.Outcome.decoder .text) ∧
    DependsOnNames (Config.layout .text).fields (Config.decoder .text) ∧
    DependsOnNames Config.databaseLayout.fields (Config.databaseSection .text) ∧
    DependsOnNames Config.refreshLayout.fields (Config.refreshSection .text) ∧
    DependsOnNames ConfigWarning.layout.fields (ConfigWarning.decoder .text) := by
  rw [Environment.decoder_eq, EdgeGroup.decoder_eq, Tag.decoder_eq, Relations.Update.decoder_eq,
    Relations.Request.decoder_eq, Relations.Outcome.decoder_eq, Config.decoder_eq,
    Config.databaseSection_eq, Config.refreshSection_eq, ConfigWarning.decoder_eq]
  exact ⟨Environment.layout_proper.dependsOnNames _, EdgeGroup.layout_proper.dependsOnNames _,
    Tag.layout_proper.dependsOnNames _, Relations.Update.layout_proper.dependsOnNames _,
    Relations.Request.layout_proper.dependsOnNames _,
    Relations.Outcome.layout_proper.dependsOnNames _, (Config.layout_proper _).dependsOnNames _,
    Config.databaseLayout_proper.dependsOnNames _, Config.refreshLayout_proper.dependsOnNames _,
    ConfigWarning.layout_proper.dependsOnNames _⟩

/-- The same environment from a list and from an object with more in it. -/
example : Json.decodeText (Environment.decoder .text) "[1, \"a\", 2]" =
    Json.decodeText (Environment.decoder .text)
      "\x7b\"x\": [[]], \"group_id\": 2, \"name\": \"\\u0061\", \"id\": 1\x7d" := by
  decide +kernel

end EnvRegistry
