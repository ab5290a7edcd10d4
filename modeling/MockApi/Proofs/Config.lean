/-
What is known of a configuration. However a project's configuration is loaded,
it is what some JSON text holds: that of its file, or that of the default
document where there is none or where the file is flawed. So every integer in
it has a text.
-/
import MockApi.Config
import MockApi.Proofs.Json.Reading

namespace MockApi.Config

/-- The configuration is what some JSON text holds. -/
def IsRead [JsonReader] (config : Config) : Prop :=
  ∃ text document, Json.parseText text = .ok document ∧ ofJson document = .ok config

variable {config : Config} {disk disk' : Disk} {log : Log} {project : Project}

-- ================================================================ loading

/-- The configuration of a project without a file is what the empty object holds. -/
theorem isRead_default [JsonReader] : IsRead {} := by
  have hread : Json.parse "\x7b\x7d" = .ok (.obj []) :=
    Json.Parser.parse_of_reads (Json.Parser.reads_emptyObject JsonReader.positive rfl) rfl
  exact ⟨"\x7b\x7d", .obj [], hread, rfl⟩

/-- A configuration that is read strictly is what its file holds. -/
theorem isRead_of_read [JsonReader] {path : FilePath} (h : read disk path = .ok config) :
    config.IsRead := by
  unfold read at h
  split at h
  · next document hdocument =>
    rw [mapError_eq_ok] at h
    unfold Document.read at hdocument
    obtain ⟨text, -, hdocument⟩ := bind_eq_ok.1 hdocument
    split at hdocument
    · next v hv =>
      obtain rfl := Except.ok.inj hdocument
      exact ⟨text, _, hv, h⟩
    · cases hdocument
    · cases hdocument
    · cases hdocument
  · cases h
  · cases h
  · cases h

/-- A configuration that is loaded is what some text holds. -/
theorem isRead_of_load [JsonReader] (h : load disk project = .ok (config, log, disk')) :
    config.IsRead := by
  unfold load at h
  simp only at h
  split at h
  · cases h
  · split at h
    · next loaded hread =>
      obtain rfl := (Prod.mk.inj (Except.ok.inj h)).1
      exact isRead_of_read hread
    · obtain rfl := (Prod.mk.inj (Except.ok.inj h)).1
      exact isRead_default
    · cases h
  · split at h
    · obtain rfl := (Prod.mk.inj (Except.ok.inj h)).1
      exact isRead_default
    · split at h
      · cases h
      · obtain rfl := (Prod.mk.inj (Except.ok.inj h)).1
        exact isRead_default
    · cases h

-- =============================================================== integers

/-- The responses that a configuration gives by hand can be written. -/
theorem IsRead.isWritable [JsonReader] (h : config.IsRead) :
    (Json.obj config.templates).isWritable = true := by
  obtain ⟨text, document, hparse, hconfig⟩ := h
  have hdocument := Json.isWritable_of_parseText hparse
  unfold ofJson at hconfig
  split at hconfig
  · next fields =>
    rw [Json.isWritable_obj, List.all_eq_true] at hdocument
    -- what the document sets can be written, as the document can
    have hset : ∀ v, setField? "responseTemplates" fields = some v → v.isWritable = true := by
      intro v hv
      have hget := (Option.filter_eq_some_iff.1 hv).1
      exact hdocument _ (Fields.mem_of_get?_eq_some hget)
    -- templates that are absent or hold nothing leave the default, and
    -- any other value is refused
    split at hconfig
    · rw [← Except.ok.inj hconfig]
      rfl
    · rw [← Except.ok.inj hconfig]
      rfl
    · next htemplates =>
      rw [← Except.ok.inj hconfig]
      exact hset _ htemplates
    · next htemplates =>
      rw [← Except.ok.inj hconfig]
      exact hset _ htemplates
    · cases hconfig
    · cases hconfig
    · cases hconfig
  · cases hconfig

end MockApi.Config
