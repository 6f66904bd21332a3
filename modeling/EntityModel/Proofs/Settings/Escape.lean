import EntityModel.Proofs.Outcome
import EntityModel.Settings.Loading

/-!
# Faults that escape

Loading settings is meant to end with settings or with a fault of the configuration. Some files make it break off otherwise.
Which ones these are is told by the stages that the content of a file goes through: it is decoded, read as JSON or else
as YAML, and taken for a mapping from names (`Breaks`). Neither the environment nor the check of the settings
adds anything to them.
-/

namespace EntityModel

/-- The fault is one of the configuration. -/
def SettingsFault.IsForeseen (fault : SettingsFault) : Prop := ∃ f, fault = .configuration f

namespace Settings

/-! ## Keys -/

section Keys

variable {e : Value × Value} {env : Environment} {entries : List (Value × Value)}

theorem isTextKey_of_mem_ofFields {fields : List (String × Json)} (he : e ∈ Value.ofFields fields) :
    isTextKey e = true := by
  induction fields with
  | nil => cases he
  | cons field fields ih =>
      rw [Value.ofFields] at he
      rcases List.mem_cons.1 he with rfl | he
      · rfl
      · exact ih he

/-- A mapping that is read as JSON has no keys but texts. -/
theorem isTextKey_of_ofJson {j : Json} (h : Value.ofJson j = .mapping entries) (he : e ∈ entries) :
    isTextKey e = true := by
  cases j with
  | object fields =>
      rw [Value.ofJson] at h
      obtain rfl := Value.mapping.inj h
      exact isTextKey_of_mem_ofFields he
  | null => simp [Value.ofJson] at h
  | bool b => simp [Value.ofJson] at h
  | int n => simp [Value.ofJson] at h
  | float x => simp [Value.ofJson] at h
  | text s => simp [Value.ofJson] at h
  | list items => simp [Value.ofJson] at h

end Keys

/-! ## Texts -/

section Texts

variable {name : String} {text : List Char} {fault : SettingsFault}

/-- The text is no JSON, so it is read as YAML. -/
def IsYaml (text : List Char) : Prop := ∃ position, Json.read (.ofList text) = .error (.malformed position)

/-- A text that makes the loading break off, with the fault that this is reported as. -/
inductive Escapes (text : List Char) : SettingsFault → Prop where
  | integer {digits : Nat} (h : Json.read (.ofList text) = .error (.integerTooLong digits)) :
      Escapes text (.integerTooLong digits)
  | depth (h : Json.read (.ofList text) = .error .tooDeep) : Escapes text .tooDeep
  | yamlDepth (hyaml : IsYaml text) (h : Yaml.read text = .error .tooDeep) : Escapes text .tooDeep
  | content {f : Yaml.Fault} (hyaml : IsYaml text) (h : Yaml.read text = .error f) (hform : f ≠ .malformed)
      (hdepth : f ≠ .tooDeep) : Escapes text (.content f)
  | key {entries : List (Value × Value)} {e : Value × Value} (hyaml : IsYaml text)
      (h : Yaml.read text = .ok (some (.mapping entries))) (he : e ∈ entries) (hkey : isTextKey e = false) :
      Escapes text .keyNotText

theorem valueOf_of_isYaml (h : IsYaml text) : valueOf name text =
    match Yaml.read text with
    | .ok v => .ok v
    | .error .malformed => .error (.configuration (.settingsUnparsable name))
    | .error .tooDeep => .error .tooDeep
    | .error f => .error (.content f) := by
  obtain ⟨position, hjson⟩ := h
  cases hyaml : Yaml.read text with
  | ok v => rw [valueOf, hjson, hyaml]
  | error f => cases f <;> rw [valueOf, hjson, hyaml]

theorem valueOf_of_content {f : Yaml.Fault} (hyaml : IsYaml text) (h : Yaml.read text = .error f)
    (hform : f ≠ .malformed) (hdepth : f ≠ .tooDeep) : valueOf name text = .error (.content f) := by
  rw [valueOf_of_isYaml hyaml, h]
  split
  · next hf => cases hf
  · next hf => exact absurd (Except.error.inj hf) hform
  · next hf => exact absurd (Except.error.inj hf) hdepth
  · next hf => rw [Except.error.inj hf]

/-- A text has no value for an unforeseen fault, or its value is a mapping with a key that is no text. -/
theorem escapes_iff (name : String) (hfault : ¬ fault.IsForeseen) : Escapes text fault ↔
    valueOf name text = .error fault ∨ fault = .keyNotText ∧
      ∃ entries, valueOf name text = .ok (some (.mapping entries)) ∧ entries.all isTextKey = false := by
  constructor
  · intro h
    cases h with
    | integer h => exact .inl (by rw [valueOf, h])
    | depth h => exact .inl (by rw [valueOf, h])
    | yamlDepth hyaml h => exact .inl (by rw [valueOf_of_isYaml hyaml, h])
    | content hyaml h hform hdepth => exact .inl (valueOf_of_content hyaml h hform hdepth)
    | @key entries e hyaml h he hkey =>
        refine .inr ⟨rfl, entries, by rw [valueOf_of_isYaml hyaml, h], ?_⟩
        exact List.all_eq_false.2 ⟨e, he, by simp [hkey]⟩
  · intro h
    cases hjson : Json.read (.ofList text) with
    | ok j =>
        have hvalue : valueOf name text = .ok (some (Value.ofJson j)) := by rw [valueOf, hjson]
        simp only [hvalue] at h
        obtain ⟨hf, -⟩ | ⟨-, entries, hentries, hkeys⟩ := h
        obtain ⟨e, he, hkey⟩ := List.all_eq_false.1 hkeys
        exact absurd (isTextKey_of_ofJson (Option.some.inj (Except.ok.inj hentries)) he) hkey
    | error f =>
        cases f with
        | integerTooLong digits =>
            rw [valueOf, hjson] at h
            obtain rfl : SettingsFault.integerTooLong digits = fault := by simpa using h
            exact .integer hjson
        | tooDeep =>
            rw [valueOf, hjson] at h
            obtain rfl : SettingsFault.tooDeep = fault := by simpa using h
            exact .depth hjson
        | malformed position =>
            have hisYaml : IsYaml text := ⟨position, hjson⟩
            cases hyaml : Yaml.read text with
            | ok v =>
                rw [valueOf_of_isYaml hisYaml, hyaml] at h
                obtain ⟨⟨⟩⟩ | ⟨rfl, entries, hentries, hkeys⟩ := h
                obtain ⟨e, he, hkey⟩ := List.all_eq_false.1 hkeys
                obtain rfl := Except.ok.inj hentries
                exact .key hisYaml hyaml he (by simpa using hkey)
            | error f =>
                by_cases hform : f = .malformed
                · rw [valueOf_of_isYaml hisYaml, hyaml, hform] at h
                  obtain hf | ⟨-, entries, ⟨⟩, -⟩ := h
                  exact absurd ⟨_, (Except.error.inj hf).symm⟩ hfault
                · by_cases hdepth : f = .tooDeep
                  · rw [valueOf_of_isYaml hisYaml, hyaml, hdepth] at h
                    obtain rfl : SettingsFault.tooDeep = fault := by simpa using h
                    exact .yamlDepth hisYaml (hdepth ▸ hyaml)
                  · rw [valueOf_of_content hisYaml hyaml hform hdepth] at h
                    obtain rfl : SettingsFault.content f = fault := by simpa using h
                    exact .content hisYaml hyaml hform hdepth

end Texts

/-! ## Files -/

section Files

variable {file : SourceFile} {named : Option SourceFile} {env : Environment} {fault : SettingsFault}

/-- A file makes the loading break off with a fault: its path cannot be followed, or its content is no text or one that
escapes. -/
def Breaks (file : SourceFile) (fault : SettingsFault) : Prop :=
  match file.content with
  | .missing => False
  | .unreachable => fault = .unreachable
  | .directory => False
  | .bytes content =>
      match decodeUtf8 content with
      | none => fault = .undecodable
      | some text => Escapes (lineFeeds text.toList) fault

/-- The entries that are taken from a value. -/
def entriesOfValue (name : String) : Option Value → Except SettingsFault (List (Value × Value))
  | none | some .null => .ok []
  | some (.mapping entries) => .ok entries
  | some v => .error (.configuration (.settingsNotMapping name v.kind))

theorem entriesOfValue_cases (name : String) (v : Option Value) :
    entriesOfValue name v = .ok [] ∨ (∃ entries, v = some (.mapping entries) ∧ entriesOfValue name v = .ok entries) ∨
      ∃ f, entriesOfValue name v = .error (.configuration f) := by
  cases v with
  | none => exact .inl rfl
  | some v =>
      cases v with
      | null => exact .inl rfl
      | mapping entries => exact .inr (.inl ⟨entries, rfl, rfl⟩)
      | _ => exact .inr (.inr ⟨_, rfl⟩)

theorem entriesOf_of_decodeUtf8 {content : List UInt8} {text : String} (hcontent : file.content = .bytes content)
    (hdecode : decodeUtf8 content = some text) :
    entriesOf file = valueOf file.name (lineFeeds text.toList) >>= entriesOfValue file.name := by
  rw [entriesOf, hcontent]
  dsimp only
  rw [hdecode]
  dsimp only
  cases valueOf file.name (lineFeeds text.toList) with
  | error f => rfl
  | ok v =>
      cases v with
      | none => rfl
      | some v => cases v <;> rfl

/-- The value of a text has entries with a key that is no text exactly if it is a mapping with such a key. -/
theorem entriesOfValue_eq_ok_iff {name : String} {v : Option Value} {entries : List (Value × Value)}
    (hkeys : entries.all isTextKey = false) :
    entriesOfValue name v = .ok entries ↔ v = some (.mapping entries) := by
  constructor
  · intro h
    obtain hv | ⟨es, hes, hv⟩ | ⟨f, hv⟩ := entriesOfValue_cases name v
    · obtain rfl := Except.ok.inj (hv.symm.trans h)
      cases hkeys
    · obtain rfl := Except.ok.inj (hv.symm.trans h)
      exact hes
    · cases hv.symm.trans h
  · rintro rfl
    rfl

/-- A file breaks the loading if it has no entries for an unforeseen fault, or one of them is under a key that is no
text. -/
theorem breaks_iff (hfault : ¬ fault.IsForeseen) : Breaks file fault ↔
    entriesOf file = .error fault ∨ fault = .keyNotText ∧
      ∃ entries, entriesOf file = .ok entries ∧ entries.all isTextKey = false := by
  cases hcontent : file.content with
  | missing =>
      rw [Breaks, entriesOf, hcontent]
      have hne : SettingsFault.configuration (.settingsMissing file.name) ≠ fault := fun hf => hfault ⟨_, hf.symm⟩
      simp [hne]
  | unreachable =>
      rw [Breaks, entriesOf, hcontent]
      simp [@eq_comm _ fault]
  | directory =>
      rw [Breaks, entriesOf, hcontent]
      have hne : SettingsFault.configuration (.settingsUnreadable file.name) ≠ fault := fun hf => hfault ⟨_, hf.symm⟩
      simp [hne]
  | bytes content =>
      cases hdecode : decodeUtf8 content with
      | none =>
          rw [Breaks, entriesOf, hcontent]
          simp [hdecode, @eq_comm _ fault]
      | some text =>
          have hbreaks : Breaks file fault ↔ Escapes (lineFeeds text.toList) fault := by
            rw [Breaks, hcontent]
            dsimp only
            rw [hdecode]
          rw [hbreaks, entriesOf_of_decodeUtf8 hcontent hdecode, escapes_iff file.name hfault]
          refine or_congr ?_ (and_congr_right fun _ => exists_congr fun entries => and_congr_left fun hkeys => ?_)
          · rw [bind_eq_error_iff, or_iff_left]
            rintro ⟨v, -, hv⟩
            obtain h | ⟨entries, -, h⟩ | ⟨f, h⟩ := entriesOfValue_cases file.name v
            · cases h.symm.trans hv
            · cases h.symm.trans hv
            · exact hfault ⟨f, (Except.error.inj (h.symm.trans hv)).symm⟩
          · simp [bind_eq_ok_iff, entriesOfValue_eq_ok_iff hkeys]

/-- The loading breaks off with a fault that is not foreseen exactly if the file makes it. -/
theorem load_eq_error_iff (hfault : ¬ fault.IsForeseen) :
    load named env = .error fault ↔ ∃ file ∈ fileOf named env, Breaks file fault := by
  have hchecked : ∀ entries : List (Value × Value),
      ¬ ((ofEntries (entries ++ overrides env)).mapError fun fields =>
        SettingsFault.configuration (.settingsInvalid fields)) = .error fault := by
    intro entries h
    obtain ⟨fields, -, hfields⟩ := mapError_eq_error_iff.1 h
    exact hfault ⟨_, hfields.symm⟩
  rw [load]
  cases fileOf named env with
  | none => simpa using hchecked []
  | some file =>
      simp only [Option.mem_def, Option.some.injEq, exists_eq_left', breaks_iff hfault, bind_eq_error_iff]
      refine or_congr Iff.rfl ?_
      constructor
      · rintro ⟨entries, hentries, h⟩
        cases hkeys : entries.all isTextKey with
        | true => exact absurd (by simpa [hkeys] using h) (hchecked entries)
        | false =>
            rw [hkeys] at h
            exact ⟨(Except.error.inj h).symm, entries, hentries, hkeys⟩
      · rintro ⟨rfl, entries, hentries, hkeys⟩
        refine ⟨entries, hentries, ?_⟩
        rw [hkeys]
        rfl

theorem Escapes.not_isForeseen {text : List Char} (h : Escapes text fault) : ¬ fault.IsForeseen := by
  rintro ⟨f, rfl⟩
  cases h

theorem Breaks.not_isForeseen (h : Breaks file fault) : ¬ fault.IsForeseen := by
  rw [Breaks] at h
  split at h
  · cases h
  · rintro ⟨f, rfl⟩
    cases h
  · cases h
  · split at h
    · rintro ⟨f, rfl⟩
      cases h
    · exact h.not_isForeseen

/-- The loading ends with settings or with a fault of the configuration exactly if the file does not make it break off,
whatever the variables say. If it does, the loading breaks off with the fault that the file makes. -/
theorem load_foreseen_iff (named : Option SourceFile) (env : Environment) :
    (((∃ settings, load named env = .ok settings) ∨ ∃ f, load named env = .error (.configuration f)) ↔
      ∀ file ∈ fileOf named env, ∀ fault, ¬ Breaks file fault) ∧
    ∀ fault, ¬ fault.IsForeseen →
      (load named env = .error fault ↔ ∃ file ∈ fileOf named env, Breaks file fault) := by
  refine ⟨⟨fun h file hfile fault hbreaks => ?_, fun h => ?_⟩, fun fault => load_eq_error_iff⟩
  · have hload := (load_eq_error_iff hbreaks.not_isForeseen).2 ⟨file, hfile, hbreaks⟩
    rcases h with ⟨settings, h⟩ | ⟨f, h⟩
    · cases h.symm.trans hload
    · exact hbreaks.not_isForeseen ⟨f, (Except.error.inj (h.symm.trans hload)).symm⟩
  · cases hload : load named env with
    | ok settings => exact .inl ⟨settings, rfl⟩
    | error fault =>
        by_cases hfault : fault.IsForeseen
        · obtain ⟨f, rfl⟩ := hfault
          exact .inr ⟨f, rfl⟩
        · obtain ⟨file, hfile, hbreaks⟩ := (load_eq_error_iff hfault).1 hload
          exact absurd hbreaks (h file hfile fault)

/-- An empty list is no mapping, which is a fault of the configuration, so its file does not break the loading. -/
theorem load_foreseen_of_list : ∀ fault, ¬ Breaks ⟨"settings.yaml", .bytes "[]".toUTF8.toList⟩ fault := by
  have hload : load (some ⟨"settings.yaml", .bytes "[]".toUTF8.toList⟩) {} =
      .error (.configuration (.settingsNotMapping "settings.yaml" "list")) := by decide +kernel
  exact (load_foreseen_iff (some ⟨"settings.yaml", .bytes "[]".toUTF8.toList⟩) {}).1.1 (.inr ⟨_, hload⟩) _ rfl

/-- A file that holds a single byte which begins no character breaks the loading, with a fault that is none of the
configuration. -/
theorem not_load_foreseen_of_byte :
    ¬ ((∃ settings, load (some ⟨"settings.yaml", .bytes [0xff]⟩) {} = .ok settings) ∨
      ∃ f, load (some ⟨"settings.yaml", .bytes [0xff]⟩) {} = .error (.configuration f)) := by
  have hload : load (some ⟨"settings.yaml", .bytes [0xff]⟩) {} = .error .undecodable := by decide +kernel
  rw [hload]
  rintro (⟨settings, ⟨⟩⟩ | ⟨f, ⟨⟩⟩)

end Files

end Settings

end EntityModel
