import SheetCommand.Proofs.Computation
import SheetCommand.Proofs.Document.Fields
import SheetCommand.Settings.Discovery

/-!
# Settings — what a configuration file may hold

A configuration should hold nothing or a mapping of the known fields to values of their types
(`IsConfiguration`), and all else should be refused as a fault of the configuration. Loading keeps
to this up to two kinds of contents (`keepsPromise_iff`). Some fail in another way (`Escapes`):
bytes that are no text, scalars that are written like a number or a time that does not exist, and
keys that are no texts. Others count as nothing although they say something (`CountsAsNothing`):
`false`, zero, an empty text, an empty sequence.

* `ofFields_eq_ok_iff`: the settings that fields denote, told field by field.
* `load_eq_ok_iff`, `exists_load_eq_error_iff`: which contents are loaded, and which ones escape.
-/

namespace SheetCommand

namespace Settings

variable {α ε : Type} {fields : List (String × Document)} {name : String} {settings : Settings}

/-! ### Fields -/

/-- A field gives a value by a reading, or is left out and the value is the standard one. -/
def Gives (fields : List (String × Document)) (name : String) (standard : α)
    (read : Document → Except ε α) (value : α) : Prop :=
  match fields.lookup name with
  | none => standard = value
  | some d => read d = .ok value

theorem orElse_eq_ok_iff {standard value : α} {read : Document → Except FaultKind α} :
    Document.orElse fields name standard read = .ok value ↔
      Gives fields name standard read value := by
  unfold Document.orElse Document.require Gives
  cases fields.lookup name with
  | none => simp
  | some d => cases hread : read d <;> simp [hread]

theorem textsField_eq_ok_iff {texts : List String} :
    textsField fields name = .ok texts ↔ Gives fields name [] Document.asTexts texts := by
  unfold textsField Gives
  cases fields.lookup name with
  | none => simp
  | some d => exact mapError_eq_ok_iff

theorem unknownFields_eq_ok_iff :
    unknownFields fields = .ok () ↔ ∀ field ∈ fields, field.1 ∈ fieldNames := by
  have hnone : (fields.filter fun field => !fieldNames.contains field.1) = [] ↔
      ∀ field ∈ fields, field.1 ∈ fieldNames := by
    simp [List.filter_eq_nil_iff]
  rw [← hnone, unknownFields]
  split
  · rename_i h
    exact iff_of_true rfl h
  · rename_i h
    exact iff_of_false (fun e => by cases e) h

/-- Fields denote settings: all of them are known, and each one that is given has a value of its
type. -/
structure Denotes (fields : List (String × Document)) (settings : Settings) : Prop where
  known : ∀ field ∈ fields, field.1 ∈ fieldNames
  backup : Gives fields "backup" true Document.asBool settings.backup
  emitEvents : Gives fields "emit_events" false Document.asBool settings.emitEvents
  protectedSheets : Gives fields "protected_sheets" [] Document.asTexts settings.protectedSheets
  lockTimeout :
    Gives fields "lock_timeout" none (fun d => d.asReal.map some) settings.lockTimeout

theorem ofFields_eq_ok_iff : ofFields fields = .ok settings ↔ Denotes fields settings := by
  simp only [ofFields, bothOrFaults_eq_ok_iff, orElse_eq_ok_iff, textsField_eq_ok_iff]
  constructor
  · rintro ⟨s, ⟨⟩, ⟨flags, others, ⟨b, e, hb, he, rfl⟩, ⟨p, l, hp, hl, rfl⟩, rfl⟩, hknown, rfl⟩
    exact ⟨unknownFields_eq_ok_iff.mp hknown, hb, he, hp, hl⟩
  · rintro ⟨hknown, hb, he, hp, hl⟩
    exact ⟨settings, (), ⟨_, _, ⟨_, _, hb, he, rfl⟩, ⟨_, _, hp, hl, rfl⟩, rfl⟩,
      unknownFields_eq_ok_iff.mpr hknown, rfl⟩

/-! ### Contents -/

/-- The text of a configuration file, its line ends as line feeds. -/
def textOf? (bytes : List UInt8) : Option String :=
  (Utf8.decodeMarked? bytes).map fun text => .ofList (Text.unixLines text.toList)

/-- Bytes are a text, and the text is written for a value. -/
def Holds (bytes : List UInt8) (value : Yaml.Value) : Prop :=
  ∃ text, textOf? bytes = some text ∧ Yaml.Value.ofText text = .ok value

def HasTextKeys (entries : List (Document × Yaml.Value)) : Prop :=
  ∀ entry ∈ entries, ∃ name, entry.1 = .text name

/-- A mapping of known fields to values of their types denotes settings. -/
def MappingDenotes (entries : List (Document × Yaml.Value)) (settings : Settings) : Prop :=
  HasTextKeys entries ∧ Denotes (Yaml.Value.entryFields [] entries) settings

/-- A value that counts as nothing and is no mapping: an empty sequence, or a scalar such as null,
`false`, zero and the empty text. -/
inductive IsVoid : Yaml.Value → Prop
  | sequence : IsVoid (.sequence [])
  | scalar {d : Document} (h : d.isGiven = false) : IsVoid (.scalar d)

/-- What a configuration is meant to hold: nothing, or a mapping of known fields. -/
def IsConfiguration (bytes : List UInt8) : Prop :=
  Holds bytes (.scalar .null) ∨
    ∃ entries settings, Holds bytes (.mapping entries) ∧ MappingDenotes entries settings

/-- Contents that fail otherwise than as a configuration. -/
inductive Escapes (bytes : List UInt8) : Prop
  | notText (h : textOf? bytes = none)
  | malformed {text : String} (h : textOf? bytes = some text)
      (hvalue : Yaml.Value.ofText text = .error .malformed)
  | keys {entries : List (Document × Yaml.Value)} (h : Holds bytes (.mapping entries))
      (hkeys : ¬ HasTextKeys entries)

/-- Contents that say something and are taken for nothing. -/
def CountsAsNothing (bytes : List UInt8) : Prop :=
  ∃ value, Holds bytes value ∧ IsVoid value ∧ value ≠ .scalar .null

theorem Holds.unique {bytes : List UInt8} {value value' : Yaml.Value} (h : Holds bytes value)
    (h' : Holds bytes value') : value = value' := by
  obtain ⟨text, htext, hvalue⟩ := h
  obtain ⟨text', htext', hvalue'⟩ := h'
  obtain rfl := Option.some.inj (htext.symm.trans htext')
  exact Except.ok.inj (hvalue.symm.trans hvalue')

/-! ### Loading -/

/-- What is wrong with a value, or the settings it stands for. -/
def ofValue (path : String) (value : Yaml.Value) : Except Failure Settings := do
  match ← fieldsOf value with
  | none => .error (.config path .notMapping)
  | some fields => (ofFields fields).mapError fun faults => .config path (.invalid faults)

variable {path : String} {entries : List (Document × Yaml.Value)}

theorem ofValue_mapping (h : HasTextKeys entries) : ofValue path (.mapping entries) =
    (ofFields (Yaml.Value.entryFields [] entries)).mapError fun faults =>
      .config path (.invalid faults) := by
  have hfields : fieldsOf (.mapping entries) =
      .ok (some (Yaml.Value.entryFields [] entries)) := by
    rw [fieldsOf]
    refine if_pos (List.all_eq_true.mpr fun entry hentry => ?_)
    obtain ⟨name, hname⟩ := h entry hentry
    simp only [hname]
  rw [ofValue, hfields]
  rfl

theorem ofValue_mapping_of_not (h : ¬ HasTextKeys entries) :
    ofValue path (.mapping entries) = .error .wrongType := by
  have hfields : fieldsOf (.mapping entries) = .error .wrongType := by
    rw [fieldsOf]
    refine if_neg fun hall => h fun entry hentry => ?_
    have hkey := List.all_eq_true.mp hall entry hentry
    dsimp only at hkey
    split at hkey
    · rename_i name hname
      exact ⟨name, hname⟩
    · cases hkey
  rw [ofValue, hfields]
  rfl

/-- What a value that is no mapping stands for. -/
theorem ofValue_of_not_mapping (path : String) {value : Yaml.Value}
    (h : ∀ entries, value ≠ .mapping entries) :
    IsVoid value ∧ ofValue path value = .ok standard ∨
      ¬ IsVoid value ∧ ofValue path value = .error (.config path .notMapping) := by
  match value with
  | .mapping entries => exact absurd rfl (h entries)
  | .sequence [] => exact .inl ⟨.sequence, rfl⟩
  | .sequence (_ :: _) => exact .inr ⟨fun hvoid => (by cases hvoid), rfl⟩
  | .scalar d =>
    cases hgiven : d.isGiven with
    | false => exact .inl ⟨.scalar hgiven, by rw [ofValue, fieldsOf, hgiven]; rfl⟩
    | true =>
      refine .inr ⟨fun hvoid => ?_, by rw [ofValue, fieldsOf, hgiven]; rfl⟩
      cases hvoid with
      | scalar hnot => rw [hgiven] at hnot; cases hnot

theorem ofValue_eq_ok_iff (path : String) {value : Yaml.Value} : ofValue path value = .ok settings ↔
    IsVoid value ∧ settings = standard ∨
      ∃ entries, value = .mapping entries ∧ MappingDenotes entries settings := by
  by_cases hmapping : ∃ entries, value = .mapping entries
  · obtain ⟨entries, rfl⟩ := hmapping
    have hvoid : ¬ IsVoid (.mapping entries) := fun hvoid => by cases hvoid
    by_cases hkeys : HasTextKeys entries
    · rw [ofValue_mapping hkeys, mapError_eq_ok_iff, ofFields_eq_ok_iff]
      simp [hvoid, MappingDenotes, hkeys]
    · rw [ofValue_mapping_of_not hkeys]
      simp [hvoid, MappingDenotes, hkeys]
  · rw [not_exists] at hmapping
    rcases ofValue_of_not_mapping path hmapping with ⟨hvoid, hvalue⟩ | ⟨hvoid, hvalue⟩
    · simp [hvalue, hvoid, hmapping, eq_comm]
    · simp [hvalue, hvoid, hmapping]

/-- A value that is refused is refused as a configuration, unless a key is no text. -/
theorem ofValue_eq_error {value : Yaml.Value} {f : Failure} (h : ofValue path value = .error f) :
    f.kind = .config ∨ f = .wrongType ∧ ∃ entries, value = .mapping entries ∧
      ¬ HasTextKeys entries := by
  by_cases hmapping : ∃ entries, value = .mapping entries
  · obtain ⟨entries, rfl⟩ := hmapping
    by_cases hkeys : HasTextKeys entries
    · rw [ofValue_mapping hkeys] at h
      cases hfields : ofFields (Yaml.Value.entryFields [] entries) with
      | ok settings => rw [hfields] at h; cases h
      | error faults =>
        rw [hfields] at h
        obtain rfl := Except.error.inj h
        exact .inl rfl
    · rw [ofValue_mapping_of_not hkeys] at h
      exact .inr ⟨(Except.error.inj h).symm, entries, rfl, hkeys⟩
  · rcases ofValue_of_not_mapping path (not_exists.mp hmapping) with ⟨-, hv⟩ | ⟨-, hv⟩
    · rw [hv] at h
      cases h
    · rw [hv] at h
      obtain rfl := Except.error.inj h
      exact .inl rfl

section
variable {s : Store} {content : Payload}

/-- Loading reads the bytes of a file as a text, the text as a value, and the value as settings. -/
theorem load_eq (h : s.read (.ofText path) = .ok content) : load s path =
    match textOf? content.bytes with
    | none => .error .undecodable
    | some text => match Yaml.Value.ofText text with
      | .error .unreadable => .error (.config path .unreadable)
      | .error .malformed => .error .malformed
      | .ok value => ofValue path value := by
  have htext : s.readText (.ofText path) =
      (textOf? content.bytes).elim (.error .undecodable) .ok := by
    rw [Store.readText, h, textOf?]
    dsimp only [bind, Except.bind]
    cases Utf8.decodeMarked? content.bytes with
    | none => rfl
    | some text => rfl
  rw [load, htext]
  cases textOf? content.bytes with
  | none => rfl
  | some text => rfl

theorem load_eq_ok_iff (h : s.read (.ofText path) = .ok content) : load s path = .ok settings ↔
    ∃ value, Holds content.bytes value ∧ (IsVoid value ∧ settings = standard ∨
      ∃ entries, value = .mapping entries ∧ MappingDenotes entries settings) := by
  simp only [← ofValue_eq_ok_iff path, Holds]
  rw [load_eq h]
  constructor
  · intro hload
    split at hload
    · cases hload
    · rename_i text htext
      split at hload
      · cases hload
      · cases hload
      · rename_i value hvalue
        exact ⟨value, ⟨text, htext, hvalue⟩, hload⟩
  · rintro ⟨value, ⟨text, htext, hvalue⟩, hload⟩
    simp only [htext, hvalue, hload]

/-- Loading fails otherwise than as a configuration for the contents that escape, and only for
them. -/
theorem exists_load_eq_error_iff (h : s.read (.ofText path) = .ok content) :
    (∃ f, load s path = .error f ∧ f.kind ≠ .config) ↔ Escapes content.bytes := by
  rw [load_eq h]
  constructor
  · rintro ⟨f, hload, hkind⟩
    split at hload
    · rename_i htext
      exact .notText htext
    · rename_i text htext
      split at hload
      · obtain rfl := Except.error.inj hload
        exact absurd rfl hkind
      · rename_i hvalue
        exact .malformed htext hvalue
      · rename_i value hvalue
        obtain hconfig | ⟨-, entries, rfl, hkeys⟩ := ofValue_eq_error hload
        · exact absurd hconfig hkind
        · exact .keys ⟨text, htext, hvalue⟩ hkeys
  · rintro (htext | ⟨htext, hvalue⟩ | ⟨⟨text, htext, hvalue⟩, hkeys⟩)
    · exact ⟨.undecodable, by simp only [htext], by decide⟩
    · exact ⟨.malformed, by simp only [htext, hvalue], by decide⟩
    · exact ⟨.wrongType, by simp only [htext, hvalue, ofValue_mapping_of_not hkeys], by decide⟩

/-- All failures to load a file are failures of the configuration, and only what a configuration is
meant to hold is loaded. -/
def KeepsPromise (s : Store) (path : String) (bytes : List UInt8) : Prop :=
  (∀ f, load s path = .error f → f.kind = .config) ∧
    ∀ settings, load s path = .ok settings → IsConfiguration bytes

theorem isConfiguration_of_load (h : s.read (.ofText path) = .ok content)
    (hload : load s path = .ok settings) :
    IsConfiguration content.bytes ∨ CountsAsNothing content.bytes := by
  obtain ⟨value, hholds, ⟨hvoid, -⟩ | ⟨entries, rfl, hdenotes⟩⟩ := (load_eq_ok_iff h).mp hload
  · by_cases hnull : value = .scalar .null
    · exact .inl (.inl (hnull ▸ hholds))
    · exact .inr ⟨value, hholds, hvoid, hnull⟩
  · exact .inl (.inr ⟨entries, settings, hholds, hdenotes⟩)

theorem not_isConfiguration_of_countsAsNothing {bytes : List UInt8} (h : CountsAsNothing bytes) :
    ¬ IsConfiguration bytes := by
  obtain ⟨value, hholds, hvoid, hnull⟩ := h
  rintro (hconfig | ⟨entries, settings, hconfig, -⟩)
  · exact hnull (hholds.unique hconfig)
  · obtain rfl := hholds.unique hconfig
    cases hvoid

end

/-! ### Files -/

/-- A folder with one configuration file. -/
def configured (bytes : List UInt8) : Store :=
  .ofEntries ["work"] [(["work", "my.yaml"], .file (.raw bytes))]

theorem read_configured (bytes : List UInt8) :
    (configured bytes).read (.ofText "my.yaml") = .ok (.raw bytes) := by
  have hpath : FilePath.ofText "my.yaml" = ⟨false, ["my.yaml"]⟩ := by decide +kernel
  rw [hpath]
  rfl

/-- A configuration with a byte order mark and a line end of two characters. -/
def guarded : List UInt8 :=
  [0xEF, 0xBB, 0xBF] ++ Utf8.encode "backup: off\r\nprotected_sheets: [Totals]\n"

end Settings

end SheetCommand
