import MediaHash.Proofs.Config.Document
import MediaHash.Proofs.Config.Environment
import MediaHash.Proofs.Items.Steps

/-!
# Where a configuration comes from

A configuration is read from the file that is named for it, else from the
user's own file if there is one.  Without either all settings are standard
ones.  A configuration from a file has passed a check of its default families
of hashes, and the standard one would pass it.
-/

namespace MediaHash.Config

open Toml (Node)

variable {files : Files} {configHome path : String} {config : Config}

/-! ## The document -/

/--
The document that settings are taken from: that of the named file, else that
of the file at the user's own place, else none.
-/
inductive Source (files : Files) (configHome : String) :
    Option String → Option Node → Prop
  | named (path text : String) (document : Node)
      (there : files.text path = .ok text)
      (isDocument : Toml.read text = some document) :
      Source files configHome (some path) (some document)
  | own (text : String) (document : Node)
      (there : files.text (defaultPath configHome) = .ok text)
      (isDocument : Toml.read text = some document) :
      Source files configHome none (some document)
  | absent (nothing : files.holds (defaultPath configHome) = false) :
      Source files configHome none none

theorem read_eq_ok_iff {text : String} :
    read text = .ok config ↔
      ∃ document, Toml.read text = some document ∧
        ofNode? document = some config := by
  rw [read]
  cases Toml.read text with
  | none => simp
  | some document =>
      cases made : ofNode? document with
      | none => simp [made]
      | some other => simp [made]

/-- A configuration that is loaded has been read and checked. -/
theorem load_eq_ok_iff :
    load files path = .ok config ↔
      ∃ text, files.text path = .ok text ∧ read text = .ok config ∧
        config.validate = .ok () := by
  rw [load]
  cases there : files.text path with
  | error fault => simp
  | ok text =>
      simp only [bind_eq_ok_iff, Except.ok.injEq, exists_eq_left']
      constructor
      · rintro ⟨other, isRead, ⟨⟩, valid, rfl⟩
        exact ⟨isRead, valid⟩
      · rintro ⟨isRead, valid⟩
        exact ⟨config, isRead, (), valid, rfl⟩

theorem exists_layer_of_load (loaded : load files path = .ok config) :
    ∃ text document layer, files.text path = .ok text ∧
      Toml.read text = some document ∧
      Layer.SaidBy layer (some document) ∧ config = layer.complete := by
  rcases load_eq_ok_iff.mp loaded with ⟨text, there, isRead, -⟩
  rcases read_eq_ok_iff.mp isRead with ⟨document, isDocument, made⟩
  rcases exists_layer_of_ofNode? made with ⟨layer, said, complete⟩
  exact ⟨text, document, layer, there, isDocument, said, complete⟩

/-- What is loaded comes from a file or is the standard configuration. -/
theorem loadOrDefault_cases {named : Option String}
    (loaded : loadOrDefault files configHome named = .ok config) :
    (∃ path, load files path = .ok config) ∨ config = .standard := by
  cases named with
  | some path => exact .inl ⟨path, loaded⟩
  | none =>
      rw [loadOrDefault] at loaded
      split at loaded
      next there => exact .inl ⟨_, loaded⟩
      next nothing => exact .inr (Except.ok.inj loaded).symm

/-- What is loaded has the settings of its document. -/
theorem exists_layer_of_loadOrDefault {named : Option String}
    (loaded : loadOrDefault files configHome named = .ok config) :
    ∃ document layer, Source files configHome named document ∧
      Layer.SaidBy layer document ∧ config = layer.complete := by
  cases named with
  | some path =>
      rcases exists_layer_of_load loaded with
        ⟨text, document, layer, there, isDocument, said, complete⟩
      exact ⟨some document, layer, .named path text document there isDocument,
        said, complete⟩
  | none =>
      rw [loadOrDefault] at loaded
      split at loaded
      next standing =>
        rcases exists_layer_of_load loaded with
          ⟨text, document, layer, there, isDocument, said, complete⟩
        exact ⟨some document, layer, .own text document there isDocument,
          said, complete⟩
      next nothing =>
        cases loaded
        exact ⟨none, .open, .absent (Bool.eq_false_iff.mpr nothing),
          Layer.saidBy_none, rfl⟩

/-! ## The check -/

/-- A hasher can be made for the default families, and it has work to do. -/
structure Usable (config : Config) : Prop where
  nonempty : config.defaultHashTypes ≠ []
  digestible : .null ∉ config.defaultHashTypes

theorem validate_eq_ok_iff : config.validate = .ok () ↔ config.Usable := by
  rw [validate]
  split
  next unusable =>
    constructor
    · intro impossible
      cases impossible
    · rintro ⟨nonempty, digestible⟩
      exact absurd unusable (not_or.mpr ⟨nonempty, digestible⟩)
  next usable =>
    rcases not_or.mp usable with ⟨nonempty, digestible⟩
    exact iff_of_true rfl ⟨nonempty, digestible⟩

theorem usable_standard : standard.Usable :=
  ⟨by decide, by decide⟩

end MediaHash.Config
