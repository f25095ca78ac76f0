import MediaHash.ExitCode
import MediaHash.Text.Decimal

/-!
# Faults

An input that cannot be read, or that asks for what cannot be done, is a
fault.  Faults are grouped by the kind of input that they concern.  Each
has a message, a stable code, and sometimes a hint at what to do about it.
An input that disagrees with another is not a fault: that is a verdict.
-/

namespace MediaHash

/-- Faults of a manifest. -/
inductive ManifestFault where
  | notFound (path : String)
  /-- The bytes are not text or the text is not well-formed. -/
  | malformed (detail : String)
  | invalidSize (path value : String)
deriving DecidableEq, Repr

/-- Faults of the specification of a sequence. -/
inductive SequenceFault where
  | invalidSyntax (token reason : String)
  | gap (first last firstMissing : Nat)
deriving DecidableEq, Repr

/-- Faults of a listing of claims. -/
inductive ListingFault where
  | notFound (path : String)
  | invalidEncoding (path : String)
deriving DecidableEq, Repr

/-- Faults met when files are hashed. -/
inductive HashingFault where
  | fileNotFound (path : String)
  | notAFile (path : String)
  | unsupportedType (name : String)
  | readFailed (path detail : String)
deriving DecidableEq, Repr

/-- Faults of a configuration. -/
inductive ConfigFault where
  | notFound (path : String)
  | malformed (detail : String)
  | invalidValue (field value : String)
deriving DecidableEq, Repr

/-- Kinds of failure of an access to a file. -/
inductive AccessKind where
  | notFound
  | permissionDenied
  | isADirectory
  | notADirectory
  | invalidName
  | invalidInput
  | invalidData
  | other
deriving DecidableEq, Repr

/-- The name of a kind of failure. -/
def AccessKind.name : AccessKind → String
  | .notFound => "NotFound"
  | .permissionDenied => "PermissionDenied"
  | .isADirectory => "IsADirectory"
  | .notADirectory => "NotADirectory"
  | .invalidName => "InvalidFilename"
  | .invalidInput => "InvalidInput"
  | .invalidData => "InvalidData"
  | .other => "Other"

/-- Why an access to a file failed. -/
structure AccessFault where
  kind : AccessKind
  detail : String
deriving DecidableEq, Repr

/-- Everything that can go wrong. -/
inductive Fault where
  | manifest (fault : ManifestFault)
  | sequence (fault : SequenceFault)
  | listing (fault : ListingFault)
  | hashing (fault : HashingFault)
  | config (fault : ConfigFault)
  /-- A request that makes no sense although it can be read. -/
  | internal (detail : String)
  /-- A file could not be accessed. -/
  | access (fault : AccessFault) (path : Option String)
deriving DecidableEq, Repr

/-! ## Messages -/

/-- What is wrong with a manifest. -/
def ManifestFault.message : ManifestFault → String
  | .notFound path => "manifest not found: " ++ path
  | .malformed detail => "malformed manifest: " ++ detail
  | .invalidSize path value =>
      "invalid size for " ++ path ++ ": " ++ value

/-- What is wrong with the specification of a sequence. -/
def SequenceFault.message : SequenceFault → String
  | .invalidSyntax token reason =>
      "invalid sequence token '" ++ token ++ "': " ++ reason
  | .gap first last firstMissing =>
      "sequence " ++ Text.decimal first ++ "-" ++ Text.decimal last ++
        " has a gap starting at " ++ Text.decimal firstMissing

/-- What is wrong with a listing. -/
def ListingFault.message : ListingFault → String
  | .notFound path => "hash spec listing not found: " ++ path
  | .invalidEncoding path => "listing is not valid UTF-8: " ++ path

/-- Why a digest cannot be computed. -/
def HashingFault.message : HashingFault → String
  | .fileNotFound path => "file not found: " ++ path
  | .notAFile path => "not a regular file: " ++ path
  | .unsupportedType name => "unsupported hash type: " ++ name
  | .readFailed path detail =>
      "read failed for " ++ path ++ ": " ++ detail

/-- What is wrong with a configuration. -/
def ConfigFault.message : ConfigFault → String
  | .notFound path => "config file not found: " ++ path
  | .malformed detail => "parse error: " ++ detail
  | .invalidValue field value =>
      "invalid value for " ++ field ++ ": " ++ value

namespace Fault

/-- The message that names the kind of input first. -/
def fullMessage : Fault → String
  | .manifest fault => "manifest error: " ++ fault.message
  | .sequence fault => "sequence error: " ++ fault.message
  | .listing fault => "hash spec error: " ++ fault.message
  | .hashing fault => "hash error: " ++ fault.message
  | .config fault => "config error: " ++ fault.message
  | .internal detail => "internal error: " ++ detail
  | .access fault _ => "I/O error: " ++ fault.detail

/-- The message for the person at the command line. -/
def message : Fault → String
  | .manifest fault => fault.message
  | .sequence fault => fault.message
  | .listing fault => fault.message
  | .hashing fault => fault.message
  | .config fault => fault.message
  | .internal detail => "internal error: " ++ detail
  | .access fault _ => fault.detail

/-- The stable code of a fault. -/
def code : Fault → String
  | .manifest (.notFound _) => "manifest.not_found"
  | .manifest (.malformed _) => "manifest.parse"
  | .manifest (.invalidSize _ _) => "manifest.invalid_size"
  | .sequence (.invalidSyntax _ _) => "sequence.invalid_syntax"
  | .sequence (.gap _ _ _) => "sequence.gap"
  | .listing (.notFound _) => "hashspec.not_found"
  | .listing (.invalidEncoding _) => "hashspec.invalid_encoding"
  | .hashing (.fileNotFound _) => "hash.file_not_found"
  | .hashing (.notAFile _) => "hash.not_a_file"
  | .hashing (.unsupportedType _) => "hash.unsupported_type"
  | .hashing (.readFailed _ _) => "hash.read_failed"
  | .config (.notFound _) => "config.not_found"
  | .config (.malformed _) => "config.parse_error"
  | .config (.invalidValue _ _) => "config.invalid_value"
  | .internal _ => "error.internal"
  | .access _ _ => "error.io"

/-- What the person at the command line may do about a fault. -/
def hint? : Fault → Option String
  | .manifest (.notFound _) =>
      some "Check the manifest path; MHL files usually end in \x60.mhl\x60."
  | .manifest (.malformed _) =>
      some "The manifest must be well-formed XML with a <hashlist> root."
  | .manifest (.invalidSize _ _) =>
      some "Size elements must hold a non-negative byte count."
  | .sequence (.invalidSyntax _ _) =>
      some "Use comma-separated numbers or ranges such as \x601-5, 7, 10-12\x60."
  | .sequence (.gap _ _ _) =>
      some "Add the missing numbers or split the sequence."
  | .listing (.notFound _) =>
      some "Capture the reference tool output to a file first."
  | .listing (.invalidEncoding _) =>
      some "Re-encode the listing as UTF-8."
  | .hashing (.fileNotFound _) | .hashing (.notAFile _) =>
      some "Pass paths to existing regular files."
  | .hashing (.unsupportedType _) =>
      some "Supported types: md5, sha1, xxhash, xxhash64, xxhash64be, null."
  | .hashing (.readFailed _ _) => none
  | .config (.notFound _) =>
      some "Provide a configuration file or drop --config."
  | .config (.malformed _) | .config (.invalidValue _ _) =>
      some "Fix the configuration value and retry the command."
  | .internal _ => none
  | .access _ _ => none

/-- Whether the same request may succeed when it is made again. -/
def isRetryable : Fault → Bool
  | .hashing (.readFailed _ _) => true
  | .access _ _ => true
  | _ => false

end Fault

/-! ## The two classes of sequence faults -/

namespace SequenceFault

/-- The specification does not follow the grammar. -/
def isSyntax : SequenceFault → Bool
  | .invalidSyntax _ _ => true
  | .gap _ _ _ => false

/-- The specification is grammatical and leaves out a number. -/
def isGap : SequenceFault → Bool
  | .invalidSyntax _ _ => false
  | .gap _ _ _ => true

/-- What the tool under test reports for a sequence that it refuses. -/
def exitCode : SequenceFault → ExitCode
  | .invalidSyntax _ _ => .invalidSequence
  | .gap _ _ _ => .gapInSequence

end SequenceFault

end MediaHash
