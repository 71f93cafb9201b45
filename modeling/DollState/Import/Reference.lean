import DollState.Library.SecureHash
import DollState.Import.Stage
import DollState.State.Reference

/-!
# A library to import with

The parameters of the import model as the interpreter has them, for running it on fixed inputs:
the hash functions are the real ones, text is ASCII, a float is its literal, and the levels are
those that the default recursion limit leaves. The adapter, the environment and the sources are
like those of the tests.
-/

namespace DollState.Import

open StateLib

/-- The UTF-8 encoding of a text. -/
def utf8 (text : Text) : List Nat := (text.flatMap String.utf8EncodeChar).map UInt8.toNat

/-- `uuid5`: the first 128 bits of a SHA-1 digest, with the version and the variant set. -/
def uuid5 (namespaceId : RecordId) (name : Text) : RecordId :=
  let digest := SecureHash.sha1 (SecureHash.bytes 16 namespaceId.toNat ++ utf8 name)
  let part (high low : Nat) : Nat := digest / 2 ^ (32 + low) % 2 ^ (high - low)
  BitVec.ofNat 128 (part 128 80 * 2 ^ 80 + 5 * 2 ^ 76 + part 76 64 * 2 ^ 64 + 2 * 2 ^ 62 + part 62 0)

-- the identifier of "python.org" in the namespace of domain names
example : uuid5 0x6ba7b8109dad11d180b400c04fd430c8 "python.org".toList =
    0x886313e13b8a53729b900c9aee199e5d := by decide +kernel

/-- Whether the float of a literal is infinite: whether its exponent is over 308. -/
def overflows (literal : Text) : Bool :=
  match literal.dropWhile fun c => c ≠ 'e' ∧ c ≠ 'E' with
  | _ :: exponent => (decimal? exponent).any (308 < ·)
  | [] => false

@[reducible] def standardLibrary : ImportLibrary where
  lower := List.map Char.toLower
  lower_ascii _ _ := rfl
  floatRepr literal := if overflows literal then none else some literal
  sha256 text := BitVec.ofNat 256 (SecureHash.sha256 (utf8 text))
  uuid5 := uuid5
  decodeLevels := 990
  encodeLevels := 990
  depthLevels := 490
  visitLevels := 980

/-! ## Sources -/

def genericAdapter : SourceAdapterContract where
  adapterId := "generic-import".toList
  adapterVersion := "1.0.0".toList
  sourceEnvironmentClass := "generic-file-export".toList
  supportedSourceVersions := ["1".toList]
  supportedEventTypes := ["user-message".toList, "assistant-message".toList]
  attachmentBehavior := .preserveReference
  branchBehavior := .preserve
  resourceLimits := ⟨100000, 100, 10000, 20, by decide⟩
  networkBehavior := .none
  fingerprint := 0
  adapterId_ok := by decide
  adapterVersion_ok := by decide

def genericEnvironment : SourceEnvironmentRecord where
  environmentId := 0x11111111111141118111111111111111
  environmentClass := "generic-file-export".toList
  providerId := none
  applicationId := none
  interfaceId := none
  runtimeId := none
  exportFormat := none
  exportVersion := none
  observedAt := none

def genericStager : Stager where
  adapter := genericAdapter
  environment := genericEnvironment
  offline := rfl
  sameClass := rfl

def genericBatch : BatchContext where
  importBatchId := "22222222-2222-4222-8222-222222222222".toList
  startedAt := "2026-01-01T00:00:00Z".toList

/-- A JSON source with these objects. -/
def jsonSource (objects : Text) : Text :=
  "\x7b\"format\":\"doll-generic-import\",\"format_version\":\"1\",".toList ++
    "\"source_environment_id\":\"11111111-1111-4111-8111-111111111111\",".toList ++
    "\"objects\":[".toList ++ objects ++ "]\x7d".toList

end DollState.Import
