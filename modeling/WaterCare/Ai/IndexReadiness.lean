import WaterCare.Machine.Result
import WaterCare.Py.Value
import WaterCare.Py.Unicode
import Mathlib.Data.String.Basic
import Mathlib.Algebra.BigOperators.Group.Finset.Basic
import Mathlib.Data.Finset.Sort

/-!
`validate_readonly_index` of `index_readiness.py` and `validate_runtime_manifest` of
`runtime_profile.py`: the rows of the readonly view against the canonical identity of the chunks.
The identity is a JSON object, and so is the metadata of a row if it is an object at all; what the
code uses as a key of a dict it hashes first.
-/

namespace WaterCare.Ai.IndexReadiness
open Machine Py

/-! ### JSON -/

/-- A value that a JSON text can stand for: the keys of an object are texts, each once. -/
inductive IsJson : Value → Prop
  | atom (a : Atom) : IsJson (.atom a)
  | list (items : List Value) : (∀ item ∈ items, IsJson item) → IsJson (.list items)
  | dict (entries : Dict) : (∀ e ∈ entries, ∃ key, e.1 = .str key) →
      (entries.map (·.1)).Nodup → (∀ e ∈ entries, IsJson e.2) → IsJson (.dict entries)

structure JsonObject where
  entries : Dict
  json : IsJson (.dict entries)

/-- `Counter(keys)`: the keys in the order of their first occurrence. -/
def counter (keys : List Atom) : List (Atom × Nat) :=
  keys.foldl (fun counts key => assign counts key ((lookup counts key).getD 0 + 1)) []

/-- `counts[key]` of a `Counter`. -/
def count (counts : List (Atom × Nat)) (key : Atom) : Nat := (lookup counts key).getD 0

/-- `==` between two `Counter`s: a missing count is zero. -/
def sameCounts (counts others : List (Atom × Nat)) : Bool :=
  (counts ++ others).all fun e => count counts e.1 == count others e.1

/-- `dict(counts)`. -/
def countsValue (counts : List (Atom × Nat)) : Value :=
  .dict (counts.map fun e => (e.1, .atom (.int e.2)))

/-! ### The profile, the manifest and the rows -/

/-- What `validate_runtime_manifest` and the check read of a `RagRuntimeProfile`. -/
structure RagRuntimeProfile where
  approvedModelCodes : Finset String
  expectedIndexVersion : String
  expectedChunkCount : Int
  expectedChunkSetSha256 : String
  expectedDocumentIds : Finset String

structure IndexManifest where
  modelName : String
  modelRevision : String
  dimension : Int
  indexType : String
  indexVersion : String
  chunkCount : Int
  chunkSetSha256 : String
  documentHashes : List (String × String)

structure ReadonlyIndexRow where
  chunkId : String
  modelCode : String
  productGeneration : String
  verificationStatus : String
  allowedUse : Bool
  dimension : Int
  contentSha256 : String
  metadata : Value

/-- The reason codes of `IndexReadinessError` that the check raises. -/
inductive Reason
  | canonicalManifestMismatch
  | canonicalIdentityInvalid
  | canonicalModelScopeMismatch
  | viewRowCountMismatch
  | viewCanonicalChildSetMismatch
  | viewModelDistributionMismatch
  | viewMetadataInvalid
  | viewCanonicalIdentityMismatch
  | viewIndexIdentityMismatch
  | viewEvidenceEligibilityMismatch
  deriving DecidableEq

def Reason.code : Reason → String
  | canonicalManifestMismatch => "CANONICAL_MANIFEST_MISMATCH"
  | canonicalIdentityInvalid => "CANONICAL_IDENTITY_INVALID"
  | canonicalModelScopeMismatch => "CANONICAL_MODEL_SCOPE_MISMATCH"
  | viewRowCountMismatch => "VIEW_ROW_COUNT_MISMATCH"
  | viewCanonicalChildSetMismatch => "VIEW_CANONICAL_CHILD_SET_MISMATCH"
  | viewModelDistributionMismatch => "VIEW_MODEL_DISTRIBUTION_MISMATCH"
  | viewMetadataInvalid => "VIEW_METADATA_INVALID"
  | viewCanonicalIdentityMismatch => "VIEW_CANONICAL_IDENTITY_MISMATCH"
  | viewIndexIdentityMismatch => "VIEW_INDEX_IDENTITY_MISMATCH"
  | viewEvidenceEligibilityMismatch => "VIEW_EVIDENCE_ELIGIBILITY_MISMATCH"

/-- The exceptions that end the check. -/
inductive Failure
  /-- `RetrievalConfigurationError` of `validate_runtime_manifest`, with its message. -/
  | configuration (message : String)
  /-- `IndexReadinessError`. -/
  | readiness (reason : Reason)
  /-- An exception of a built-in operation. -/
  | builtin (exn : Exn)
  deriving DecidableEq

/-- The exception is a `RetrievalConfigurationError`, as `IndexReadinessError` is. -/
def Failure.isConfigurationError : Failure → Bool
  | configuration _ | readiness _ => true
  | builtin _ => false

structure Report where
  indexVersion : String
  chunkSetSha256 : String
  indexRowCount : Nat
  modelRowCounts : List (Atom × Nat)
  approvedModelCodes : List String
  approvedModelRowCount : Nat
  deriving DecidableEq

/-- `_require`. -/
abbrev require (condition : Bool) (reason : Reason) : Except Failure Unit :=
  Machine.require condition (.readiness reason)

def builtin {α : Type} : Except Exn α → Except Failure α
  | .ok a => .ok a
  | .error exn => .error (.builtin exn)

section
variable (u : Unicode)

def hexDigits : List Char := "0123456789abcdef".toList

/-- `_sha256`. -/
def sha256 (value : Value) : Option (List Char) :=
  match value.asStr? with
  | none => none
  | some text =>
      let normalized := u.casefold text.toList
      if normalized.length = 64 ∧ (normalized.all fun c => hexDigits.contains c) = true then
        some normalized
      else none

/-- `validate_runtime_manifest`. -/
def validateRuntimeManifest (profile : RagRuntimeProfile) (manifest : IndexManifest) :
    Except Failure Unit :=
  if manifest.modelName = "BAAI/bge-m3" ∧
      manifest.modelRevision = "5617a9f61b028005a4858fdac845db406aefb181" ∧
      manifest.dimension = 1024 ∧ manifest.indexType = "exact_search" ∧
      manifest.indexVersion = profile.expectedIndexVersion ∧
      manifest.chunkCount = profile.expectedChunkCount ∧
      u.casefold manifest.chunkSetSha256.toList =
        u.casefold profile.expectedChunkSetSha256.toList ∧
      (manifest.documentHashes.map (·.1)).toFinset = profile.expectedDocumentIds then .ok ()
  else
    .error (.configuration "선택한 RAG Runtime Profile이 Index Manifest와 일치하지 않습니다.")

/-- `manifest.document_hashes.get(document_id)`, which hashes the key. -/
def documentHash (manifest : IndexManifest) (documentId : Value) : Except Failure Value := do
  let key ← builtin documentId.hashed
  pure (((manifest.documentHashes.find? fun e => key.eq (.str e.1)).map fun e =>
    Value.str e.2).getD .none)

/-- The identity of the chunk in the canonical document; the hash of the document is looked up
only after the conditions before it. -/
def canonicalValid (manifest : IndexManifest) (canonical : Dict) : Except Failure Bool := do
  let sourceHash := sha256 u (canonical.get "source_file_sha256")
  let textHash := sha256 u (canonical.get "chunk_text_sha256")
  if ((canonical.get "verification_status").eqStr "TEXT_AND_VISUAL_VERIFIED" &&
      sourceHash.isSome) = true then
    let hash ← documentHash manifest (canonical.get "document_id")
    pure (decide (sourceHash = sha256 u hash) && textHash.isSome)
  else pure false

/-- The row and its metadata describe the canonical chunk. -/
def sameIdentity (row : ReadonlyIndexRow) (metadata canonical : Dict) : Bool :=
  (canonical.get "model_code").eqStr row.modelCode &&
    (canonical.get "product_generation").eqStr row.productGeneration &&
    (metadata.get "model_code").eqStr row.modelCode &&
    (metadata.get "product_generation").eqStr row.productGeneration &&
    (metadata.get "document_id").eq (canonical.get "document_id") &&
    (metadata.get "page_refs").eq (canonical.get "page_refs") &&
    decide (sha256 u (metadata.get "source_hash") =
      sha256 u (canonical.get "source_file_sha256")) &&
    decide (sha256 u (.str row.contentSha256) = sha256 u (canonical.get "chunk_text_sha256"))

/-- The row was embedded for the index of the manifest. -/
def sameIndex (manifest : IndexManifest) (row : ReadonlyIndexRow) (metadata : Dict) : Bool :=
  decide (row.dimension = manifest.dimension) &&
    (metadata.get "embedding_model").eqStr manifest.modelName &&
    (metadata.get "embedding_model_revision").eqStr manifest.modelRevision &&
    (metadata.get "index_version").eqStr manifest.indexVersion &&
    decide (sha256 u (metadata.get "chunk_set_sha256") =
      sha256 u (.str manifest.chunkSetSha256))

/-- The row may be used as evidence. -/
def eligible (row : ReadonlyIndexRow) (metadata : Dict) : Bool :=
  decide (row.verificationStatus = "official_verified") && row.allowedUse &&
    (metadata.get "verification_status").eqStr "official_verified" &&
    (metadata.get "allowed_use").isTrue &&
    (metadata.getD "runtime_eligible" (.bool true)).isTrue &&
    ((metadata.get "record_type").isNone || (metadata.get "record_type").eqStr "child" ||
      (metadata.get "record_type").eqStr "CHILD") &&
    (metadata.get "retrieval_role").eqStr "SEARCH_CANDIDATE" &&
    ["evidence_group_id", "source_variant_id", "parent_id"].all fun key =>
      (metadata.get key).asStr?.any hasText

/-- One pass of the loop over the rows. -/
def checkRow (manifest : IndexManifest) (expected : List (Atom × Dict)) (row : ReadonlyIndexRow) :
    Except Failure Unit := do
  match lookup expected (.str row.chunkId) with
  | none => .error (.builtin (.keyError row.chunkId))
  | some canonical =>
      match row.metadata.asDict? with
      | none => .error (.readiness .viewMetadataInvalid)
      | some metadata =>
          require (← canonicalValid u manifest canonical) .canonicalIdentityInvalid
          require (sameIdentity u row metadata canonical) .viewCanonicalIdentityMismatch
          require (sameIndex u manifest row metadata) .viewIndexIdentityMismatch
          require (eligible row metadata) .viewEvidenceEligibilityMismatch

/-- An item of `chunks` with its id, if it is an object that has one. -/
def identified (item : Value) : Option (String × Dict) :=
  item.asDict?.bind fun chunk => (chunk.get "chunk_id").asStr?.map fun id => (id, chunk)

/-- The canonical chunks with their ids. -/
def canonicalChunks (identity : Dict) : Except Failure (List (String × Dict)) :=
  match (identity.get "chunks").asList? with
  | none => .error (.readiness .canonicalIdentityInvalid)
  | some items =>
      match items.mapM identified with
      | none => .error (.readiness .canonicalIdentityInvalid)
      | some chunks => .ok chunks

/-- `{item["chunk_id"]: item for item in chunks}`. -/
def chunksById (chunks : List (String × Dict)) : List (Atom × Dict) :=
  chunks.foldl (fun expected chunk => assign expected (.str chunk.1) chunk.2) []

/-- The model codes of the canonical chunks, as the keys of a `Counter`. -/
def modelCodes (chunks : List (String × Dict)) : Except Failure (List Atom) :=
  chunks.mapM fun chunk => builtin (chunk.2.get "model_code").hashed

instance transString : IsTrans String (fun s t => s ≤ t) := inferInstance

instance antisymmString : Std.Antisymm (fun s t : String => s ≤ t) := inferInstance

def validateReadonlyIndex (profile : RagRuntimeProfile) (manifest : IndexManifest)
    (identity : Dict) (rows : List ReadonlyIndexRow) : Except Failure Report := do
  validateRuntimeManifest u profile manifest
  require ((identity.get "chunk_count").eq (.atom (.int manifest.chunkCount)) &&
    (identity.get "index_version").eqStr manifest.indexVersion &&
    decide (sha256 u (identity.get "chunk_set_sha256") = sha256 u (.str manifest.chunkSetSha256)))
    .canonicalManifestMismatch
  let chunks ← canonicalChunks identity
  let expected := chunksById chunks
  require (decide (chunks.length = expected.length) &&
    decide ((expected.length : Int) = manifest.chunkCount)) .canonicalIdentityInvalid
  let expectedCounts := counter (← modelCodes chunks)
  require ((countsValue expectedCounts).eq (identity.get "model_chunk_counts") &&
    decide (∀ code ∈ profile.approvedModelCodes, (lookup expectedCounts (.str code)).isSome = true))
    .canonicalModelScopeMismatch
  require (decide ((rows.length : Int) = manifest.chunkCount)) .viewRowCountMismatch
  require (decide ((rows.map (·.chunkId)).dedup.length = rows.length) &&
    decide ((rows.map fun row => Atom.str row.chunkId).toFinset =
      (expected.map (·.1)).toFinset)) .viewCanonicalChildSetMismatch
  let modelCounts := counter (rows.map fun row => .str row.modelCode)
  require (sameCounts modelCounts expectedCounts) .viewModelDistributionMismatch
  rows.forM (checkRow u manifest expected)
  pure {
    indexVersion := manifest.indexVersion
    chunkSetSha256 := manifest.chunkSetSha256
    indexRowCount := rows.length
    modelRowCounts := modelCounts.insertionSort fun e f => e.1.text ≤ f.1.text
    approvedModelCodes := profile.approvedModelCodes.sort (· ≤ ·)
    approvedModelRowCount := ∑ code ∈ profile.approvedModelCodes, count modelCounts (.str code) }

end
end WaterCare.Ai.IndexReadiness
