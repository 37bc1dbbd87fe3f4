import CodeAudit.Catalog.Basic
import CodeAudit.Matching.Primitives

/-!
# Weak cryptography

Insecure hashes, message authentication codes and random numbers, which are recognised by the path
of a call; and constructors of primitives, which are recognised by their bare name and checked for
the size of the key and for the operations they name.
-/

namespace CodeAudit.Cryptography

/-- The parameters of these rules. -/
structure Settings where
  insecureHash : String := "^(hashlib\\.)?(md5|sha1)$"
  insecureMac : String := "^(hmac\\.new|hashlib\\.pbkdf2_hmac)$"
  insecureRandom : String := "^random\\.\\w+$"
  /-- The argument that carries the key size. -/
  bitsKeyword : String := "bits"
  keySizes : Table Int64 := .ofList
    [("RSA", 2048), ("DSA", 2048), ("ECDSA", 256), ("Ed25519", 256), ("AES", 256),
      ("ChaCha20", 256)]
  requiredOps : Table (List String) := .ofList
    [("RSA", ["encrypt", "decrypt", "sign", "verify"]), ("DSA", ["sign", "verify"]),
      ("ECDSA", ["sign", "verify"]), ("Ed25519", ["sign", "verify"]),
      ("AES", ["encrypt", "decrypt"]), ("ChaCha20", ["encrypt", "decrypt"])]

def insecureHash : RuleInfo where
  id := "insecure_hash"
  description := "MD5/SHA-1 used for hashing"
  message := "uses an insecure hash function ({name})"
  severity := .high

def insecureMac : RuleInfo where
  id := "insecure_mac"
  description := "Weak message authentication code construction"
  message := "uses an insecure message authentication code (MAC) function ({name})"
  severity := .medium

def insecureRandom : RuleInfo where
  id := "insecure_random"
  description := "`random` module used where a CSPRNG is expected"
  message := "uses the insecure random number generator {name} (consider using secrets module)"
  severity := .medium

def weakKeySize : RuleInfo where
  id := "weak_key_size"
  description := "Primitive constructed with a key below the minimum size"
  message := "uses a weak key size for {primitive} ({bits} bits, minimum {min})"
  severity := .high

def missingOperations : RuleInfo where
  id := "missing_crypto_operations"
  description := "Primitive constructed without its full operation set"
  message := "does not use all required cryptographic operations for {primitive} ({missing})"
  severity := .low

/-- The rules of this family. -/
def infos : List RuleInfo :=
  [insecureHash, insecureMac, insecureRandom, weakKeySize, missingOperations]

/-- The operations that can be required of a primitive. -/
def operations : List String := ["encrypt", "decrypt", "sign", "verify"]

/-- The demands on primitives; key sizes are positive and operations are known ones. -/
def Settings.table (s : Settings) : Except RuleSetError PrimitiveTable := do
  s.keySizes.entries.forM fun entry =>
    if entry.2 ≤ 0 then .error (.keySize entry.1 entry.2) else .ok ()
  s.requiredOps.entries.forM fun entry =>
    match entry.2.find? fun op => !operations.contains op with
    | some op => .error (.operation entry.1 op)
    | none => .ok ()
  return ⟨s.keySizes, s.requiredOps⟩

/-- A rule about constructor calls of primitives of which something is demanded. -/
def primitiveRule (info : RuleInfo) (table : PrimitiveTable)
    (complain : String → Node → List Finding) : Rule where
  info := info
  kinds := .single .call
  check n _ :=
    match n.bareCallee? with
    | some primitive => if table.knows primitive then complain primitive n else []
    | none => []

def weakKeySizeRule (info : RuleInfo) (table : PrimitiveTable) (bitsKeyword : String) : Rule :=
  primitiveRule info table fun primitive n =>
    match table.weakKey? primitive n bitsKeyword with
    | some (bits, least) =>
      Catalog.report info n [("primitive", primitive), ("bits", toString bits.toInt),
        ("min", toString least.toInt)]
    | none => []

def missingOperationsRule (info : RuleInfo) (table : PrimitiveTable) : Rule :=
  primitiveRule info table fun primitive n =>
    match table.missingOps primitive n with
    | [] => []
    | missing =>
      Catalog.report info n [("primitive", primitive), ("missing", ", ".intercalate missing)]

/-- The rules with their parameters; `adjust` sets the severities. -/
def rules (s : Settings) (adjust : RuleInfo → RuleInfo) : Except RuleSetError (List Rule) := do
  let table ← s.table
  let hash ← Catalog.compile "crypto.insecure_hash" s.insecureHash
  let mac ← Catalog.compile "crypto.insecure_mac" s.insecureMac
  let random ← Catalog.compile "crypto.insecure_random" s.insecureRandom
  return [Catalog.callRule (adjust insecureHash) (.pattern hash),
    Catalog.callRule (adjust insecureMac) (.pattern mac),
    Catalog.callRule (adjust insecureRandom) (.pattern random),
    weakKeySizeRule (adjust weakKeySize) table s.bitsKeyword,
    missingOperationsRule (adjust missingOperations) table]

end CodeAudit.Cryptography
