import CodeAudit.Main
import CodeAudit.Matching.Loops
import CodeAudit.Matching.Policies
import CodeAudit.Proofs.Preorder
import CodeAudit.Proofs.Walk
import CodeAudit.Proofs.Skips
import CodeAudit.Proofs.Scan
import CodeAudit.Proofs.Selection
import CodeAudit.Proofs.Checks
import CodeAudit.Proofs.Catalog
import CodeAudit.Proofs.Building
import CodeAudit.Proofs.Overrides
import CodeAudit.Proofs.Independence
import CodeAudit.Proofs.Relocation
import CodeAudit.Proofs.Placeless
import CodeAudit.Proofs.Derivation
import CodeAudit.Proofs.Parsing
import CodeAudit.Proofs.Layout
import CodeAudit.Proofs.WellFormed
import CodeAudit.Proofs.Places
import CodeAudit.Proofs.Parts
import CodeAudit.Proofs.Grown
import CodeAudit.Proofs.Complete
import CodeAudit.Proofs.Kept.Basic
import CodeAudit.Proofs.Kept.Expressions
import CodeAudit.Proofs.Kept.Statements
import CodeAudit.Proofs.Origins
import CodeAudit.Proofs.Calls
import CodeAudit.Proofs.Comparisons
import CodeAudit.Proofs.Connectives
import CodeAudit.Proofs.Branches
import CodeAudit.Proofs.Provenance
import CodeAudit.Proofs.Guards
import CodeAudit.Proofs.Nesting
import CodeAudit.Proofs.Formed.Basic
import CodeAudit.Proofs.Formed.Expressions
import CodeAudit.Proofs.Formed.Statements
import CodeAudit.Proofs.Formed.Modules
import CodeAudit.Proofs.Schedules
import CodeAudit.Proofs.ExitStatus
import CodeAudit.Proofs.Search
import CodeAudit.Proofs.Encodings
import CodeAudit.Proofs.Disguises
import CodeAudit.Proofs.Lexing
import CodeAudit.Proofs.Ordered.Tokens
import CodeAudit.Proofs.Ordered.Basic
import CodeAudit.Proofs.Ordered.Expressions
import CodeAudit.Proofs.Ordered.Statements
import CodeAudit.Proofs.Ordered.Modules
import CodeAudit.Proofs.Ordered.Productions
import CodeAudit.Proofs.Digits
import CodeAudit.Proofs.Escapes
import CodeAudit.Proofs.Integers
import CodeAudit.Proofs.Callees
import CodeAudit.Proofs.Braces
import CodeAudit.Proofs.Segments
import CodeAudit.Proofs.HexTexts
import CodeAudit.Proofs.Pieces
import CodeAudit.Proofs.Replacing
import CodeAudit.Proofs.HexSigns
import CodeAudit.Proofs.Base64Texts
import CodeAudit.Proofs.ZeroBytes
import CodeAudit.Proofs.Languages
import CodeAudit.Proofs.Conditions
import CodeAudit.Proofs.Tables
import CodeAudit.Proofs.Mentions
import CodeAudit.Proofs.Imports.Importless
import CodeAudit.Proofs.Imports.Gathered
import CodeAudit.Proofs.Spelling
import CodeAudit.Proofs.Imports.Paths
import CodeAudit.Proofs.Imports.Suspicions
import CodeAudit.Proofs.Exclusions
import CodeAudit.Proofs.Trees
import CodeAudit.Proofs.Discovery
import CodeAudit.Proofs.SizeLimits
import CodeAudit.Proofs.Merging
import CodeAudit.Proofs.Records
import CodeAudit.Proofs.Templates
import CodeAudit.Proofs.Chains
import CodeAudit.Proofs.Signs
