import CodeAudit.Node.Basic
import CodeAudit.Table
import CodeAudit.Text.Lowercase
import CodeAudit.Text.Search

/-!
# Policies in dictionaries

A dictionary literal states policies through its keys. A key mentions a policy word when it contains
the word; upper and lower case do not matter.
-/

namespace CodeAudit

/-- Whether a key contains a word, both in lower case. -/
def mentions (key word : String) : Bool :=
  Search.occursIn (Lowercase.ofString word) (Lowercase.ofString key)

namespace Node

/-- The string keys of a dictionary that mention none of some words. -/
def unpolicedKeys (dict : Node) (words : List String) : List String :=
  match dict.shape with
  | .dict keys _ =>
    (keys.filterMap fun key => key.bind asStr?).filter fun key =>
      !words.any fun word => mentions key word
  | _ => []

/-- Whether a node is a given truth value. -/
def isBool (n : Node) (b : Bool) : Bool :=
  match n.shape with
  | .constant (.bool v) => v == b
  | _ => false

/-- The words that are mentioned by a key whose value is literally true, in increasing order. -/
def grantedPolicies (dict : Node) (words : List String) : List String :=
  match dict.shape with
  | .dict keys values =>
    sortedDistinct <| (keys.zip values).flatMap fun entry =>
      match entry.1.bind asStr? with
      | some key => if entry.2.isBool true then words.filter (mentions key) else []
      | none => []
  | _ => []

end Node

end CodeAudit
