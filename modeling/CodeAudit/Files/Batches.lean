/-!
# Batches

What a search finds is handed on in batches. A batch is handed on as soon as it is full, and when the
search is over so is the one that has not become full.
-/

namespace CodeAudit

/-- The number of items in a full batch. -/
def batchSize : Nat := 8

/-- Items that are handed on in batches. -/
structure Batcher (α : Type) where
  /-- The batches handed on so far, the first one first. -/
  sent : List (List α)
  /-- The batch that is not handed on yet. -/
  batch : List α

namespace Batcher

variable {α : Type}

/-- Hands on the present batch, if something is in it. -/
def flush (b : Batcher α) : Batcher α :=
  if b.batch.isEmpty then b else { sent := b.sent ++ [b.batch], batch := [] }

/-- Adds an item to the present batch. -/
def push (b : Batcher α) (item : α) : Batcher α :=
  let b := { b with batch := b.batch ++ [item] }
  if b.batch.length = batchSize then b.flush else b

/-- The batches that some items come in. -/
def batches (items : List α) : List (List α) := (items.foldl push ⟨[], []⟩).flush.sent

end Batcher

end CodeAudit
