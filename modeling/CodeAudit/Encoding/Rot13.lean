/-!
# Letters turned by thirteen places

Every ASCII letter is replaced by the one thirteen places on, in its own case. Turning twice gives
the text back.
-/

namespace CodeAudit.Rot13

/-- A letter turned by thirteen places; any other character as it is. -/
def turn (c : Char) : Char :=
  if 'a' ≤ c ∧ c ≤ 'z' then Char.ofNat ((c.toNat - 97 + 13) % 26 + 97)
  else if 'A' ≤ c ∧ c ≤ 'Z' then Char.ofNat ((c.toNat - 65 + 13) % 26 + 65)
  else c

/-- A text with every letter turned. -/
def decode (text : List Char) : List Char := text.map turn

end CodeAudit.Rot13
