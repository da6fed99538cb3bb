import RuleCap.Text.Hidden
import RuleCap.Text

/-!
# Quoted texts

How a text is shown inside a message: between double quotes, with a backslash before a quote and a backslash, letters
for the common controls, and a hexadecimal number for every other character that does not show.
-/

namespace RuleCap.Quoted

/-- A character as it stands between quotes. -/
def encodeChar (c : Char) : Text :=
  if c = '\x00' then ['\\', '0']
  else if c = '\t' then ['\\', 't']
  else if c = '\r' then ['\\', 'r']
  else if c = '\n' then ['\\', 'n']
  else if c = '"' ∨ c = '\\' then ['\\', c]
  else if isHidden c then '\\' :: 'u' :: '\x7B' :: (Nat.toDigits 16 c.toNat ++ ['\x7D'])
  else [c]

/-- **A text between double quotes.** -/
def encode (t : Text) : Text :=
  '"' :: (t.flatMap encodeChar ++ ['"'])

/-- A list of texts, each quoted, between brackets. -/
def encodeList (ts : List Text) : Text :=
  '[' :: (List.intercalate [',', ' '] (ts.map encode) ++ [']'])

example : String.ofList (encode "a\"b\\\n\x7F'é".toList) = "\"a\\\"b\\\\\\n\\u\x7B7f\x7D'é\"" := by
  decide +kernel

example : String.ofList (encodeList ["x".toList, []]) = "[\"x\", \"\"]" := by
  decide +kernel

end RuleCap.Quoted
