import TrackedSettings.Text.Extending
import TrackedSettings.Text.Ignorable
import TrackedSettings.Text.Unseen

/-! # Quoted text

A text in quotes, on one line and readable: a quote, a backslash and the control characters that
have a short form are written with a backslash. Any other character that could not be seen, or
would join the one before it, is written by its number.
-/

namespace TrackedSettings.Text

def numbered (c : Char) : String :=
  "\\u\x7b" ++ String.ofList (Nat.toDigits 16 c.toNat) ++ "\x7d"

def quotedChar (c : Char) : String :=
  if c = '"' then "\\\""
  else if c = '\\' then "\\\\"
  else if c = '\t' then "\\t"
  else if c = '\n' then "\\n"
  else if c = '\r' then "\\r"
  else if c = '\x00' then "\\0"
  else if isExtending c || isIgnorable c || isUnseen c then numbered c
  else String.singleton c

def quoted (s : String) : String :=
  "\"" ++ String.join (s.toList.map quotedChar) ++ "\""

end TrackedSettings.Text
