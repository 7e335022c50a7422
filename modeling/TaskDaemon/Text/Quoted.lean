import TaskDaemon.Text.Unseen

/-!
# Text quoted for a reader

Messages show text that was refused in quotes, with everything escaped that a reader could not see.

* `TaskDaemon.Quoted.escape`: how one character is shown;
* `TaskDaemon.Quoted.text`: a string in quotes.
-/

namespace TaskDaemon

namespace Quoted

/-- The lower-case hexadecimal digits of a number. -/
def hexDigits (n : Nat) : List Char :=
  Nat.toDigits 16 n

/-- **One character inside quotes.** -/
def escape (c : Char) : List Char :=
  if c = '"' then ['\\', '"']
  else if c = '\\' then ['\\', '\\']
  else if c = '\n' then ['\\', 'n']
  else if c = '\r' then ['\\', 'r']
  else if c = '\t' then ['\\', 't']
  else if c.toNat = 0 then ['\\', '0']
  else if Unseen.holds c then ['\\', 'u', '\x7b'] ++ hexDigits c.toNat ++ ['\x7d']
  else [c]

/-- **A string in quotes.** -/
def text (s : String) : String :=
  String.ofList ('"' :: s.toList.flatMap escape ++ ['"'])

end Quoted

end TaskDaemon
