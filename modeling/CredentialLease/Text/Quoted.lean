import CredentialLease.Text.Unprintable

/-!
# Texts in quotes, as diagnostics show them

A quoted text stands between double quotes. The double quote, the backslash, the null character,
tab, line feed and carriage return are escaped with a backslash and a letter; a character that
cannot be shown as itself is escaped by its code point in lower-case hexadecimal.
-/

namespace CredentialLease.Text

/-- The digits of a number in lower-case hexadecimal. -/
def hexDigits (n : Nat) : List Char := Nat.toDigits 16 n

/-- A character as it stands inside double quotes. -/
def quoteChar (c : Char) : List Char :=
  if c = Char.ofNat 0 then ['\\', '0']
  else if c = '\t' then ['\\', 't']
  else if c = '\r' then ['\\', 'r']
  else if c = '\n' then ['\\', 'n']
  else if c = '"' then ['\\', '"']
  else if c = '\\' then ['\\', '\\']
  else if unprintable.contains c then ['\\', 'u', '\x7b'] ++ hexDigits c.toNat ++ ['\x7d']
  else [c]

end CredentialLease.Text

namespace CredentialLease

/-- A string in double quotes, with escapes. -/
def quoted (s : String) : String :=
  String.ofList ('"' :: s.toList.flatMap Text.quoteChar ++ ['"'])

/-- The items of a list between brackets, separated by a comma and a space. -/
def bracketed (items : List String) : String :=
  "[" ++ String.intercalate ", " items ++ "]"

end CredentialLease
