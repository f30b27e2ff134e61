import KernelLaunch.Text.Hidden

/-!
# Quoted text

A quoted text stands between double quotes.  Inside, a quote and a backslash are
preceded by a backslash, the common control characters have letters of their own,
and any other hidden character is shown by its number in hexadecimal.
-/

namespace KernelLaunch
namespace Text

/-- A character as it is shown inside quotes. -/
def escaped (c : Char) : List Char :=
  if c = '\x00' then ['\\', '0']
  else if c = '\t' then ['\\', 't']
  else if c = '\r' then ['\\', 'r']
  else if c = '\n' then ['\\', 'n']
  else if c = '"' then ['\\', '"']
  else if c = '\\' then ['\\', '\\']
  else if isHidden c then
    '\\' :: 'u' :: '\x7b' :: (Nat.toDigits 16 c.toNat ++ ['\x7d'])
  else [c]

/-- A text between quotes. -/
def quoted (cs : List Char) : List Char :=
  '"' :: (cs.flatMap escaped ++ ['"'])

end Text
end KernelLaunch
