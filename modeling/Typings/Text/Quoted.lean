import Typings.Text.Category

/-!
# Quoted Text

A text between double quotes, written so that it stays on one line and shows
every character it holds. Quote and backslash are escaped, the common control
characters have names, and a character that would not be visible by itself,
or would join the one before it, is written by its number.

## Main definitions

* `quotedChar`: How one character is written.
* `quoted`: The whole literal, with its quotes.
-/

namespace Typings

namespace Text

/-- The digits of a number in hexadecimal, without leading zeros. -/
def hexDigits (n : Nat) : List Char :=
  Nat.toDigits 16 n

/-- A character written by its number. -/
def numberedChar (c : Char) : List Char :=
  ['\\', 'u', '\x7b'] ++ hexDigits c.toNat ++ ['\x7d']

/-- How one character is written inside the quotes. -/
def quotedChar (c : Char) : List Char :=
  if c = '"' then ['\\', '"']
  else if c = '\\' then ['\\', '\\']
  else if c = '\n' then ['\\', 'n']
  else if c = '\r' then ['\\', 'r']
  else if c = '\t' then ['\\', 't']
  else if c = '\x00' then ['\\', '0']
  else if extendsGrapheme c || !isPrintable c then numberedChar c
  else [c]

/-- A text as a literal between double quotes. -/
def quoted (text : String) : String :=
  String.ofList ('"' :: text.toList.flatMap quotedChar ++ ['"'])

end Text

end Typings
