import Aggregation.Text.PrintableTable

/-
  Texts between quotation marks, as error messages and
  printed lists show them.

  Single marks are used unless the text holds a single mark
  and no double mark.  The mark in use and the backslash are
  escaped, and every character that does not print is
  written by its code.

  Key definitions include:
    * `isPrintable`
    * `escapeChar`
    * `quoted`
-/

------------------------------------------------------------
-- Printable Characters
------------------------------------------------------------

namespace Aggregation

namespace Text

/- Test for a character that prints as itself. -/
def isPrintable (character : Char) : Bool :=
  printableRanges.any fun (first, last) =>
    first ≤ character.toNat && character.toNat ≤ last

------------------------------------------------------------
-- Hexadecimal Numbers
------------------------------------------------------------

/- Lower-case hexadecimal digit of a number below sixteen. -/
def hexDigit (value : Nat) : Char :=
  if value < 10 then
    Char.ofNat (48 + value)
  else
    Char.ofNat (87 + value)

/- The last digits of a number, most significant first. -/
def hexDigits : Nat → Nat → List Char
  | 0, _ => []
  | width + 1, value =>
      hexDigits width (value / 16) ++ [hexDigit (value % 16)]

------------------------------------------------------------
-- Quoting
------------------------------------------------------------

/- Escape that names a character by its code. -/
def codeEscape (code : Nat) : List Char :=
  if code < 0x100 then
    '\\' :: 'x' :: hexDigits 2 code
  else if code < 0x10000 then
    '\\' :: 'u' :: hexDigits 4 code
  else
    '\\' :: 'U' :: hexDigits 8 code

/- One character as it stands between quotation marks. -/
def escapeChar (mark : Char) (character : Char) : List Char :=
  if character == mark || character == '\\' then
    ['\\', character]
  else if character == '\n' then
    ['\\', 'n']
  else if character == '\r' then
    ['\\', 'r']
  else if character == '\t' then
    ['\\', 't']
  else if isPrintable character then
    [character]
  else
    codeEscape character.toNat

/- Quotation mark that a text calls for. -/
def markFor (text : List Char) : Char :=
  if text.contains '\'' && !text.contains '"' then
    '"'
  else
    '\''

/- A text between quotation marks. -/
def quoted (text : String) : String :=
  let mark := markFor text.toList
  String.ofList
    (mark :: text.toList.flatMap (escapeChar mark) ++ [mark])

end Text

end Aggregation
