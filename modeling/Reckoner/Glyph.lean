/-
# Folding text to the characters of expressions

Before an expression is read, its text is brought to the normal form NFKC, which turns full-width
letters and digits into those of ASCII, and then the signs of the table below are replaced. Some of
them never survive the normal form and stand there so that the table is complete.

| signs | become |
| --- | --- |
| `×` `✕` `✖` `·` `・` | `*` |
| `÷` `／` | `/` |
| `−` `–` `—` | `-` |
| `％` | `%` |
| `＾` | `^` |
| `￥` `¥` | a backslash |
| `，` | `,` |
-/

import Reckoner.Text.Normal.Form

namespace Reckoner
namespace Glyph

/-- The signs and what they become. -/
def table : List (Char × Char) :=
  [('×', '*'), ('✕', '*'), ('✖', '*'), ('·', '*'), ('・', '*'), ('÷', '/'), ('／', '/'),
    ('−', '-'), ('–', '-'), ('—', '-'), ('％', '%'), ('＾', '^'), ('￥', '\\'), ('¥', '\\'),
    ('，', ',')]

/-- What a character becomes. -/
def replace (c : Char) : Char := (table.lookup c).getD c

/-- A text in normal form with its signs replaced. -/
def foldChars (cs : List Char) : List Char := (Text.normalForm cs).map replace

/-- A text in the characters of expressions. -/
def fold (text : String) : String := String.ofList (foldChars text.toList)

end Glyph
end Reckoner
