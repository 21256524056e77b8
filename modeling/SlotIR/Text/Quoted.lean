/-
  SlotIR.Text.Quoted
  ──────────────────
  **A TEXT BETWEEN QUOTES.**

  Messages show a text between single quotes, or between double quotes if
  it holds a single quote and no double one.  Inside,

      the quote in use and the backslash  get a backslash,
      tab, line feed, carriage return     are written  \t  \n  \r,
      any other hidden character          is written by its code point, as
                                          \xhh, \uhhhh or \Uhhhhhhhh,

  and a printable character is written as it is.
-/
import SlotIR.Text.Printable

namespace SlotIR.Text

/-! ## §1. Hexadecimal digits. -/

/-- The lower-case hexadecimal digit of `d < 16`. -/
def hexDigit (d : Nat) : Char :=
  if d < 10 then Char.ofNat (48 + d) else Char.ofNat (87 + d)

/-- A number in the given count of hexadecimal digits, the most significant first; higher digits
are left out. -/
def hexText (width n : Nat) : List Char :=
  (List.range width).reverse.map fun place => hexDigit (n / Nat.pow 16 place % 16)

@[simp] theorem hexText_length (width n : Nat) : (hexText width n).length = width := by
  unfold hexText
  rw [List.length_map, List.length_reverse, List.length_range]

example : hexText 4 0x200B = ['2', '0', '0', 'b'] := by decide

/-! ## §2. One character. -/

/-- A hidden character, written by its code point in the shortest of three widths. -/
def escapeByCode (c : Char) : List Char :=
  if c.toNat < 0x100 then '\\' :: 'x' :: hexText 2 c.toNat
  else if c.toNat < 0x10000 then '\\' :: 'u' :: hexText 4 c.toNat
  else '\\' :: 'U' :: hexText 8 c.toNat

/-- A character as it stands between two quotes of the given kind. -/
def quoteChar (quote c : Char) : List Char :=
  if c = quote || c = '\\' then ['\\', c]
  else if c = '\t' then ['\\', 't']
  else if c = '\n' then ['\\', 'n']
  else if c = '\r' then ['\\', 'r']
  else if isPrintable c then [c]
  else escapeByCode c

/-! ## §3. A whole text. -/

/-- The quote that a text is put between: the double one only where it saves an escape. -/
def quoteFor (cs : List Char) : Char :=
  if cs.contains '\'' && !cs.contains '"' then '"' else '\''

/-- The characters of a quoted text. -/
def quotedChars (cs : List Char) : List Char :=
  quoteFor cs :: cs.flatMap (quoteChar (quoteFor cs)) ++ [quoteFor cs]

/-- A text between quotes. -/
def quoted (s : String) : String :=
  String.ofList (quotedChars s.toList)

example : quoted "%" = "'%'" := by decide +kernel
example : quoted "it's" = "\"it's\"" := by decide +kernel
example : quoted "a\n\x00" = "'a\\n\\x00'" := by decide +kernel

end SlotIR.Text
