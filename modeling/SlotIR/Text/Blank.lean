/-
  SlotIR.Text.Blank
  ─────────────────
  **WHITE SPACE AT THE ENDS OF A TEXT.**

  Two classes are in use.  A numeral may stand between SPACING characters;
  a message is trimmed of every BLANK, which are the spacing characters
  and the four information separators U+001C … U+001F.
-/
namespace SlotIR.Text

/-! ## §1. The classes. -/

/-- The code points of the spacing characters, as closed ranges. -/
def spacingRanges : List (Nat × Nat) :=
  [(0x09, 0x0D), (0x20, 0x20), (0x85, 0x85), (0xA0, 0xA0), (0x1680, 0x1680), (0x2000, 0x200A),
   (0x2028, 0x2029), (0x202F, 0x202F), (0x205F, 0x205F), (0x3000, 0x3000)]

/-- A character that may surround a numeral. -/
def isSpacing (c : Char) : Bool :=
  spacingRanges.any fun range => range.1 ≤ c.toNat && c.toNat ≤ range.2

/-- A character that trimming removes: a spacing character or an information separator. -/
def isBlank (c : Char) : Bool :=
  isSpacing c || (0x1C ≤ c.toNat && c.toNat ≤ 0x1F)

/-! ## §2. Trimming. -/

/-- Drop the characters of a class from both ends. -/
def trimBy (p : Char → Bool) (cs : List Char) : List Char :=
  ((cs.dropWhile p).reverse.dropWhile p).reverse

@[simp] theorem trimBy_nil (p : Char → Bool) : trimBy p [] = [] := rfl

/-- A text without its leading and trailing blanks. -/
def trim (s : String) : String :=
  String.ofList (trimBy isBlank s.toList)

/-! ## §3. Line ends. -/

/-- Every line end of two characters, and every lone carriage return, becomes a line feed. -/
def unifyLineEnds : List Char → List Char
  | '\r' :: '\n' :: rest => '\n' :: unifyLineEnds rest
  | '\r' :: rest => '\n' :: unifyLineEnds rest
  | c :: rest => c :: unifyLineEnds rest
  | [] => []

example : unifyLineEnds "a\r\nb\rc\n".toList = "a\nb\nc\n".toList := by decide

end SlotIR.Text
