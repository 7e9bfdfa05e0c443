import Crosswalk.Text.CodePoints

/-! White space, as it is stripped from both ends of a text: the separators of Unicode and the
controls that count as one. -/

namespace Crosswalk.Text

def blankPoints : List CodePoint :=
  [0x9, 0xa, 0xb, 0xc, 0xd, 0x1c, 0x1d, 0x1e, 0x1f, 0x20, 0x85, 0xa0, 0x1680, 0x2000, 0x2001,
   0x2002, 0x2003, 0x2004, 0x2005, 0x2006, 0x2007, 0x2008, 0x2009, 0x200a, 0x2028, 0x2029, 0x202f,
   0x205f, 0x3000]

def isBlank (c : CodePoint) : Bool := blankPoints.contains c

def strip (t : List CodePoint) : List CodePoint := trim isBlank t

theorem isBlank_of_isWhitespace (c : Char) (h : c.isWhitespace = true) :
    isBlank c.toNat = true := by
  simp only [Char.isWhitespace, Bool.or_eq_true, decide_eq_true_eq] at h
  rcases h with ((rfl | rfl) | rfl) | rfl <;> rfl

end Crosswalk.Text
