import Reprint.Text.Word

/-!
# Characters that can be shown

Control and format characters, separators other than the space, private and
unassigned code points have no picture of their own.  Characters that extend
the one before them have none on their own either.

The tables of categories are those of one edition of the character set.  What
can be shown, and what is a letter in a name, follows the next edition, whose
new characters are listed here.
-/

namespace Reprint.Text

/-- The new characters with a picture of their own. -/
def newlyShown : Ranges := .ofLines [
  "88f c5c cdc 20c1 2b96 a7ce-a7cf a7d2 a7d4 a7f1 fbc3-fbd2 fd90-fd91 fdc8-fdce 10940-10959",
  "10ec5-10ec7 10ed0-10ed8 11b61 11b65 11b67 11db0-11ddb 11de0-11de9 16ea0-16eb8 16ebb-16ed3",
  "16ff2-16ff6 187f8-187ff 18d09-18d1e 18d80-18df2 1ccfa-1ccfc 1ceba-1ced0 1cee0-1cef0",
  "1e6c0-1e6de 1e6e0-1e6e2 1e6e4-1e6e5 1e6e7-1e6ed 1e6f0-1e6f4 1e6fe-1e6ff 1f6d8 1f777-1f77a",
  "1f8d0-1f8d8 1fa54-1fa57 1fa8a 1fa8e 1fac8 1facd 1faea 1faef 1fbfa 2b73a-2b73f 2cea2-2cead",
  "323b0-33479"]

/-- The new alphabetic characters. -/
def newlyAlphabetic : Ranges := .ofLines [
  "88f c5c cdc a7ce-a7cf a7d2 a7d4 a7f1 10940-10959 10ec5-10ec7 10efa-10efb 11b60-11b67",
  "11db0-11ddb 16ea0-16eb8 16ebb-16ed3 16ff2-16ff6 187f8-187ff 18d09-18d1e 18d80-18df2",
  "1e6c0-1e6de 1e6e0-1e6f5 1e6fe-1e6ff 2b73a-2b73f 2cea2-2cead 323b0-33479"]

/-- The new numbers. -/
def newlyNumeric : Ranges := .ofLines ["11de0-11de9 16ff4-16ff6"]

/-- The characters that extend the one before them without being such marks. -/
def otherExtending : Ranges := .ofLines [
  "9be 9d7 b3e b57 bbe bd7 cc0 cc2 cc7-cc8 cca-ccb cd5-cd6 d3e d57 dcf ddf 1715 1734 1b35 1b3b",
  "1b3d 1b43-1b44 1baa 1bf2-1bf3 200c 302e-302f a953 a9c0 ff9e-ff9f 111c0 11235 1133e 1134d",
  "11357 113b8 113c2 113c5 113c7-113c9 113cf 114b0 114bd 115af 116b6 11930 1193d 11f41",
  "16ff0-16ff1 1d165-1d166 1d16d-1d172 e0020-e007f"]

/-- Letters that fill a place and show nothing. -/
def fillers : Ranges := .ofLines ["115f-1160 3164 ffa0"]

/-- The voiced sound marks of half width, which are shown although they extend. -/
def halfWidthMarks : Ranges := .ofLines ["ff9e-ff9f"]

/-- The code points without a picture, but for the space. -/
def hidden : Ranges :=
  (Ranges.unions [
    controls, formats, privateUse, unassigned, separators, nonspacingMarks, enclosingMarks,
    otherExtending, fillers]).diff (halfWidthMarks.union newlyShown)

/-- Whether a character can be shown on its own. -/
def isPrintable (c : Char) : Bool :=
  if c.toNat < 128 then 32 ≤ c.toNat && c.toNat < 127 else !hidden.contains c.toNat

/-- The characters that a name may begin with. -/
def isAlphabetic (c : Char) : Bool :=
  if c.toNat < 128 then c.isAlpha
  else alphabetic.contains c.toNat || newlyAlphabetic.contains c.toNat

/-- Whether a character is a number of any kind. -/
def isNumeric (c : Char) : Bool :=
  if c.toNat < 128 then c.isDigit
  else numbers.contains c.toNat || newlyNumeric.contains c.toNat

end Reprint.Text
