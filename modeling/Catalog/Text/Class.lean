import Catalog.Text.Ranges
import Catalog.Text.Alphabetic
import Catalog.Text.Numeric
import Catalog.Text.Extending
import Catalog.Text.Printable

/-!
Classes of characters, each a test against one table.
-/

namespace Catalog.Text

def isAlphabetic (c : Char) : Bool := alphabetic.contains c

def isNumeric (c : Char) : Bool := numeric.contains c

def isAlphanumeric (c : Char) : Bool := isAlphabetic c || isNumeric c

/-- The character continues the one before it. -/
def isExtending (c : Char) : Bool := extending.contains c

def isPrintable (c : Char) : Bool := printable.contains c

/-! ### Blank ends of a text -/

def trimStart (cs : List Char) : List Char := cs.dropWhile isBlank

def trimEnd (cs : List Char) : List Char := (cs.reverse.dropWhile isBlank).reverse

/-- The text without the blanks at its two ends. -/
def trim (s : String) : String := String.ofList (trimEnd (trimStart s.toList))

def isBlankText (s : String) : Bool := s.toList.all isBlank

end Catalog.Text
