import Stencil.Path
import Stencil.Text.Utf8

/-!
Telling binary files from text, by the extension of the name or by the content.
-/

namespace Stencil.Binary

def extensions : List String :=
  ["png", "jpg", "jpeg", "gif", "bmp", "ico", "pdf", "zip", "gz", "tar", "tgz", "xz", "rar",
    "7z", "exe", "dll", "so"]

/-- The letters A to Z of a text made small. -/
def lowerAscii (text : String) : String := String.ofList (text.toList.map Char.toLower)

/-- Whether the extension is a binary file's, in either case. -/
def hasExtension (path : Path) : Bool :=
  match path.extension? with
  | some extension => extensions.contains (lowerAscii extension)
  | none => false

/-- Whether a byte is a control other than a tab or the end of a line. -/
def isControl (b : UInt8) : Bool :=
  b != 9 && b != 10 && b != 13 && (b < 0x20 || b == 0x7F)

/-- Whether a content looks binary: it has a zero byte, or it is text with more than eight
control bytes, or it is no text and has more than sixteen bytes beyond ASCII. -/
def isContent (content : Bytes) : Bool :=
  if content.contains 0 then true
  else if Text.Utf8.isValid content then 8 < content.countP isControl
  else 16 < content.countP (0x80 ≤ ·)

def isFile (path : Path) (content : Bytes) : Bool := hasExtension path || isContent content

end Stencil.Binary
