import MediaHash.Encoding.Utf8
import MediaHash.Encoding.Utf16

/-!
# Text marked with its encoding

The first bytes of a file may say how it is encoded: EF BB BF stands for
UTF-8, FF FE for little-endian and FE FF for big-endian UTF-16.  A file
without such a mark is UTF-8.  The mark is not part of the text.
-/

namespace MediaHash.Encoding

/-- Why marked bytes cannot be read. -/
inductive Fault where
  | utf8 (fault : Utf8Fault)
  | utf16 (fault : Utf16Fault)
deriving DecidableEq, Repr

/-- A description of the fault. -/
def Fault.message : Fault → String
  | .utf8 fault => "invalid UTF-8: " ++ fault.message
  | .utf16 .truncated => "truncated UTF-16 data"
  | .utf16 .loneSurrogate =>
      "invalid UTF-16: invalid utf-16: lone surrogate found"

/-- The text that the bytes spell in the encoding that they are marked with. -/
def readMarked : List UInt8 → Except Fault String
  | 0xEF :: 0xBB :: 0xBF :: rest => (readUtf8 rest).mapError .utf8
  | 0xFF :: 0xFE :: rest => (readUtf16 .littleEndian rest).mapError .utf16
  | 0xFE :: 0xFF :: rest => (readUtf16 .bigEndian rest).mapError .utf16
  | bytes => (readUtf8 bytes).mapError .utf8

end MediaHash.Encoding
