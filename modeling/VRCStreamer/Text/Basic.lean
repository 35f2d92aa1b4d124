import Mathlib.Algebra.GroupWithZero.Nat
import Mathlib.Data.List.DropRight
import Mathlib.Data.List.Infix

/-!
# Text

Strings as lists of characters, with the operations of Rust's `str` that the server
uses: searching and splitting, ASCII letter case, trimming, and numerals.
-/

namespace VRCStreamer

abbrev Text := List Char

namespace Text

/-! ## Searching and splitting -/

/-- `split_once`: what stands before and after the first occurrence of a pattern. -/
def splitOnce (pattern : Text) : Text → Option (Text × Text)
  | [] => if pattern = [] then some ([], []) else none
  | c :: text =>
    if pattern <+: c :: text then some ([], (c :: text).drop pattern.length)
    else (splitOnce pattern text).map (fun parts => (c :: parts.1, parts.2))

/-- `contains`. -/
def contains (pattern text : Text) : Bool := (splitOnce pattern text).isSome

/-- `split(separators).next()`. -/
def firstPiece (separators text : Text) : Text := text.takeWhile (fun c => c ∉ separators)

/-- `rsplit(separator).next()`. -/
def lastPiece (separator : Char) (text : Text) : Text := text.rtakeWhile (fun c => c ≠ separator)

/-! ## Letter case and white space -/

/-- `to_ascii_lowercase`. -/
def toAsciiLowercase (text : Text) : Text := text.map Char.toLower

/-- `to_ascii_uppercase`. -/
def toAsciiUppercase (text : Text) : Text := text.map Char.toUpper

def eqIgnoreAsciiCase (left right : Text) : Bool :=
  toAsciiLowercase left = toAsciiLowercase right

/-- `char::is_whitespace`: the property `White_Space` of Unicode. -/
def isWhitespace (c : Char) : Bool :=
  let code := c.toNat
  (0x9 ≤ code && code ≤ 0xD) || code == 0x20 || code == 0x85 || code == 0xA0 ||
    code == 0x1680 || (0x2000 ≤ code && code ≤ 0x200A) || code == 0x2028 || code == 0x2029 ||
    code == 0x202F || code == 0x205F || code == 0x3000

def trim (text : Text) : Text := (text.dropWhile isWhitespace).rdropWhile isWhitespace

/-- `split_whitespace`. -/
def splitWhitespace (text : Text) : List Text :=
  (text.splitOnP isWhitespace).filter (fun piece => piece ≠ [])

/-! ## Numerals -/

/-- `parse` into an unsigned integer type whose values lie below the bound: an optional
plus sign, then at least one digit. -/
def parseUnsigned (bound : Nat) (text : Text) : Option Nat :=
  let digits := if text.head? = some '+' then text.tail else text
  let value := digits.foldl (fun value digit => 10 * value + (digit.toNat - '0'.toNat)) 0
  if digits ≠ [] ∧ digits.all Char.isDigit ∧ value < bound then some value else none

def parseU8 (text : Text) : Option UInt8 := (parseUnsigned 256 text).map UInt8.ofNat

/-- `parse` into a `usize` of 64 bits. -/
def parseUsize (text : Text) : Option Nat := parseUnsigned (2 ^ 64) text

def decimal (n : Nat) : Text := Nat.toDigits 10 n

/-- Lower-case hexadecimal, padded with zeros. -/
def hex (width n : Nat) : Text := (Nat.toDigits 16 n).leftpad width '0'

/-- Upper-case hexadecimal, padded with zeros. -/
def upperHex (width n : Nat) : Text := (hex width n).map Char.toUpper

/-- Lines, each with its line break. -/
def crlfLines (lines : List Text) : Text := lines.flatMap (fun line => line ++ ['\r', '\n'])

end Text

end VRCStreamer
