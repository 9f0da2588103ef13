import EditPlan.Text.Basic

/-!
Texts as bytes: UTF-8, which Unicode encoding a text in bytes has, and texts that an encoding cannot write.
-/

namespace EditPlan.Text

/-!
## UTF-8

Texts as bytes in UTF-8. Reading refuses nothing: the bytes of a sequence that cannot be completed stand for what the
reader says they stand for, one replacement character or a code point each. Writing is for code points that are no halves.
-/

/-! ### Reading -/

/-- how a sequence with this lead byte goes on: bits it contributes, number of further bytes, bounds of the second byte -/
def leadByte? (b : UInt8) : Option (Nat × Nat × Nat × Nat) :=
  let n := b.toNat
  if 0xc2 ≤ n ∧ n ≤ 0xdf then some (n - 0xc0, 1, 0x80, 0xbf)
  else if n = 0xe0 then some (0, 2, 0xa0, 0xbf)
  else if n = 0xed then some (0xd, 2, 0x80, 0x9f)
  else if 0xe1 ≤ n ∧ n ≤ 0xef then some (n - 0xe0, 2, 0x80, 0xbf)
  else if n = 0xf0 then some (0, 3, 0x90, 0xbf)
  else if n = 0xf4 then some (4, 3, 0x80, 0x8f)
  else if 0xf1 ≤ n ∧ n ≤ 0xf3 then some (n - 0xf0, 3, 0x80, 0xbf)
  else none

/-- a sequence that is being read: its bytes (last one first), their bits, bytes still missing, bounds of the next byte -/
structure Pending where
  taken : List UInt8
  bits : Nat
  missing : Nat
  low : Nat
  high : Nat

/-- code points in place of bytes that write none; both have the last one first -/
abbrev Substitute := List UInt8 → List Nat

/-- one replacement character for all the bytes -/
def replacement : Substitute := fun _ => [0xfffd]

/-- a byte as the half that stands for it -/
def byteHalf (b : UInt8) : Nat := 0xdc00 + b.toNat

/-- a half for each byte, from which the byte can be told again -/
def byteHalves : Substitute := fun bytes => bytes.map byteHalf

/-- one byte: what is read so far (last code point first) and the sequence that is open -/
def utf8Start (lost : Substitute) (read : List Nat) (b : UInt8) : List Nat × Option Pending :=
  if b.toNat < 0x80 then (b.toNat :: read, none)
  else match leadByte? b with
    | some (bits, missing, low, high) => (read, some ⟨[b], bits, missing, low, high⟩)
    | none => (lost [b] ++ read, none)

/-- one byte after what was read before it -/
def utf8Step (lost : Substitute) : List Nat × Option Pending → UInt8 → List Nat × Option Pending
  | (read, none), b => utf8Start lost read b
  | (read, some p), b =>
    if p.low ≤ b.toNat ∧ b.toNat ≤ p.high then
      let bits := p.bits * 0x40 + (b.toNat - 0x80)
      if p.missing ≤ 1 then (bits :: read, none)
      else (read, some ⟨b :: p.taken, bits, p.missing - 1, 0x80, 0xbf⟩)
    else utf8Start lost (lost p.taken ++ read) b

def utf8Points (lost : Substitute) (bytes : List UInt8) : List Nat :=
  let (read, open?) := bytes.foldl (utf8Step lost) ([], none)
  match open? with
  | some p => (lost p.taken ++ read).reverse
  | none => read.reverse

/-- text of bytes; what is not UTF-8 is replaced -/
def decodeUtf8 (bytes : List UInt8) : String := text (utf8Points replacement bytes)

/-! ### Writing -/

/-- byte of a sequence after the first one: six bits of a number, above its `shift` lowest ones -/
def tailByte (n shift : Nat) : UInt8 := UInt8.ofNat (0x80 + n / shift % 0x40)

def pointBytes (n : Nat) : List UInt8 :=
  if n < 0x80 then [UInt8.ofNat n]
  else if n < 0x800 then [UInt8.ofNat (0xc0 + n / 0x40), tailByte n 1]
  else if n < 0x10000 then [UInt8.ofNat (0xe0 + n / 0x1000), tailByte n 0x40, tailByte n 1]
  else [UInt8.ofNat (0xf0 + n / 0x40000), tailByte n 0x1000, tailByte n 0x40, tailByte n 1]

def encodeUtf8 (s : String) : List UInt8 := (codePoints s).flatMap pointBytes

/-!
## Finding the encoding

Which Unicode encoding a text in bytes has, by where its zero bytes are, and reading it. The rule works for texts that
begin with two ASCII characters other than the null character.
-/

/-- a Unicode encoding; words may have their high bytes first -/
inductive Encoding where
  | utf8
  | utf16 (highFirst : Bool)
  | utf32 (highFirst : Bool)
  deriving DecidableEq, Repr

def Encoding.ofBytes : List UInt8 → Encoding
  | [a, b] => if a = 0 then .utf16 true else if b = 0 then .utf16 false else .utf8
  | a :: b :: c :: d :: _ =>
    if a = 0 then if b = 0 then .utf32 true else .utf16 true
    else if b = 0 then if c = 0 ∧ d = 0 then .utf32 false else .utf16 false
    else .utf8
  | _ => .utf8

/-- number written by two bytes -/
def word16 (highFirst : Bool) (a b : UInt8) : Nat :=
  if highFirst then a.toNat * 0x100 + b.toNat else b.toNat * 0x100 + a.toNat

/-- bytes as words of two bytes -/
def words (highFirst : Bool) : List UInt8 → Option (List Nat)
  | [] => some []
  | [_] => none
  | a :: b :: r => (words highFirst r).map (word16 highFirst a b :: ·)

/-- words as numbers of two words each -/
def doubleWords (highFirst : Bool) : List Nat → Option (List Nat)
  | [] => some []
  | [_] => none
  | a :: b :: r => (doubleWords highFirst r).map ((if highFirst then a * 0x10000 + b else b * 0x10000 + a) :: ·)

/-- code points of UTF-16 units -/
def ofUnits : List Nat → List Nat
  | [] => []
  | [n] => [n]
  | h :: l :: r =>
    if 0xd800 ≤ h ∧ h ≤ 0xdbff ∧ 0xdc00 ≤ l ∧ l ≤ 0xdfff then
      (0x10000 + (h - 0xd800) * 0x400 + (l - 0xdc00)) :: ofUnits r
    else h :: ofUnits (l :: r)

/-- code points of bytes in an encoding, unless some bytes are left over or write no code point -/
def Encoding.decode? : Encoding → List UInt8 → Option (List Nat)
  | .utf8, bytes => some (utf8Points replacement bytes)
  | .utf16 highFirst, bytes => (words highFirst bytes).map ofUnits
  | .utf32 highFirst, bytes =>
    match (words highFirst bytes).bind (doubleWords highFirst) with
    | some ns => if ns.all isCodePoint then some ns else none
    | none => none

/-!
## What cannot be written

Texts that an encoding cannot write, and what is said about them. ASCII writes 128 code points; UTF-8 writes all but
halves of characters.
-/

/-- code points that an encoding cannot write, the first ones of their text -/
structure EncodingFault where
  encoding : String
  reason : String
  /-- number of code points before them -/
  position : Nat
  first : Nat
  /-- number of code points after the first one that are in one row with it -/
  further : Nat
  deriving DecidableEq, Repr

/-- wording of a fault: one code point is shown, several are counted -/
def EncodingFault.message (f : EncodingFault) : String :=
  let place :=
    if f.further = 0 then
      "character '" ++ String.ofList (numberEscape f.first) ++ "' in position " ++ toString f.position
    else "characters in position " ++ toString f.position ++ "-" ++ toString (f.position + f.further)
  "'" ++ f.encoding ++ "' codec can't encode " ++ place ++ ": " ++ f.reason

/-- an encoding that can write some code points -/
structure Repertoire where
  encoding : String
  reason : String
  writes : Nat → Bool
  /-- code points that end a row of those that cannot be written -/
  ends : Nat → Bool

/-- first code points that cannot be written -/
def Repertoire.firstFault? (e : Repertoire) (ns : List Nat) : Option EncodingFault :=
  match ns.dropWhile e.writes with
  | [] => none
  | n :: r => some ⟨e.encoding, e.reason, (ns.takeWhile e.writes).length, n, (r.takeWhile fun m => !e.ends m).length⟩

/-- first code points of a text that cannot be written -/
def Repertoire.fault? (e : Repertoire) (s : String) : Option EncodingFault := e.firstFault? (codePoints s)

/-- the code points of ASCII -/
def ascii : Repertoire := ⟨"ascii", "ordinal not in range(128)", fun n => n < 0x80, fun n => n < 0x80⟩

/-- the code points of UTF-8 -/
def utf8 : Repertoire := ⟨"utf-8", "surrogates not allowed", fun n => !isHalf n, fun n => !isHalf n⟩

/-- whether a code point stands for a byte that is no UTF-8 -/
def isByteHalf (n : Nat) : Bool := 0xdc80 ≤ n && n ≤ 0xdcff

/-- the code points of UTF-8 with halves in place of other bytes -/
def looseUtf8 : Repertoire := { utf8 with writes := fun n => !isHalf n || isByteHalf n }

end EditPlan.Text
