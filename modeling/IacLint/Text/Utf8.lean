/-!
# UTF-8 with replacement, and line-break unification

Files and program output are bytes; they are read as UTF-8 text in which every ill-formed
part becomes the replacement character `U+FFFD`. An ill-formed part is a *maximal
subpart*: the longest start of a well-formed sequence, or a single byte when no
sequence starts there. So a truncated three-byte sequence gives one replacement
character, and each byte of an encoded surrogate gives one.

Read as text, `\r\n` and a lone `\r` both become `\n`.

## Main definitions

* `encodeChar`, `encode` — the UTF-8 bytes of characters and text
* `sequenceAt` — the width of the sequence or maximal subpart a byte string starts with
* `decodeLossy` — bytes as text with replacement characters
* `decodeStrict?` — well-formed bytes as text
* `decodeComplaint?` — the complaint about the first ill-formed part, if any
* `unifyBreaks` — `\r\n` and `\r` as `\n`
* `readText` — bytes as text, the way a file is read
-/

namespace IacLint.Text

/-- The UTF-8 bytes of a character. -/
def encodeChar (c : Char) : List UInt8 :=
  let n := c.toNat
  if n < 0x80 then [n.toUInt8]
  else if n < 0x800 then [(0xC0 + n / 64).toUInt8, (0x80 + n % 64).toUInt8]
  else if n < 0x10000 then
    [(0xE0 + n / 4096).toUInt8, (0x80 + n / 64 % 64).toUInt8, (0x80 + n % 64).toUInt8]
  else
    [(0xF0 + n / 262144).toUInt8, (0x80 + n / 4096 % 64).toUInt8,
     (0x80 + n / 64 % 64).toUInt8, (0x80 + n % 64).toUInt8]

/-- The UTF-8 bytes of a text. -/
def encode (s : String) : List UInt8 := s.toList.flatMap encodeChar

/-- Whether a byte continues a sequence. -/
def isContinuation (b : UInt8) : Bool := 0x80 ≤ b.toNat && b.toNat ≤ 0xBF

/-- The range the second byte of a sequence must lie in, given its first byte: narrower
after `E0`, `ED`, `F0` and `F4`, which excludes overlong forms, surrogates and code
points past `U+10FFFF`. -/
def secondRange (lead : Nat) : Nat × Nat :=
  if lead = 0xE0 then (0xA0, 0xBF)
  else if lead = 0xED then (0x80, 0x9F)
  else if lead = 0xF0 then (0x90, 0xBF)
  else if lead = 0xF4 then (0x80, 0x8F)
  else (0x80, 0xBF)

/-- The length of the sequence a first byte announces, or 0 for a byte that starts none. -/
def announcedLength (lead : Nat) : Nat :=
  if lead < 0x80 then 1
  else if 0xC2 ≤ lead ∧ lead ≤ 0xDF then 2
  else if 0xE0 ≤ lead ∧ lead ≤ 0xEF then 3
  else if 0xF0 ≤ lead ∧ lead ≤ 0xF4 then 4
  else 0

/-- How many of the bytes after the first continue its sequence: the second within its
range, the later ones within `80..BF`, at most `want` of them. -/
def continuing (lead : Nat) (want : Nat) : List UInt8 → Nat
  | [] => 0
  | b :: rest =>
    let (lo, hi) := secondRange lead
    if want = 0 ∨ b.toNat < lo ∨ hi < b.toNat then 0
    else 1 + ((rest.take (want - 1)).takeWhile isContinuation).length

/-- The sequence at the head of some bytes: `(true, n)` for a well-formed sequence of
`n` bytes, `(false, n)` for a maximal ill-formed subpart of `n` bytes. -/
def sequenceAt : List UInt8 → Bool × Nat
  | [] => (false, 1)
  | b :: rest =>
    let len := announcedLength b.toNat
    if len = 0 then (false, 1)
    else
      let k := continuing b.toNat (len - 1) rest
      if k + 1 = len then (true, len) else (false, k + 1)

theorem sequenceAt_pos (bs : List UInt8) : 1 ≤ (sequenceAt bs).2 := by
  unfold sequenceAt
  split
  · simp
  · simp only
    split
    · simp
    · split
      · simp only; omega
      · simp

/-- The code point of a well-formed sequence. -/
def codePoint (bs : List UInt8) : Nat :=
  match bs with
  | [a] => a.toNat
  | [a, b] => (a.toNat % 32) * 64 + b.toNat % 64
  | [a, b, c] => (a.toNat % 16) * 4096 + (b.toNat % 64) * 64 + c.toNat % 64
  | [a, b, c, d] =>
    (a.toNat % 8) * 262144 + (b.toNat % 64) * 4096 + (c.toNat % 64) * 64 + d.toNat % 64
  | _ => 0xFFFD

/-- Bytes as characters, each ill-formed part replaced by `U+FFFD`. -/
def decodeChars (bs : List UInt8) : List Char :=
  match bs with
  | [] => []
  | b :: rest =>
    let r := sequenceAt (b :: rest)
    let c := if r.1 then Char.ofNat (codePoint ((b :: rest).take r.2)) else '\uFFFD'
    c :: decodeChars ((b :: rest).drop r.2)
termination_by bs.length
decreasing_by
  have := sequenceAt_pos (b :: rest)
  simp only [List.length_drop, List.length_cons] at *
  omega

/-- Bytes as text, each ill-formed part replaced by `U+FFFD`. -/
def decodeLossy (bs : List UInt8) : String := String.ofList (decodeChars bs)

/-- Well-formed UTF-8 bytes as text, or `none` when some part is ill-formed. -/
def decodeStrict? (bs : List UInt8) : Option String :=
  let t := decodeLossy bs
  if encode t == bs then some t else none

/-- Two lower-case hexadecimal digits of a byte. -/
def hexByte (b : Nat) : String :=
  let digit (d : Nat) : Char := if d < 10 then Char.ofNat (48 + d) else Char.ofNat (87 + d)
  String.ofList [digit (b / 16 % 16), digit (b % 16)]

/-- The complaint about an ill-formed part from `start` to before `stop`. -/
def decodeComplaintText (bs : List UInt8) (start stop : Nat) (reason : String) : String :=
  if stop = start + 1 then
    "'utf-8' codec can't decode byte 0x" ++ hexByte (bs.getD start 0).toNat ++ " in position " ++
      toString start ++ ": " ++ reason
  else
    "'utf-8' codec can't decode bytes in position " ++ toString start ++ "-" ++ toString (stop - 1) ++
      ": " ++ reason

/-- The first ill-formed part of some bytes from position `pos` on: its start, end and
reason. A byte that starts no sequence is an invalid start byte; a sequence cut short
by the end of the bytes is an unexpected end of data; any other maximal subpart ends
at an invalid continuation byte. -/
def firstIllFormed (pos : Nat) : List UInt8 → Option (Nat × Nat × String)
  | [] => none
  | b :: rest =>
    let r := sequenceAt (b :: rest)
    if r.1 then firstIllFormed (pos + r.2) ((b :: rest).drop r.2)
    else if announcedLength b.toNat = 0 then some (pos, pos + 1, "invalid start byte")
    else if r.2 = (b :: rest).length then some (pos, pos + r.2, "unexpected end of data")
    else some (pos, pos + r.2, "invalid continuation byte")
termination_by bs => bs.length
decreasing_by
  have := sequenceAt_pos (b :: rest)
  simp only [List.length_drop, List.length_cons] at *
  omega

/-- The complaint of a strict decoder about some bytes, or `none` when they are
well-formed UTF-8. -/
def decodeComplaint? (bs : List UInt8) : Option String :=
  (firstIllFormed 0 bs).map fun (start, stop, reason) => decodeComplaintText bs start stop reason

/-- Characters with `\r\n` and every other `\r` turned into `\n`. -/
def unifyBreaks : List Char → List Char
  | '\r' :: '\n' :: rest => '\n' :: unifyBreaks rest
  | '\r' :: rest => '\n' :: unifyBreaks rest
  | c :: rest => c :: unifyBreaks rest
  | [] => []

/-- Bytes read as text: decoded with replacement, line breaks unified. -/
def readText (bs : List UInt8) : String := String.ofList (unifyBreaks (decodeChars bs))

end IacLint.Text
