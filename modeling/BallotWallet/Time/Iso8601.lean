import BallotWallet.Number.Binary64
import BallotWallet.Text.Encoding
import BallotWallet.Time.Calendar

/-!
# Times as text

A moment may be written as a day of a month or of a week, with or without hyphens, followed by
any one character and a time of day with or without colons, a fraction and an offset from
universal time. The reader goes over the bytes of the text and knows, for the part it reads,
which byte stands behind it: the byte that starts the offset, or zero at the end of the text.
-/

namespace BallotWallet.Time

/-- Whether a byte is an ASCII digit. -/
def isDigitByte (b : UInt8) : Bool :=
  0x30 ≤ b && b ≤ 0x39

/-- The number written by the next `n` digits, and what follows them. -/
def takeDigits? (n : Nat) (bs : Bytes) : Option (Nat × Bytes) :=
  let ds := bs.take n
  if ds.length == n && ds.all isDigitByte then
    some (ds.foldl (fun m d => m * 10 + (d.toNat - 0x30)) 0, bs.drop n)
  else none

/-- The byte at place `i`, zero behind the end. -/
def byteAt (bs : Bytes) (i : Nat) : UInt8 :=
  bs.getD i 0

/-- Where the day ends and the character before the time of day stands. In the week notation
without hyphens the number of digits decides, since the times that follow come in pairs. -/
def dayLength? (bs : Bytes) : Option Nat :=
  let length := bs.length
  if length == 7 then some 7
  else if byteAt bs 4 == 0x2d then
    if byteAt bs 5 == 0x57 then
      if length < 8 then none
      else if 8 < length && byteAt bs 8 == 0x2d then
        if length == 9 then none
        else if 10 < length && isDigitByte (byteAt bs 10) then some 8
        else some 10
      else some 8
    else some 10
  else if byteAt bs 4 == 0x57 then
    let stop := 7 + ((bs.drop 7).takeWhile isDigitByte).length
    some (if stop < 9 then stop else if stop % 2 == 0 then 7 else 8)
  else some 8

/-- What follows a hyphen, if one is asked for. -/
def hyphen? (wanted : Bool) (bs : Bytes) : Option Bytes :=
  if !wanted then some bs
  else
    match bs with
    | 0x2d :: rest => some rest
    | _ => none

/-- The day at the front of a text, of which it takes `length` bytes. -/
def readDate? (length : Nat) (bs : Bytes) : Option Date := do
  let (year, rest) ← takeDigits? 4 bs
  let hyphens := byteAt rest 0 == 0x2d
  let rest := if hyphens then rest.drop 1 else rest
  if byteAt rest 0 == 0x57 then
    let (week, rest) ← takeDigits? 2 (rest.drop 1)
    if bs.length - rest.length < length then
      let rest ← hyphen? hyphens rest
      let (day, _) ← takeDigits? 1 rest
      Date.ofWeek? year week day
    else Date.ofWeek? year week 1
  else
    let (month, rest) ← takeDigits? 2 rest
    let rest ← hyphen? hyphens rest
    let (day, _) ← takeDigits? 2 rest
    some ⟨year, month, day⟩

/-- A time of day as read, and whether something was left over behind it. -/
abbrev Reading := TimeOfDay × Bool

/-- The fraction of a second, of which six digits count. -/
def readFraction? (t : TimeOfDay) (stop : UInt8) (bs : Bytes) : Option Reading := do
  let n := min 6 bs.length
  let (micro, rest) ← takeDigits? n bs
  let next := ((rest.dropWhile isDigitByte) ++ [stop]).headD 0
  some ({ t with micro := micro * tenTo ((6 - n : Nat) : Int) }, next != 0)

def TimeOfDay.withPart (t : TimeOfDay) (i n : Nat) : TimeOfDay :=
  if i == 0 then { t with hour := n }
  else if i == 1 then { t with minute := n }
  else { t with second := n }

/-- The parts of a time of day from number `3 - n` on; colons stand between them if one stands
behind the first. -/
def readParts? (stop : UInt8) : Nat → Bool → TimeOfDay → Bytes → Option Reading
  | 0, _, t, bs => readFraction? t stop bs
  | n + 1, colons, t, bs => do
    let i := 2 - n
    let (value, rest) ← takeDigits? 2 bs
    let t := t.withPart i value
    match rest with
    | [] => some (t, stop != 0)
    | c :: rest' =>
      let colons := if i == 0 then c == 0x3a else colons
      if rest'.isEmpty then some (t, c != 0)
      else if colons && c == 0x3a then readParts? stop n colons t rest'
      else if c == 0x2e || c == 0x2c then readFraction? t stop rest'
      else if !colons then readParts? stop n colons t (c :: rest')
      else none

/-- The time of day that the bytes `bs` in front of the byte `stop` stand for. -/
def readTime? (stop : UInt8) (bs : Bytes) : Option Reading :=
  readParts? stop 3 true ⟨0, 0, 0, 0⟩ bs

def startsOffset (b : UInt8) : Bool :=
  b == 0x2b || b == 0x2d || b == 0x5a

/-- The microseconds of an offset. An offset of less than a second is none at all. -/
def signedOffset (negative : Bool) (offset : TimeOfDay) : Int :=
  if offset.micros == offset.micro then 0
  else if negative then -(offset.micros : Int)
  else offset.micros

/-- A time of day and its offset in microseconds, zero if it names none. -/
def readTimeAndOffset? (bs : Bytes) : Option (TimeOfDay × Int) := do
  let front := bs.takeWhile (!startsOffset ·)
  match bs.drop front.length with
  | [] =>
    let (t, more) ← readTime? 0 front
    if more then none else some (t, 0)
  | sign :: rest =>
    let (t, _) ← readTime? sign front
    if sign == 0x5a then
      if byteAt rest 0 == 0 then some (t, 0) else none
    else
      let (offset, more) ← readTime? 0 rest
      if more then none else some (t, signedOffset (sign == 0x2d) offset)

def dayMicros : Int := 86400000000

/-- What follows one character in UTF-8. -/
def dropCharacter : Bytes → Bytes
  | [] => []
  | b :: bs =>
    if b < 0x80 then bs
    else if b &&& 0xf0 == 0xe0 then bs.drop 2
    else if b &&& 0xf0 == 0xf0 then bs.drop 3
    else bs.drop 1

/-- The microseconds since the start of 1970 at the moment that the bytes of a text stand for. A
moment without an offset is taken in universal time. -/
def readMoment? (bs : Bytes) : Option Int := do
  let length ← dayLength? bs
  let date ← readDate? length bs
  let (time, offset) ← if length < bs.length then
      readTimeAndOffset? (dropCharacter (bs.drop length))
    else some (⟨0, 0, 0, 0⟩, 0)
  if date.isValid && time.isValid && offset.natAbs < dayMicros.natAbs then
    some (((date.ordinal : Int) - unixEpoch) * dayMicros + time.micros - offset)
  else none

/-- The text with a `T` for half of a surrogate pair where a time of day may start. Any code point
may stand there; all others of a moment must be characters. -/
def mendSeparator (t : Text) : Text :=
  let isHalf (i : Nat) : Bool := ((t.points[i]?).any fun p => p.char?.isNone)
  match [7, 8, 10].find? isHalf with
  | some i => ⟨t.points.set i (.char 'T')⟩
  | none => t

/-- The microseconds since the start of 1970 at the moment that a text stands for. -/
def parseMicros? (t : Text) : Option Int :=
  (Text.toUtf8? (mendSeparator t)).bind readMoment?

/-- The seconds since the start of 1970 at the moment that a text stands for. -/
def parse? (t : Text) : Option Binary64 :=
  (parseMicros? t).map fun n => Binary64.ofRatio (n < 0) n.natAbs 1000000

def million : Binary64 := Binary64.ofInt 1000000

/-- The whole microseconds nearest to a number of seconds. The fraction of a second is scaled on
its own, so that it loses nothing to the seconds. -/
def nearestMicros? (seconds : Binary64) : Option Int := do
  let whole ← seconds.truncate?
  let fraction := seconds.sub (Binary64.ofInt whole)
  let micros ← (fraction.mul million).nearest?
  some (whole * 1000000 + micros)

/-- The day and the time of day in universal time at a number of microseconds since the start of
1970, if the calendar reaches that far. -/
def atMicros? (micros : Int) : Option (Date × TimeOfDay) :=
  let day := micros.fdiv dayMicros + unixEpoch
  if day < 1 || (daysBeforeYear 10000 : Int) < day then none
  else some (Date.ofOrdinal day.toNat, TimeOfDay.ofMicros (micros.fmod dayMicros).toNat)

end BallotWallet.Time
