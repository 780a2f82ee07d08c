import BallotWallet.Json.Writer
import BallotWallet.Log.Record
import BallotWallet.Time.Iso8601

/-!
# Log lines

A record is written for a program, as one JSON object, or for a reader, as a short line that may
be coloured. Times are in universal time. A number that is too long to be written spoils both.
-/

namespace BallotWallet.Log

/-- When a record was made. -/
structure Instant where
  day : Time.Date
  time : Time.TimeOfDay

/-- Why a number of seconds, which the calendar does not reach, is no instant. It is too large
for 64 bits, or its year is too large for 32 bits, or it is merely not in the calendar. -/
def whyNoInstant (seconds : Int) : Failure :=
  if seconds < -9223372036854775808 || 9223372036854775807 < seconds then .overflow
  else if seconds < -67768040609740800 || 67768036191676799 < seconds then .beyondClock
  else .badValue

/-- The instant at a number of seconds since the start of 1970. -/
def instant (seconds : Binary64) : Except Failure Instant :=
  match Time.nearestMicros? seconds with
  | none => .error (if seconds.isNaN then .badValue else .overflow)
  | some micros =>
    match Time.atMicros? micros with
    | some (day, time) => .ok ⟨day, time⟩
    | none => .error (whyNoInstant (micros.fdiv 1000000))

/-- The instant as it is shown to a reader, whose time of day is settled by a look at the day
before; so it is not known on the first day of the calendar. -/
def Instant.forReader (made : Instant) : Except Failure Instant :=
  if made.day.ordinal = 1 then .error .badValue else .ok made

/-- The fields of a record that do not tell its time. -/
def Record.fields (r : Record) : List (String × Document) :=
  [("level", .text (levelName r.level)), ("logger", .text r.logger), ("msg", .text r.message)] ++
    r.context.fields ++
    match r.exception with
    | some description => [("exception", .text description)]
    | none => []

/-- A record as a JSON object in one line. -/
def jsonLine (made : Instant) (r : Record) : String :=
  Json.text .spaced
    (.ofFields (("ts", .text (made.day.text ++ "T" ++ made.time.text ++ "+00:00")) :: r.fields))

/-- The code that turns colours off. -/
def plainCode : String := "\x1b[0m"

def colourCode (level : Level) : String :=
  if level = 10 then "\x1b[36m"
  else if level = 20 then "\x1b[32m"
  else if level = 30 then "\x1b[33m"
  else if level = 40 then "\x1b[31m"
  else if level = 50 then "\x1b[1;31m"
  else ""

/-- The name of a severity between brackets, filled up to the usual width. -/
def levelMark (level : Level) : String :=
  let name := levelName level
  "[" ++ name ++ String.ofList (List.replicate (7 - name.length) ' ') ++ "]"

/-- How many characters of an identifier are shown; they are enough to look for it. -/
def idLength : Nat := 12

/-- A known part of what a record is about, as it is shown. -/
def contextPart (part : String × Document) : Text :=
  let value := part.2.display
  part.1 ++ "=" ++ (if part.1 = "fragment_id" then value.take idLength else value)

/-- What a record is about, behind its message. -/
def contextSuffix (context : Context) : Text :=
  if context.fields.isEmpty then ""
  else " (" ++ Text.join ", " (context.fields.map contextPart) ++ ")"

/-- A record for a reader, without its time. -/
def humanBody (colour : Bool) (r : Record) : Text :=
  let mark := if colour then colourCode r.level ++ levelMark r.level ++ plainCode
    else levelMark r.level
  let line := mark ++ " " ++ r.logger ++ ": " ++ r.message ++ contextSuffix r.context
  match r.exception with
  | some description => line ++ "\n" ++ description
  | none => line

def humanLine (colour : Bool) (made : Instant) (r : Record) : Text :=
  made.time.clock ++ " " ++ humanBody colour r

/-- A record in one of its forms, unless a number in its context is too long to be written. -/
def Record.written {α : Type} (form : Record → α) (r : Record) : Except Failure α :=
  if r.context.fields.all (·.2.isWritable) then .ok (form r) else .error .badValue

end BallotWallet.Log
