import YamlTidy.Calendar
import YamlTidy.Yaml.Fault
import YamlTidy.Yaml.Schema

/-!
# Timestamps as they are written

A timestamp is a date or a moment.  A moment with a zone is kept without it, in universal time, and
the zone is kept as it was written, so that the moment can be written in its zone again.
-/

namespace YamlTidy
namespace Yaml

/-- A moment with what its form depends on. -/
structure WrittenMoment where
  /-- The moment in universal time. -/
  moment : Moment
  /-- What the zone is ahead of universal time, in seconds. -/
  ahead : Int := 0
  /-- The zone as written. -/
  zone : List Char := []
  /-- Whether a letter stands between date and time. -/
  letter : Bool := false
  deriving Repr, DecidableEq, Inhabited

/-- A date or a moment. -/
inductive Timestamp where
  | date (d : Date)
  | moment (m : WrittenMoment)
  deriving Repr, DecidableEq, Inhabited

namespace Timestamp

/-- The number that digits stand for. -/
def natural (ds : List Char) : Nat :=
  ds.foldl (fun n c => 10 * n + (c.toNat - 48)) 0

/-- A fraction in microseconds, a half rounded up.  There may be a million of them. -/
def microseconds (fraction : List Char) : Nat :=
  let six := natural ((fraction ++ List.replicate 6 '0').take 6)
  match fraction.drop 6 with
  | [] => six
  | c :: _ => if '4' < c then six + 1 else six

/-- Rejects numbers that make no date or moment. -/
def require (fault : Option CalendarFault) : Except Fault Unit :=
  match fault with
  | some f => .error (.rejected (.unconvertible f.message) none)
  | none => .ok ()

/-- The timestamp of its parts. -/
def ofParts (p : TimestampParts) : Except Fault Timestamp := do
  let date : Date := ⟨natural p.year, natural p.month, natural p.day⟩
  match p.time with
  | none => do
      require date.fault?
      pure (.date date)
  | some (hour, minute, second) => do
      let micro := microseconds (p.fraction.getD [])
      let full := micro == 1000000
      let m : Moment := {
        date, hour := natural hour, minute := natural minute, second := natural second
        microsecond := if full then 0 else micro }
      require m.fault?
      let size : Int := natural p.zoneHour * 3600 + natural (p.zoneMinute.getD []) * 60
      let ahead := if p.zoneSign = some '-' then -size else size
      -- A full second joins the zone when there is one and the time when there is none.
      let carry : Int := if !full then 0 else if p.zoneSign = some '+' then -1 else 1
      match m.shift? (carry - ahead) with
      | none => throw (.aborted .dateOutOfRange)
      | some m =>
          let keepsZone := p.letter || p.zoneSign.isSome
          pure (.moment {
            moment := m, ahead, letter := p.letter
            zone := if keepsZone then p.zone.getD [] else [] })

/-- The timestamp of a text, if it has the form of one. -/
def ofText? (s : List Char) : Option (Except Fault Timestamp) :=
  (TimestampParts.ofText? s).map ofParts

/-- The timestamp in universal time. -/
def iso : Timestamp → List Char
  | .date d => d.iso
  | .moment m => m.moment.iso 'T'

/-- The timestamp in its form. -/
def text : Timestamp → List Char
  | .date d => d.iso
  | .moment m =>
      let local_ := (m.moment.shift? m.ahead).getD m.moment
      local_.iso (if m.letter then 'T' else ' ') ++ m.zone

end Timestamp
end Yaml
end YamlTidy
