import Accounts.Base.Text

/-!
# What a call takes from outside

The clock and fresh identifiers, which a call reads when it runs: an action of
a run carries them.
-/

/-- An instant, in nanoseconds since the zero time of Go (`time.Time`). -/
abbrev Time := Int

namespace Time

/-- The zero time, which stands for no time at all (`time.Time.IsZero`). -/
def isZero (t : Time) : Bool := t == 0

/-- Durations, in nanoseconds. -/
def second : Int := 1000000000
def minute : Int := 60 * second
def hour : Int := 60 * minute
def day : Int := 24 * hour

/-- The time of the last full duration `d` (`time.Time.Truncate`). -/
def truncate (t d : Int) : Time := t - t % d

/-- The zero time is the first of January of the year 1; Unix time counts the
    seconds from 1970 on (`time.Unix`). -/
def unix (seconds : Int) : Time := (seconds + 62135596800) * second

end Time

/-- A fresh identifier (`uuid.NewString`): it is not empty, and has no white space around it. -/
structure Uuid where
  val : String
  nonempty : val ≠ ""
  trimmed : Text.trimSpace val = val

/-- SHA-256, as a hexadecimal text. No proof depends on its values. -/
class Sha256 where
  hex : String → String

/-- What a store call reads from outside: the time, the identifier of a new
    record and that of a new event. -/
structure Env where
  now : Time
  uuid : Uuid
  eventUUID : Uuid

/-- A time with fixed identifiers, for runs on fixed inputs. -/
def Env.sample (now : Time) : Env :=
  ⟨now, ⟨"uuid", by decide, by decide⟩, ⟨"event", by decide, by decide⟩⟩
