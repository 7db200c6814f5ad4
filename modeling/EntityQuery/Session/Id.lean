import EntityQuery.Text.Hex

/-!
# Session names

The random names by which sessions are told apart in a log.
-/

namespace EntityQuery.Session

/-- Sixteen random bytes with the marks of a random identifier set, in five groups. -/
def idOfBytes (bytes : List UInt8) : String :=
  let marked := bytes.mapIdx fun i b =>
    if i = 6 then b % 16 + 0x40 else if i = 8 then b % 64 + 0x80 else b
  let group (start length : Nat) : String := Text.hexText ((marked.drop start).take length)
  "-".intercalate [group 0 4, group 4 2, group 6 2, group 8 2, group 10 6]

end EntityQuery.Session
