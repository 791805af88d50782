/-!
# Memory

The bounds of what is kept in memory. A number from outside may ask for more than any memory has;
such a request fails before anything is done.
-/

namespace Fanout.Memory

/-- The most bytes that one request for memory may ask for. -/
def limit : Nat := UInt64.size / 2 - 1

/-- Whether memory could be asked for `count` items of `size` bytes each. -/
def admits (count size : Nat) : Bool := count * size ≤ limit

end Fanout.Memory
