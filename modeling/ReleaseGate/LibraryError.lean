/-
ReleaseGate/LibraryError.lean

Errors of libraries that the gate has no kind of its own for.

The gate leaves some work to others: unpacking with some methods, going to a
position in a file, and getting files over the net.  What they fail with is
passed on as it is, under the name that it has there.
-/

namespace ReleaseGate

/-- What a kind of errors counts as. -/
inductive Standing where
  /-- An error of the system. -/
  | system
  /-- An error whose message is all there is to say. -/
  | expected
  | unexpected
  deriving DecidableEq, Repr, Inhabited

instance : Coe Bool Standing := ⟨fun expected => if expected then .expected else .unexpected⟩

/-- The message of such an error is all there is to say. -/
def Standing.isExpected : Standing → Bool
  | system | expected => true
  | unexpected => false

/-- An error of a library. -/
structure LibraryError where
  /-- The name of its kind. -/
  kind : String
  message : String
  standing : Standing
  deriving DecidableEq, Repr, Inhabited

end ReleaseGate
