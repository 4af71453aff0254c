import LoadHarness.Duration

/-! Records of single network operations, such as one read or one request. -/

namespace LoadHarness

/-- The record of one network operation. -/
structure Operation where
  /-- The name that operations of one kind share. -/
  id : String
  failed : Bool
  /-- How long the operation took, once it has finished. -/
  duration : Option Duration
deriving DecidableEq, Repr

end LoadHarness
