namespace PhantomTrails

/-- How a call can fail to return: a failed `assert`, a shift or an addition
the language leaves undefined, or an access outside the backing buffer. -/
inductive Fault where
  | assertion
  | undefinedBehaviour
  | outOfBounds
deriving DecidableEq, Repr

end PhantomTrails
