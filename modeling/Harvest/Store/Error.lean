/-! Why a store operation fails. -/

namespace Harvest

/-- The causes of failure. -/
inductive StoreError where
  /-- The storage behind the store did not answer. -/
  | backend (reason : String)
  /-- A stored document does not have the form that is asked for. -/
  | serialization (reason : String)
  | notFound (what : String)
  | invalidInput (reason : String)
  deriving DecidableEq, Repr, Inhabited

/-- The wording of a cause. -/
def StoreError.message : StoreError → String
  | backend reason => "Storage backend error: " ++ reason
  | serialization reason => "Serialization error: " ++ reason
  | notFound what => "Record not found: " ++ what
  | invalidInput reason => "Invalid input: " ++ reason

end Harvest
