import RecordQuery.Refusal

/-!
# Answers to refused filters

A refused filter is answered with status 400, the wording of the refusal with the criterion that is
to blame, and the class of the refusal.
-/

namespace RecordQuery

/-- The answer to a refused filter. -/
structure Response where
  /-- The status. -/
  status : Nat
  /-- What is wrong. -/
  detail : String
  /-- The class of the refusal. -/
  error : String
  deriving DecidableEq

/-- The wording of a refusal, with the criterion that is to blame. -/
def Refusal.detail (r : Refusal) : String :=
  r.cause.message ++
    match r.criterion? with
    | some c => " (filter: " ++ c.described ++ ")"
    | none => ""

/-- The answer to a refusal. -/
def Refusal.response (r : Refusal) : Response := ⟨400, r.detail, r.cause.refusalClass.name⟩

/-- The refusal of a literal in its own words, with no criterion to blame. -/
def Refusal.stated (message : String) : Refusal := ⟨.stated message, none⟩

end RecordQuery
