namespace TableSchema

-- The variables that are set. Of two with the same name the first counts.
structure Environment where
  entries : List (String × String)

namespace Environment

def get? (environment : Environment) (name : String) : Option String :=
  environment.entries.lookup name

def isSet (environment : Environment) (name : String) : Bool :=
  (environment.get? name).isSome

-- Sets a variable unless it is set already.
def add (environment : Environment) (name value : String) : Environment :=
  { entries := environment.entries ++ [(name, value)] }

-- Sets a variable, whatever it was before.
def put (environment : Environment) (name value : String) : Environment :=
  { entries := (name, value) :: environment.entries }

theorem get?_put (environment : Environment) (name value : String) :
    (environment.put name value).get? name = some value := by
  simp [get?, put]

end Environment

end TableSchema
