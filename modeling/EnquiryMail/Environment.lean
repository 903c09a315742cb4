/-
Environments: named texts handed to a program when it starts. A name occurs once.
-/

namespace EnquiryMail

/-- named texts -/
abbrev Environment := List (String × String)

namespace Environment

/-- the value of a variable -/
def get? (env : Environment) (name : String) : Option String := env.lookup name

/-- the variables of `newer`, then those of `env` that it does not name -/
def merge (env newer : Environment) : Environment :=
  newer ++ env.filter fun v => !newer.any fun w => w.1 == v.1

end Environment

end EnquiryMail
