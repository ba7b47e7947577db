/-
# Settings from the environment

Variables are read without the blanks around them, and a blank one counts as
unset. A variable that is set and is no value of its kind is refused, so a
mistake shows when the program starts.

Key definitions: `Environment`, `Environment.text?`, `Environment.int?`,
`Environment.float?`, `Environment.bool?`, `Environment.list?`.
-/
import TableGate.Error.Fault

namespace TableGate

/-- The variables that are set. -/
abbrev Environment := List (String × String)

namespace Environment

/-- The value of a variable as it is set. -/
def raw? (env : Environment) (name : String) : Option String :=
  (env.find? fun e => e.1 == name).map Prod.snd

/-- The value of a variable without blanks around it; a blank one is unset. -/
def text? (env : Environment) (name : String) : Option String :=
  match env.raw? name with
  | none => none
  | some s =>
    let t := Text.trim s
    if t.isEmpty then none else some t

/-- The variable is set to more than blanks. -/
def isSet (env : Environment) (name : String) : Bool := (env.text? name).isSome

/-- Reads a variable with `read?`; `kind` names what it should be. -/
def readAs {α : Type} (env : Environment) (name kind : String) (read? : String → Option α) :
    Except Fault (Option α) :=
  match env.text? name with
  | none => .ok none
  | some t =>
    match read? t with
    | some a => .ok (some a)
    | none => .error (.refused (.setting kind name t))

def int? (env : Environment) (name : String) : Except Fault (Option Int) :=
  env.readAs name "integer" Number.readInt?

/-- A floating-point number. -/
def float? (env : Environment) (name : String) : Except Fault (Option Double) :=
  env.readAs name "float" Number.readDouble?

/-- The words for true and false, in any case. -/
def readBool? (s : String) : Option Bool :=
  let word := Text.lower s
  if ["1", "true", "yes", "on"].contains word then some true
  else if ["0", "false", "no", "off"].contains word then some false
  else none

def bool? (env : Environment) (name : String) : Except Fault (Option Bool) :=
  env.readAs name "boolean" readBool?

/-- The items between commas, without blanks around them and without empty
ones. -/
def items (s : String) : List String :=
  ((Text.splitAt ',' s).map Text.trim).filter fun item => !item.isEmpty

/-- A list of texts between commas. -/
def list? (env : Environment) (name : String) : Option (List String) :=
  (env.text? name).map items

end Environment
end TableGate
