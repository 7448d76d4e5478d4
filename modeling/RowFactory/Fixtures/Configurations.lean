import RowFactory.Fixtures.Factories
import RowFactory.Text.Letter

/-! # Configurations of the small schema

Named changes of the builders of users and posts.
-/

namespace RowFactory.Fixtures

open Run (Action Value)

variable {σ : Type}

abbrev Configuration (σ : Type) := Value σ → Action σ (Value σ)

def changeMember (name : String) (change : Value σ → Value σ) : Configuration σ := fun builder =>
  (builder.member? name >>= fun v => Value.replaceAt (change v) [name] builder).elim failure pure

def changeText (change : String → String) : Value σ → Value σ
  | .datum (.text text) => .datum (.text (change text))
  | v => v

def flagMember (name : String) (value : Bool) : Configuration σ :=
  changeMember name fun _ => .present (.datum (.flag value))

def adult : Configuration σ := changeMember "age" fun _ => .present (.datum (.integer 18))

/-- A user gets a year older; nobody is born without an age of zero. -/
def older : Configuration σ :=
  changeMember "age" fun v =>
    match v.datum? with
    | some (.integer n) => .present (.datum (.integer ((n + 1).bmod (Nat.pow 2 32))))
    | _ => .present (.datum (.integer 1))

def shout : Configuration σ := changeMember "name" (changeText Text.shout)

def published : Configuration σ := flagMember "published" true

def draft : Configuration σ := flagMember "published" false

def edited : Configuration σ := changeMember "title" (changeText (· ++ " (edited)"))

def configuration? (name : String) : Option (Configuration σ) :=
  [("adult", adult), ("older", older), ("shout", shout), ("published", published), ("draft", draft),
    ("edited", edited)].lookup name

end RowFactory.Fixtures
