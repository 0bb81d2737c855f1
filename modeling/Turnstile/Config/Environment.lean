/-!
Environments, each of which can override the settings of a document.
-/
namespace Turnstile.Config

inductive Environment where
  | production | development | test
  deriving DecidableEq, Inhabited

namespace Environment

def all : List Environment := [.production, .development, .test]

def name : Environment → String
  | .production => "production"
  | .development => "development"
  | .test => "test"

/-- The environment that an argument names or, without one, the surroundings. All other names
mean development. -/
def resolve (argument ambient : Option String) : Environment :=
  match argument.orElse fun _ => ambient with
  | some "production" => .production
  | some "test" => .test
  | _ => .development

end Environment
end Turnstile.Config
