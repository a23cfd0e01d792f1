import PageScript.Text.Blank

/-!
# Settings

What shapes the blocks taken from a page and the program generated from them.
-/

namespace PageScript

/-- The variables of a process environment; names are compared exactly. -/
abbrev Environ := String → Option String

/-- The value of an environment variable; an empty one counts as unset. -/
def Environ.set? (environ : Environ) (name : String) : Option String :=
  (environ name).filter (!·.isEmpty)

/-- The settings of a compilation. -/
structure Settings where
  /-- The type of the script elements that are compiled. -/
  scriptType : String := "pwsh"
  /-- The namespace of the generated class. -/
  nameSpace : String := "PsWasmApp"
  className : String := "CompiledPowerShell"
  /-- The name of a page that has none. -/
  sourceLabel : String := "index.html"
  /-- The domain of the database accounts. -/
  serviceDomain : String := "documents.azure.com"
  /-- The expression of the generated program that holds the secret of its build. -/
  secretReference : String := "BuildSecrets.CosmosKey"
  /-- The environment variable that stands in for that secret when a plan is run in process. -/
  fallbackSecretEnv : String := "PWSHC_BUILD_SECRET"
  /-- The output of a plan without output. -/
  noOutputMessage : String := "No output generated."
  /-- The line end of the generated program. -/
  newline : String := "\n"
  /-- The time a request may take, in seconds. -/
  requestTimeout : Option Float := none

/-- The address of a database account. -/
def Settings.endpointFor (settings : Settings) (account : String) : String :=
  "https://" ++ account ++ "." ++ settings.serviceDomain ++ ":443/"

end PageScript
