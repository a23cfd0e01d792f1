import PageScript.Numeral.Double
import PageScript.Report
import PageScript.Settings.Basic
import PageScript.Toml.Value

/-!
# Settings from a table

Every key of the table must name a setting, in which hyphens and underscores are the same, and every
value must be a text, or a number for the time a request may take. The first entry that breaks a rule
is reported.
-/

namespace PageScript

/-- Why a table gives no settings. -/
inductive SettingsFault where
  | report (report : Report)
  /-- A number of seconds is too large for a double. -/
  | overflow

namespace Settings

/-- The names of all settings, sorted. -/
def names : List String :=
  ["class_name", "fallback_secret_env", "namespace", "newline", "no_output_message",
    "request_timeout", "script_type", "secret_reference", "service_domain", "source_label"]

/-- The name of the setting that takes a number. -/
def timeoutName : String := "request_timeout"

/-- The settings with the text of one of them replaced; nothing changes for another name. -/
def withText (settings : Settings) (name text : String) : Settings :=
  match name with
  | "script_type" => { settings with scriptType := text }
  | "namespace" => { settings with nameSpace := text }
  | "class_name" => { settings with className := text }
  | "source_label" => { settings with sourceLabel := text }
  | "service_domain" => { settings with serviceDomain := text }
  | "secret_reference" => { settings with secretReference := text }
  | "fallback_secret_env" => { settings with fallbackSecretEnv := text }
  | "no_output_message" => { settings with noOutputMessage := text }
  | "newline" => { settings with newline := text }
  | _ => settings

/-- The name of the setting that a key stands for. -/
def nameOfKey (key : String) : String :=
  String.ofList (key.toList.map fun c => if c = '-' then '_' else c)

/-- A number of seconds. -/
def secondsOf? : Toml.Value → Option (Except SettingsFault Float)
  | .integer n =>
    match Numeral.ofInteger? n with
    | some x => some (.ok x)
    | none => some (.error .overflow)
  | .float x => some (.ok x)
  | _ => none

/-- The settings after one entry of a table. -/
def withEntry (path : Option String) (settings : Settings) (key : String) (value : Toml.Value) :
    Except SettingsFault Settings :=
  let name := nameOfKey key
  let complaint (message : String) (hint : Option String) : Except SettingsFault Settings :=
    .error (.report { category := .settings, message, place := { path }, hint })
  if !names.contains name then
    complaint ("Unknown configuration key '" ++ key ++ "'")
      (some ("Valid keys: " ++ ", ".intercalate names))
  else if name == timeoutName then
    match secondsOf? value with
    | some seconds => seconds.map fun x => { settings with requestTimeout := some x }
    | none => complaint "'request_timeout' must be a number of seconds" none
  else
    match value with
    | .string text => .ok (settings.withText name text)
    | _ => complaint ("'" ++ key ++ "' must be a string") none

/-- The settings that a table gives; `path` is the file it comes from. -/
def ofTable (table : Toml.Table) (path : Option String) : Except SettingsFault Settings :=
  table.foldlM (fun settings (key, value) => settings.withEntry path key value) {}

end Settings

end PageScript
