/-!
# Help for the command

The lines that show how the command is used.
-/

namespace PageScript.Command

/-- The name of the command. -/
def commandName : String := "pwshc"

def version : String := "0.1.0"

/-- How the command is used. -/
def usageLines : List String := [
  r"usage: pwshc [-h] [--config CONFIG]",
  r"             [--log-level {critical,debug,error,info,warn,warning}] [--run]",
  r"             [--version]",
  r"             [source] [output]"]

/-- What the arguments mean. -/
def helpLines : List String := usageLines ++ [
  r"",
  r#"Compile <script type="pwsh"> blocks of an HTML page into a C# source file."#,
  r"",
  r"positional arguments:",
  r"  source                HTML page containing the PowerShell blocks",
  r"  output                path of the C# file to write",
  r"",
  r"options:",
  r"  -h, --help            show this help message and exit",
  r"  --config CONFIG       explicit pwshc.toml or pyproject.toml",
  r"  --log-level {critical,debug,error,info,warn,warning}",
  r"                        log verbosity (default: $PWSHC_LOG_LEVEL or warning)",
  r"  --run                 also execute the compiled blocks and print their",
  r"                        output",
  r"  --version             show program's version number and exit"]

/-- Lines, each with its end. -/
def unlines (lines : List String) : String := "".intercalate (lines.map (· ++ "\n"))

end PageScript.Command
