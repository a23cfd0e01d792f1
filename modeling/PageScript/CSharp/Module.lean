import PageScript.CSharp.Body
import PageScript.CSharp.Helpers
import PageScript.Text.Cut

/-!
# The generated file

A plan becomes one source file: a heading, the namespace and the class from the settings, the method
that runs the plan, and the helper routines.
-/

namespace PageScript.CSharp

/-- The lines in front of the namespace. -/
def headingLines (sourceName : String) : List String := [
  "// Auto-generated from inline PowerShell (" ++ sourceName ++ ") at build time",
  "#nullable enable",
  "using System;",
  "using System.Buffers;",
  "using System.Collections.Generic;",
  "using System.Globalization;",
  "using System.Net.Http;",
  "using System.Net.Http.Headers;",
  "using System.Security.Cryptography;",
  "using System.Text;",
  "using System.Text.Json;",
  "using System.Threading.Tasks;",
  ""]

/-- The lines of the file, around the lines of the method that runs the plan. -/
def fileLines (settings : Settings) (sourceName : String) (body : List String) : List String :=
  headingLines sourceName ++
    ["namespace " ++ settings.nameSpace ++ ";",
      "",
      "public static partial class " ++ settings.className,
      "\x7b",
      "    private static readonly HttpClient Http = new HttpClient();",
      "",
      "    public static async Task<string> ExecuteAsync()",
      "    \x7b"] ++
    body ++
    ["    \x7d", ""] ++
    helperLines ++
    ["\x7d"]

/-- The file that a plan compiles to, with the line ends of the settings. -/
def moduleText (settings : Settings) (plan : Plan) : Except Report String := do
  let body ← bodyLines settings plan
  let text := "".intercalate ((fileLines settings plan.sourceName body).map (· ++ "\n"))
  return String.ofList (Text.replaceLineEnds settings.newline.toList text.toList)

end PageScript.CSharp
