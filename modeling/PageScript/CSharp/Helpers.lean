import PageScript.CSharp.Literal
import PageScript.Cosmos.Wire

/-!
# Helper routines of the generated program

The routines that every generated program carries to send a query and read its answer. They are fixed
text, filled in with the words of the query protocol.
-/

namespace PageScript.CSharp

open Cosmos

/-- The routine that sends a query and gives the first item, or says what went wrong. -/
def readFirstLines : List String := [
  r"    private static async Task<string> ReadFirstCosmosItemViaRestAsync(string connectionString, string databaseName, string containerName, string query, string? partitionKey)",
  r"    {",
  r"        try",
  r"        {",
  r"            if (!TryParseConnectionString(connectionString, out var endpoint, out var key))",
  r"            {",
  r"                return " ++ literal Wire.invalidConnectionString ++ r";",
  r"            }",
  "",
  r"            var baseUri = new Uri(endpoint);",
  r#"            var resourceLink = $"dbs/{databaseName}/colls/{containerName}";"#,
  r#"            var date = DateTime.UtcNow.ToString("r", CultureInfo.InvariantCulture);"#,
  "",
  r"            var auth = BuildAuthToken(" ++ literal Wire.verb ++ r", " ++
    literal Wire.resourceType ++ r", resourceLink, date, key);",
  r#"            var requestUri = new Uri(baseUri, $"{resourceLink}/"# ++ Wire.resourceType ++
    r#"").ToString();"#,
  r"            var payload = BuildQueryPayload(query);",
  "",
  r"            using var message = new HttpRequestMessage(HttpMethod.Post, requestUri);",
  r"            message.Headers.TryAddWithoutValidation(" ++ literal Wire.headerDate ++ r", date);",
  r"            message.Headers.TryAddWithoutValidation(" ++ literal Wire.headerVersion ++ r", " ++
    literal Wire.apiVersion ++ r");",
  r"            message.Headers.TryAddWithoutValidation(" ++ literal Wire.headerAuthorization ++
    r", auth);",
  r"            message.Headers.TryAddWithoutValidation(" ++ literal Wire.headerIsQuery ++
    r#", "true");"#,
  r"            if (string.IsNullOrWhiteSpace(partitionKey))",
  r"            {",
  r"                message.Headers.TryAddWithoutValidation(" ++
    literal Wire.headerCrossPartition ++ r#", "true");"#,
  r"            }",
  r"            else",
  r"            {",
  r"                var escapedPk = JsonEncodedText.Encode(partitionKey);",
  r"                message.Headers.TryAddWithoutValidation(" ++ literal Wire.headerPartitionKey ++
    r#", $"[\"{escapedPk.ToString()}\"]");"#,
  r"            }",
  r"            message.Headers.TryAddWithoutValidation(" ++ literal Wire.headerAccept ++ r", " ++
    literal Wire.acceptMediaType ++ r");",
  r"            message.Content = new StringContent(payload, Encoding.UTF8, " ++
    literal Wire.queryMediaType ++ r");",
  r"            message.Content.Headers.ContentType = new MediaTypeHeaderValue(" ++
    literal Wire.queryMediaType ++ r");",
  "",
  r"            var response = await Http.SendAsync(message);",
  r"            var content = await response.Content.ReadAsStringAsync();",
  "",
  r"            if (!response.IsSuccessStatusCode)",
  r"            {",
  r#"                return $""# ++ Wire.restErrorPrefix ++
    r#" {(int)response.StatusCode}: {response.ReasonPhrase} {content}";"#,
  r"            }",
  "",
  r"            using var doc = JsonDocument.Parse(content);",
  r"            if (!doc.RootElement.TryGetProperty(" ++ literal Wire.documentsProperty ++
    r", out var docs) || docs.GetArrayLength() == 0)",
  r"            {",
  r"                return " ++ literal Wire.noItemsFound ++ r";",
  r"            }",
  "",
  r"            return docs[0].GetRawText();",
  r"        }",
  r"        catch (Exception ex)",
  r"        {",
  r#"            return $""# ++ Wire.failurePrefix ++ r#": {ex.Message}";"#,
  r"        }",
  r"    }"]

/-- The routine that takes a connection string apart. -/
def parseConnectionLines : List String := [
  r"    private static bool TryParseConnectionString(string connectionString, out string endpoint, out string key)",
  r"    {",
  r"        endpoint = string.Empty;",
  r"        key = string.Empty;",
  "",
  r"        if (string.IsNullOrWhiteSpace(connectionString))",
  r"        {",
  r"            return false;",
  r"        }",
  "",
  r"        foreach (var part in connectionString.Split(';', StringSplitOptions.RemoveEmptyEntries))",
  r"        {",
  r"            var kv = part.Split('=', 2);",
  r"            if (kv.Length != 2)",
  r"            {",
  r"                continue;",
  r"            }",
  "",
  r"            var name = kv[0].Trim();",
  r"            var value = kv[1].Trim();",
  r"            if (name.Equals(" ++ literal Wire.endpointKey ++
    r", StringComparison.OrdinalIgnoreCase))",
  r"            {",
  r"                endpoint = value;",
  r"            }",
  r"            else if (name.Equals(" ++ literal Wire.accountKey ++
    r", StringComparison.OrdinalIgnoreCase))",
  r"            {",
  r"                key = value;",
  r"            }",
  r"        }",
  "",
  r"        return !string.IsNullOrWhiteSpace(endpoint) && !string.IsNullOrWhiteSpace(key);",
  r"    }"]

/-- The routine that signs a request. -/
def authTokenLines : List String := [
  r"    private static string BuildAuthToken(string verb, string resourceType, string resourceLink, string date, string key)",
  r"    {",
  r#"        var payload = $"{verb.ToLowerInvariant()}\n{resourceType.ToLowerInvariant()}\n{resourceLink}\n{date.ToLowerInvariant()}\n\n";"#,
  "",
  r"        using var hmac = new HMACSHA256(Convert.FromBase64String(key));",
  r"        var signature = Convert.ToBase64String(hmac.ComputeHash(Encoding.UTF8.GetBytes(payload)));",
  "",
  r#"        return Uri.EscapeDataString($"type="# ++ Wire.tokenType ++ r"&ver=" ++
    Wire.tokenVersion ++ r#"&sig={signature}");"#,
  r"    }"]

/-- The routine that writes the body of a query. -/
def queryPayloadLines : List String := [
  r"    private static string BuildQueryPayload(string query)",
  r"    {",
  r"        var buffer = new ArrayBufferWriter<byte>();",
  r"        using (var writer = new Utf8JsonWriter(buffer))",
  r"        {",
  r"            writer.WriteStartObject();",
  r#"            writer.WriteString("query", query);"#,
  r#"            writer.WriteStartArray("parameters");"#,
  r"            writer.WriteEndArray();",
  r"            writer.WriteEndObject();",
  r"        }",
  "",
  r"        return Encoding.UTF8.GetString(buffer.WrittenSpan);",
  r"    }"]

/-- The lines of all helper routines. -/
def helperLines : List String :=
  [""].intercalate [readFirstLines, parseConnectionLines, authTokenLines, queryPayloadLines]

/-- The helper routines as they stand in every generated program. -/
def helpers : String := "".intercalate (helperLines.map (· ++ "\n"))

end PageScript.CSharp
