import Harvest.Number.Decimal
import Harvest.Settings.Basic
import Harvest.Text.Blank

/-! Variables of the environment take precedence over the settings of a file. A variable that is blank, or
that cannot be read, changes nothing. -/

namespace Harvest.Settings

/-- The number that a variable holds, blanks at its ends aside. -/
def number? (bound : Nat) (text : String) : Option Nat :=
  Decimal.natBelow? bound (Text.trimChars text.toList)

/-- Uses a source of proxies: its protocol, a percent sign, and where the list is. -/
def withProxies (text : String) (settings : Settings) : Settings :=
  match Text.cutAt? '%' text.toList with
  | some (c :: protocol, d :: url) =>
    { settings with proxy := { settings.proxy with
      enabled := true
      protocol := String.ofList (c :: protocol)
      listUrl := String.ofList (d :: url) } }
  | _ => settings

/-- Keeps the host to listen at and changes the port. -/
def withPort (port : Nat) (settings : Settings) : Settings :=
  let host := match Text.cutAtLast? ':' settings.api.bindAddress.toList with
    | some (host, _) => String.ofList host
    | none => "0.0.0.0"
  { settings with api := { settings.api with bindAddress := host ++ ":" ++ toString port } }

/-- The items of a list with commas, without blanks at their ends and without the empty ones. -/
def listed (text : String) : List String :=
  ((Text.splitAtChar ',' text.toList).map fun item => Text.trim (String.ofList item)).filter (· ≠ "")

/-- The names of the variables. -/
def variableNames : List String :=
  ["DISTRIBUTOR_API", "PROXY_API", "THREADS", "WRITEPAGELAYOUTERROR", "CONNECTION_URI", "DATABASE_NAME",
    "PORT", "CORS"]

/-- Changes settings with each variable that is set, in order. -/
def override (lookup? : String → Option String) (settings : Settings) : Settings :=
  let set (name : String) (change : String → Settings → Settings) (settings : Settings) : Settings :=
    match lookup? name with
    | some text => if Text.allBlank text.toList then settings else change text settings
    | none => settings
  settings
    |> set "DISTRIBUTOR_API" (fun text settings =>
      let url := String.ofList (Text.dropRightWhile (· = '/') text.toList)
      { settings with api := { settings.api with distributorUrl := url } })
    |> set "PROXY_API" withProxies
    |> set "THREADS" (fun text settings =>
      match number? Word.bound text with
      | some (threads + 1) => { settings with worker := { settings.worker with threads := threads + 1 } }
      | _ => settings)
    |> set "WRITEPAGELAYOUTERROR" (fun _ settings =>
      { settings with worker := { settings.worker with writeLayoutErrors := true } })
    |> set "CONNECTION_URI" (fun text settings =>
      { settings with storage := { settings.storage with
        backend := "mongodb"
        connectionString := text } })
    |> set "DATABASE_NAME" (fun text settings =>
      { settings with storage := { settings.storage with databaseName := text } })
    |> set "PORT" (fun text settings =>
      match number? Word.quarterBound text with
      | some port => settings.withPort port
      | none => settings)
    |> set "CORS" (fun text settings =>
      { settings with api := { settings.api with corsOrigins := listed text } })

end Harvest.Settings
