import BucketPlan.Service.App
import BucketPlan.Zone.Catalog
import Std.Time.DateTime.Timestamp

/-!
Answers one request to the service. The method and the path are arguments, the
settings come from the environment, and the JSON body is read from standard
input when the method is POST. The body of the response is printed, and the exit
code is zero exactly when the service answers with status 200.
-/

namespace BucketPlan.CommandLine

/-- The variables of the environment that settings are read from. -/
def environment : IO (List (String × String)) :=
  Settings.variableNames.filterMapM fun name => do
    return (← IO.getEnv name).map fun value => (name, value)

/-- The service that the environment configures, or what is wrong with it. -/
def configured (env : List (String × String)) : Except String App := do
  let settings ← (Settings.ofEnvironment .ofCatalog fun name => env.lookup name).mapError SettingsError.message
  (App.build .ofCatalog (fun _ => "a field is missing, doubled or of the wrong kind") settings).mapError
    StartFault.message

/-- The present moment to the second. -/
def now : IO (Option Instant) := do
  return Moment.ofSeconds? (← Std.Time.Timestamp.now).toSecondsSinceUnixEpoch.toInt

/-- The body of a response as it is printed. -/
def bodyText : Body → String
  | .empty => ""
  | .text content => content
  | .json content => content.render

/-- Ends with a complaint. -/
def complain (message : String) : IO UInt32 := do
  IO.eprintln message
  return 1

/-- Answers one request. -/
def serve (app : App) (method target : String) : IO UInt32 := do
  let body ← if method = "POST" then (← IO.getStdin).readToEnd else pure ""
  let request : Request := ⟨method, target, [("content-type", "application/json")], body.toUTF8.toList⟩
  match ← now with
  | none => complain "the clock shows no representable date"
  | some now =>
    match app.respond now request with
    | .error _ => complain "a date left the representable years"
    | .ok response =>
      IO.println (bodyText response.body)
      return if response.status = 200 then 0 else 1

end BucketPlan.CommandLine

/-- Answers the request that the arguments name. -/
def main (args : List String) : IO UInt32 := do
  match BucketPlan.CommandLine.configured (← BucketPlan.CommandLine.environment), args with
  | .error message, _ => BucketPlan.CommandLine.complain message
  | .ok app, [method, target] => BucketPlan.CommandLine.serve app method target
  | .ok _, _ => BucketPlan.CommandLine.complain "usage: METHOD PATH"
