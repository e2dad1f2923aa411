import AnchorQueue.Config.Basic
import AnchorQueue.Config.Endpoint

/-!
# Starting telemetry

The exporters come first, so a bad endpoint is found before a second installation is refused. An
empty endpoint means the usual one.
-/

namespace AnchorQueue.TelemetrySettings

def checkEndpoint (endpoint : String) : Except StoreError Unit :=
  if endpoint = "" then .ok ()
  else
    match Endpoint.check endpoint with
    | .ok () => .ok ()
    | .error f =>
      .error (.other ("failed to create OTLP span exporter: invalid URI " ++ endpoint ++
        ". Reason " ++ f.message))

def install (installed : Bool) (t : TelemetrySettings) : Except StoreError Unit := do
  (t.endpoint.map checkEndpoint).getD (.ok ())
  if installed then
    .error (.other ("failed to init tracing subscriber: " ++
      "a global default trace dispatcher has already been set"))
  else .ok ()

end AnchorQueue.TelemetrySettings
