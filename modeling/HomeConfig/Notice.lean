import HomeConfig.Failure
import HomeConfig.Live.Registry
import HomeConfig.Text.Position

/-!
# Notices

What the server reports about its own work.  A notice is kept as what happened; its level, the
part of the server it comes from and its wording follow from that.  A notice about a failure
holds the failure, and its wording takes the text of failures as a parameter.
-/

namespace HomeConfig

/-- How severe a notice is. -/
inductive Level
  | debug
  | info
  | warning
  | error
deriving DecidableEq, Repr

namespace Level

/-- The name of a level. -/
def name : Level → String
  | debug => "DEBUG"
  | info => "INFO"
  | warning => "WARNING"
  | error => "ERROR"

/-- How much weight a level has; a threshold lets through what weighs at least as much. -/
def weight : Level → Nat
  | debug => 10
  | info => 20
  | warning => 30
  | error => 40

end Level

/-- Something that happened. -/
inductive Notice
  | connected (url : String)
  | disconnected
  | started
  | refreshFailed (key : String) (cause : Failure)
  | liveReadFailed (entity : String) (cause : Failure)
  | unavailable (registry : Registry) (cause : Failure)
  | warmUpSkipped
  | warmUpFailed (failures : List (Registry × Failure))
  | warmedUp
  | completionFailed (position : Position) (cause : Failure)
  | resolveFailed (label : String) (cause : Failure)
  | entityHoverFailed (entity : String) (cause : Failure)
  | serviceHoverFailed (service : String) (cause : Failure)
  | checkFailed (check : String) (uri : Option String) (cause : Failure)
  | noSecretsFile (secret : String)
  | passFailed (uri : String)
  | passSuperseded (uri : String)
  | publishing (count : Nat) (uri : String)

namespace Notice

/-- How severe a notice is. -/
def level : Notice → Level
  | connected _ | disconnected | started | warmUpSkipped | warmedUp => .info
  | refreshFailed _ _ | completionFailed _ _ | checkFailed _ _ _ => .warning
  | warmUpFailed _ | passFailed _ => .error
  | liveReadFailed _ _ | unavailable _ _ | resolveFailed _ _ | entityHoverFailed _ _
  | serviceHoverFailed _ _ | noSecretsFile _ | passSuperseded _ | publishing _ _ => .debug

/-- The part of the server that a notice comes from. -/
def logger : Notice → String
  | connected _ | disconnected => "ha_lsp.ha.client"
  | started | publishing _ _ => "ha_lsp.server.app"
  | refreshFailed _ _ | liveReadFailed _ _ | unavailable _ _ | warmUpSkipped | warmUpFailed _
  | warmedUp => "ha_lsp.ha.cache"
  | completionFailed _ _ | resolveFailed _ _ => "ha_lsp.features.completion"
  | entityHoverFailed _ _ | serviceHoverFailed _ _ => "ha_lsp.features.hover"
  | checkFailed _ _ _ => "ha_lsp.features.diagnostics"
  | noSecretsFile _ => "ha_lsp.features.definition"
  | passFailed _ | passSuperseded _ => "ha_lsp.server.scheduler"

/-- The title under which a registry is reported missing. -/
def title : Registry → String
  | .floors => "Floors"
  | .labels => "Labels"
  | registry => registry.name

/-- The wording of a notice. -/
def message (describe : Failure → String) : Notice → String
  | connected url => s!"HA token available - live features enabled ({url})"
  | disconnected => "No HA token configured - live features disabled"
  | started => "Home Assistant LSP server started"
  | refreshFailed key cause => s!"Refreshing {key} failed, serving stale data: " ++ describe cause
  | liveReadFailed entity cause => s!"Live read of {entity} failed: " ++ describe cause
  | unavailable registry cause => title registry ++ " unavailable: " ++ describe cause
  | warmUpSkipped => "No HA token - skipping cache warm-up"
  | warmUpFailed failures =>
    "Failed to warm cache: " ++ "; ".intercalate
      (failures.map fun (registry, cause) => registry.name ++ ": " ++ describe cause)
  | warmedUp => "HA cache warmed successfully"
  | completionFailed position cause =>
    s!"Completion failed at {position.line}:{position.character}: " ++ describe cause
  | resolveFailed label cause => s!"Resolve of {label} failed: " ++ describe cause
  | entityHoverFailed entity cause => s!"Entity hover for {entity} failed: " ++ describe cause
  | serviceHoverFailed service cause => s!"Service hover for {service} failed: " ++ describe cause
  | checkFailed check uri cause =>
    s!"Diagnostics check '{check}' failed for " ++ uri.getD "None" ++ ": " ++ describe cause
  | noSecretsFile secret => s!"No secrets file found for !secret {secret}"
  | passFailed uri => s!"Diagnostics pass failed for {uri}"
  | passSuperseded uri => s!"Discarding superseded diagnostics for {uri}"
  | publishing count uri => s!"Publishing {count} diagnostics for {uri}"

/-- A notice as a line of the log. -/
def line (describe : Failure → String) (notice : Notice) : String :=
  " | ".intercalate [notice.level.name, notice.logger, notice.message describe]

end Notice

end HomeConfig
