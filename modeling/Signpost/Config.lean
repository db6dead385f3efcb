import Signpost.MatchTypes

/-!
# Configuration

The settings of a router.  They are values: a variant is a new configuration.
-/

namespace Signpost

/-- The settings of a router. -/
structure Config where
  /-- What is stripped from incoming URLs and put before generated ones. -/
  basePath : Text := []
  /-- Types that are entered over the built-in ones. -/
  matchTypes : MatchTypes := []
  /-- Whether method filters name whole methods. -/
  exactMethods : Bool := true
  /-- Whether unknown types are refused. -/
  strictMatchTypes : Bool := true
  deriving DecidableEq, Repr

namespace Config

/-- The configuration with another base path. -/
def withBasePath (config : Config) (basePath : Text) : Config :=
  { config with basePath := basePath }

/-- The configuration with more types entered over its own. -/
def withMatchTypes (config : Config) (types : MatchTypes) : Config :=
  { config with matchTypes := config.matchTypes.overlay types }

end Config

end Signpost
