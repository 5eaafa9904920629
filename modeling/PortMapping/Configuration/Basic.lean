/-!
# The configuration and why it may be refused

A configuration names the external interface, the addresses to serve, the packet
filter and the logging options.  A document that no configuration can be read from
is refused, and what can be read is still checked for being usable.
-/

namespace PortMapping

/-- Which packet filter to drive. -/
inductive FilterKind where
  /-- The filter program of the system. -/
  | nft
  /-- Rules are only kept in memory. -/
  | memory
  deriving DecidableEq, Repr

/-- The packet filter and the table it owns. -/
structure FirewallSettings where
  backend : FilterKind := .nft
  table : String := "natpmpd"
  deriving DecidableEq, Repr

/-- The least grave level to log, and the layout of log lines. -/
structure LogSettings where
  level : String := "info"
  format : String := "pretty"
  deriving DecidableEq, Repr

namespace LogSettings

/-- The same layout at debug level. -/
def verbose (settings : LogSettings) : LogSettings := { settings with level := "debug" }

end LogSettings

/-- The settings of the gateway. -/
structure Configuration where
  /-- The external interface. -/
  interface : String
  /-- The addresses to listen on, each with an optional port. -/
  listen : List String
  firewall : FirewallSettings := {}
  log : LogSettings := {}
  deriving DecidableEq, Repr

/-- Why a configuration was refused. -/
inductive ConfigurationError where
  /-- No configuration can be read from a document, for a reason told in words. -/
  | document (words : String)
  | emptyInterface
  | noListenAddress
  /-- A listen address, its surrounding blanks left out, that is none. -/
  | invalidListenAddress (text : String)
  | invalidTable (name : String)
  deriving DecidableEq, Repr

namespace ConfigurationError

/-- The words for a refused configuration. -/
def message : ConfigurationError → String
  | .document words => words
  | .emptyInterface => "interface must not be empty"
  | .noListenAddress => "at least one listen address is required"
  | .invalidListenAddress text => "invalid listen address '" ++ text ++ "'"
  | .invalidTable name => "invalid table name '" ++ name ++ "'"

end ConfigurationError

end PortMapping
