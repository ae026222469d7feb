import CypherBridge.Response.Frame

/-!
# Failures of the database

What a client can be told about a failed query, and how the failures of the bolt driver
are classed. A failure reported by the database keeps the database's own code and text.
-/

namespace CypherBridge

inductive DatabaseError where
  | connectivity (reason : String)
  | query (code message : String)
  | decode (reason : String)
  | closed
  | config (reason : String)
  deriving DecidableEq, Repr

namespace DatabaseError

def code : DatabaseError → String
  | .connectivity _ => "ConnectivityError"
  | .query code _ => code
  | .decode _ => "DecodeError"
  | .closed => "GatewayClosed"
  | .config _ => "ConfigError"

def message : DatabaseError → String
  | .connectivity reason => "database unreachable: " ++ reason
  | .query code message => code ++ ": " ++ message
  | .decode reason => "failed to decode record: " ++ reason
  | .closed => "gateway is closed"
  | .config reason => "invalid driver configuration: " ++ reason

/-- A database's message goes to the client without its code in front. -/
def info : DatabaseError → ErrorReport
  | .query code message => ⟨code, message⟩
  | e => ⟨e.code, e.message⟩

end DatabaseError

inductive DriverError where
  | io (detail : String)
  | connectionFailed
  | invalidUri (detail : String)
  | unsupportedScheme (scheme : String)
  | invalidDnsName (name : String)
  | stringTooLong
  | mapTooBig
  | bytesTooBig
  | listTooLong
  | invalidConfig
  | unsupportedVersion (detail : String)
  | unexpectedMessage (detail : String)
  | unknownType (detail : String)
  | unknownMessage (detail : String)
  | conversion
  | authentication (detail : String)
  | invalidTypeMarker (detail : String)
  | deserialization (detail : String)
  | reported (code message : String)
  deriving DecidableEq, Repr

namespace DriverError

def message : DriverError → String
  | .io detail => "an IO error occurred: " ++ detail
  | .connectionFailed => "connection error"
  | .invalidUri detail => "Invalid URI: " ++ detail
  | .unsupportedScheme scheme => "Unsupported URI scheme: " ++ scheme
  | .invalidDnsName name => "Invalid DNS name: " ++ name
  | .stringTooLong => "attempted to serialize excessively long string"
  | .mapTooBig => "attempted to serialize excessively large map"
  | .bytesTooBig => "attempted to serialize excessively large byte array"
  | .listTooLong => "attempted to serialize excessively long list"
  | .invalidConfig => "invalid config"
  | .unsupportedVersion detail | .unexpectedMessage detail | .unknownType detail
  | .unknownMessage detail | .authentication detail | .invalidTypeMarker detail
  | .deserialization detail => detail
  | .conversion => "conversion error"
  | .reported _ message => message

def queryCode : String := "QueryError"

def toDatabaseError (e : DriverError) : DatabaseError :=
  match e with
  | .io _ | .connectionFailed => .connectivity e.message
  | .deserialization _ | .conversion => .decode e.message
  | .reported code message => .query code message
  | _ => .query queryCode e.message

end DriverError

end CypherBridge
