import Accounts.Base.Json

/-!
# The configuration of Xray

A generator renders the configuration of an Xray inbound for a list of clients
(`internal/xrayconfig/generator.go`): the template with its list of clients
replaced (`replaceClients`), written as JSON. The configuration depends on the
clients alone. Which errors the template leads to is checked before the clients
are looked at, and again after.
-/

namespace Accounts.Xray

/-- A client of an inbound. -/
structure Client where
  id : String
  email : String := ""
  flow : String := ""
  deriving DecidableEq

/-- The flow of the clients that have none. -/
def defaultFlow : String := "xtls-rprx-vision"

/-- A decoded object. -/
abbrev Object := List (String × Any)

/-- The value under a key. -/
def Object.get? (o : Object) (k : String) : Option Any := List.lookup k o

/-- The object with the value of a key written. -/
def Object.set (k : String) (v : Any) : Object → Object
  | [] => [(k, v)]
  | (k', v') :: rest =>
    if k = k' then (k, v) :: rest
    else if k < k' then (k, v) :: (k', v') :: rest
    else (k', v') :: Object.set k v rest

/-- The type of a decoded value in Go. -/
def goType : Any → String
  | .nil => "<nil>"
  | .bool _ => "bool"
  | .float _ _ => "float64"
  | .string _ => "string"
  | .slice _ => "[]interface \x7b\x7d"
  | .map _ => "map[string]interface \x7b\x7d"

/-- Why a configuration cannot be rendered. -/
inductive RenderError
  | template (message : String)
  | missingInbounds
  | inboundsType (v : Any)
  | missingInbound
  | inboundType (v : Any)
  | missingID (index : Nat)
  | missingSettings
  | settingsType (v : Any)
  | missingClients
  | clientsType (v : Any)

def RenderError.text : RenderError → String
  | template message => "render template: " ++ message
  | missingInbounds => "template missing inbounds array"
  | inboundsType v => "template inbounds has unexpected type " ++ goType v
  | missingInbound => "template missing inbound entry"
  | inboundType v => "template inbound 0 has unexpected type " ++ goType v
  | missingID index => "client " ++ toString index ++ " missing id"
  | missingSettings => "template inbound missing settings object"
  | settingsType v => "template inbound settings has unexpected type " ++ goType v
  | missingClients => "template inbound missing clients array"
  | clientsType v => "template inbound clients has unexpected type " ++ goType v

/-- The clients of an inbound have a flow, unless its network is `xhttp`. -/
def includesFlow (inbound : Object) : Bool :=
  match inbound.get? "streamSettings" with
  | some (.map settings) =>
    match Object.get? settings "network" with
    | some (.string network) => network != "xhttp"
    | _ => true
  | _ => true

/-- The entry of a client. -/
def Client.entry (client : Client) (includeFlow : Bool) : Object :=
  let email := Text.trimSpace client.email
  let flow := Text.trimSpace client.flow
  let entry : Object := [("id", .string (Text.trimSpace client.id))]
  let entry := if email ≠ "" then Object.set "email" (.string email) entry else entry
  if includeFlow then Object.set "flow" (.string (if flow = "" then defaultFlow else flow)) entry
  else entry

/-- The entries of the clients, which all need an identifier. -/
def clientObjects (includeFlow : Bool) : Nat → List Client → Except RenderError (List Any)
  | _, [] => .ok []
  | index, client :: clients =>
    if Text.trimSpace client.id = "" then .error (.missingID index) else
    (clientObjects includeFlow (index + 1) clients).map fun entries =>
      .map (client.entry includeFlow) :: entries

/-- The inbound with other clients. -/
def replaceInbound (inbound : Object) (clients : List Client) : Except RenderError Object :=
  match clientObjects (includesFlow inbound) 0 clients with
  | .error e => .error e
  | .ok entries =>
    match inbound.get? "settings" with
    | none => .error .missingSettings
    | some (.map settings) =>
      match Object.get? settings "clients" with
      | none => .error .missingClients
      | some (.slice _) =>
        .ok (Object.set "settings" (.map (Object.set "clients" (.slice entries) settings)) inbound)
      | some v => .error (.clientsType v)
    | some v => .error (.settingsType v)

/-- The template with the clients of its first inbound replaced. -/
def replaceClients (root : Object) (clients : List Client) : Except RenderError Object :=
  match root.get? "inbounds" with
  | none => .error .missingInbounds
  | some (.slice []) => .error .missingInbound
  | some (.slice (.map inbound :: rest)) =>
    (replaceInbound inbound clients).map fun inbound =>
      Object.set "inbounds" (.slice (.map inbound :: rest)) root
  | some (.slice (v :: _)) => .error (.inboundType v)
  | some v => .error (.inboundsType v)

/-- How an object is written as indented JSON. No proof depends on it. -/
class JSONText where
  marshalIndent : Object → String

/-- A generator: the template of its definition and domain, or the error it leads
    to, and the file it writes. -/
structure Generator where
  template : Except String Object
  outputPath : String

/-- The configuration for the clients (`Generator.Render`). -/
def Generator.render [JSONText] (g : Generator) (clients : List Client) :
    Except RenderError String :=
  match g.template with
  | .error message => .error (.template message)
  | .ok root => (replaceClients root clients).map fun root => JSONText.marshalIndent root ++ "\n"

end Accounts.Xray
