import Accounts.Overlay.Repository

/-!
# Signed configurations

What the overlay service hands out to a device (`buildSignedConfig`) and to a
gateway (`gatewayConfig`), with the policy of the network and, for the networks
that have one, the mesh of the devices that may reach each other
(`internal/overlay/service.go`, `internal/overlay/mesh.go`). The signature and
the entity tag are functions of the rest, and are left out.
-/

namespace Accounts.Overlay

open Text

/-- How a policy is written as JSON. No proof depends on it. -/
class PolicyJSON where
  marshal : PolicyArtifact → String

/-- The settings of the service. The last two are the frontend of the gateways
    that have none of their own. -/
structure Service where
  meshNetworks : List String := []
  enrollmentTTL : Int := 15 * Time.minute
  credentialTTL : Int := 30 * Time.day
  signedConfigTTL : Int := 10 * Time.minute
  localProxyPort : Nat := 51830
  xrayFrontend : String := ""
  xrayListenSocket : String := ""

/-- Times are kept to the second (`canonicalTime`). -/
def canonicalTime (t : Time) : Time := Time.truncate t Time.second

/-- The identifier of a configuration. -/
def configID [Sha256] (networkID deviceID : String) (generation : Nat) : String :=
  "cfg_" ++ left (Sha256.hex (networkID ++ "\x00" ++ deviceID ++ "\x00" ++ toString generation)) 32

/-! ## Policies -/

/-- The policy of a network without one: nothing but the control flows. -/
def defaultPolicyArtifact (networkID : String) (generation : Nat) : PolicyArtifact :=
  { schemaVersion := 1
    compilerVersion := "xconnect-acl-v1alpha1.1"
    networkID := networkID
    revision := generation
    defaultAction := "deny"
    protectedFlows := ["control:controller-session", "control:gateway-apply-result",
      "control:gateway-heartbeat", "control:gateway-policy-artifact", "control:gateway-snapshot"]
    rules := [] }

/-- The policy of a network, which has to be of its generation. -/
def policyArtifact (network : NetworkRecord) : Except OverlayError PolicyArtifact :=
  match network.policy with
  | none => .ok (defaultPolicyArtifact network.id network.configGeneration)
  | some policy =>
    if policy.networkID ≠ network.id ∨ policy.revision ≠ network.configGeneration then
      .error .generationConflict else
    .ok policy

/-! ## Meshes -/

namespace PolicyRule

/-- All ports, in order. -/
def allPorts (rule : PolicyRule) : Bool := rule.ports == List.range' 1 65535

/-- What a rule grants: one bit for each protocol, and one for whole devices. -/
def mask (rule : PolicyRule) : Nat :=
  let protocols := rule.protocols.foldl (fun mask protocol => mask |||
    if protocol = "icmp" then 1
    else if protocol = "tcp" then if rule.allPorts then 2 else 0
    else if protocol = "udp" then if rule.allPorts then 4 else 0
    else 0) 0
  if rule.wholeDevice && rule.action == "accept" && protocols == 7 then protocols ||| 8
  else protocols

/-- The rule is about the source and the destination. -/
def covers (rule : PolicyRule) (source destination : String) : Bool :=
  rule.sourceDevices.contains source && rule.destinationDevices.contains destination

end PolicyRule

/-- The rules in turn: a denial ends the evaluation, what is accepted adds up. -/
def grants (source destination : String) : List PolicyRule → Nat → Bool
  | [], mask => mask == 15
  | rule :: rules, mask =>
    if ¬ rule.covers source destination then grants source destination rules mask
    else if rule.action = "deny" then false
    else if rule.action = "accept" then grants source destination rules (mask ||| rule.mask)
    else grants source destination rules mask

/-- The source may reach the destination without restrictions (`grantEvaluator`). -/
def wholeDeviceAllowed (policy : PolicyArtifact) (source destination : String) : Bool :=
  if policy.defaultAction ≠ "deny" then false else grants source destination policy.rules 0

/-- Both may reach each other, and they are two devices with two keys. -/
def meshPair (policy : PolicyArtifact) (a b : DeviceRecord) : Bool :=
  a.id != b.id && a.wireGuardPublicKey != b.wireGuardPublicKey &&
    wholeDeviceAllowed policy a.id b.id && wholeDeviceAllowed policy b.id a.id

section

variable [Netip]

/-- A device that can be part of a mesh: an active one of a platform that
    supports it, whose key and address are written canonically. -/
def meshCapable (device : DeviceRecord) : Bool :=
  device.role == .one && device.status == .active &&
    ["linux", "darwin", "windows"].contains device.platform &&
    (Base64.decode Base64.std true device.wireGuardPublicKey).any (fun key =>
      key.length == 32 && Base64.encode key == device.wireGuardPublicKey) &&
    (Netip.parsePrefix device.wireGuardAddress).any fun address =>
      address.bits == address.addr.bitLen && address.text == device.wireGuardAddress

/-- The devices of the mesh of a network, and the policy. -/
def Store.meshDevices (s : Store) (network : NetworkRecord) :
    Except OverlayError (List DeviceRecord × PolicyArtifact) :=
  match policyArtifact network with
  | .error e => .error e
  | .ok policy =>
    let devices := (s.activeDevices network.id).filter meshCapable
    if devices.length > 256 then .error .invalidInput else .ok (devices, policy)

/-- A device in the mesh of another. -/
structure MeshPeer where
  deviceID : String
  publicKey : String
  address : String

/-- The mesh of a device: those it shares one with. -/
def Store.oneMeshSpec (s : Store) (self : DeviceRecord) (network : NetworkRecord) :
    Except OverlayError (Option (List MeshPeer)) :=
  if ¬ meshCapable self then .ok none else
  (s.meshDevices network).map fun (devices, policy) =>
    match (devices.filter (meshPair policy self)).map fun device =>
        (⟨device.id, device.wireGuardPublicKey, device.wireGuardAddress⟩ : MeshPeer) with
    | [] => none
    | peers => some peers

/-- A device of the relay, with those it may reach. -/
structure RelayPeer where
  deviceID : String
  publicKey : String
  allowedPeers : List String

/-- What the gateway relays between the devices. -/
def Store.relaySpec (s : Store) (network : NetworkRecord) :
    Except OverlayError (Option (List RelayPeer)) :=
  (s.meshDevices network).map fun (devices, policy) =>
    match (devices.map fun device =>
        (⟨device.id, device.wireGuardPublicKey,
          (devices.filter (meshPair policy device)).map (·.id)⟩ : RelayPeer)).filter
        (!·.allowedPeers.isEmpty) with
    | [] => none
    | peers => some peers

/-! ## Configurations of devices -/

/-- How a network is reached, with its defaults. -/
structure Transport where
  kind : String
  path : String
  mode : String
  host : String

/-- The transport of a network (`networkTransport`). -/
def NetworkRecord.transport (network : NetworkRecord) : Transport where
  kind := if trimSpace network.transportKind = "" then "vless-xhttp" else network.transportKind
  path := if trimSpace network.transportPath = "" then "/xconnect" else network.transportPath
  mode := if trimSpace network.transportMode = "" then "auto" else network.transportMode
  host := network.transportHost

/-- The policy that a configuration refers to. -/
structure PolicyReference where
  generation : Nat
  digest : String
  path : String

/-- What a device is to apply. -/
structure SignedConfig where
  schemaVersion : Nat
  configID : String
  networkID : String
  deviceID : String
  generation : Nat
  issuedAt : Time
  expiresAt : Time
  transport : Transport
  localProxyPort : Nat
  remoteHost : String
  remotePort : Nat
  serverName : String
  authID : String
  address : String
  gatewayID : String
  gatewayKey : String
  allowedIPs : String
  mtu : Nat
  policy : Option PolicyReference
  mesh : Option (List MeshPeer)

/-- The digest of a policy. -/
def policyDigest [Sha256] [PolicyJSON] (policy : PolicyArtifact) : String :=
  Sha256.hex (PolicyJSON.marshal policy)

variable [Sha256] [PolicyJSON]

/-- The reference to a policy. -/
def policyReference (generation : Nat) (policy : PolicyArtifact) : PolicyReference :=
  let digest := policyDigest policy
  ⟨generation, digest,
    "/api/overlay/v1/enrollment/policy-artifacts/" ++ toString generation ++ "/" ++ digest⟩

/-- The first generation is 1. -/
def NetworkRecord.generation (network : NetworkRecord) : Nat :=
  if network.configGeneration = 0 then 1 else network.configGeneration

omit [Netip] [PolicyJSON] in
/-- The configuration of a device in a network, with a policy and a mesh. -/
def Service.signedConfig (svc : Service) (now : Time) (device : DeviceRecord)
    (network : NetworkRecord) (v2 : Bool) (policy : Option PolicyReference)
    (mesh : Option (List MeshPeer)) : SignedConfig where
  schemaVersion := if v2 then 2 else 1
  configID := configID network.id device.id network.generation
  networkID := network.id
  deviceID := device.id
  generation := network.generation
  issuedAt := now
  expiresAt := canonicalTime (now + svc.signedConfigTTL)
  transport := network.transport
  localProxyPort := svc.localProxyPort
  remoteHost := network.gatewayEndpointHost
  remotePort := network.transportPort
  serverName := network.transportServerName
  authID := network.transportAuthID
  address := device.wireGuardAddress
  gatewayID := network.gatewayID
  gatewayKey := network.gatewayWireGuardKey
  allowedIPs := network.cidr
  mtu := if mesh.isSome then 1280 else 1420
  policy := policy
  mesh := mesh

/-- The configuration of a device in a network. -/
def Service.buildSignedConfig (svc : Service) (s : Store) (now : Time) (device : DeviceRecord)
    (network : NetworkRecord) (v2 : Bool) : Except OverlayError SignedConfig :=
  let now := canonicalTime now
  if ¬ v2 then .ok (svc.signedConfig now device network v2 none none) else
  match policyArtifact network with
  | .error e => .error e
  | .ok policy =>
    let reference := policyReference network.generation policy
    if ¬ svc.meshNetworks.contains network.id then
      .ok (svc.signedConfig now device network v2 (some reference) none) else
    (s.oneMeshSpec device network).map (svc.signedConfig now device network v2 (some reference))

/-! ## Configurations of gateways -/

/-- The frontend that a gateway runs (`resolveGatewayFrontend`). -/
def resolveGatewayFrontend (frontend socket : String) : Except OverlayError (String × String) :=
  let frontend := if trimSpace frontend = "" then "direct-tls" else trimSpace frontend
  if frontend ≠ "direct-tls" ∧ frontend ≠ "caddy-unix-h2c" then .error .invalidInput else
  if frontend = "direct-tls" then .ok (frontend, "") else
  let socket := if trimSpace socket = "" then "/run/xconnect-gateway/xray.sock"
    else trimSpace socket
  if ¬ hasPrefix socket "/" ∨ containsAny socket "\r\n" ∨ socket.utf8ByteSize > 4096 then
    .error .invalidInput else
  .ok (frontend, socket)

/-- The frontend of a network: its own, or that of the deployment. -/
def Service.gatewayFrontend (svc : Service) (network : NetworkRecord) :
    Except OverlayError (String × String) :=
  if trimSpace network.gatewayFrontend ≠ "" then
    resolveGatewayFrontend network.gatewayFrontend network.gatewayListenSocket
  else resolveGatewayFrontend svc.xrayFrontend svc.xrayListenSocket

/-- A device that the gateway serves. -/
structure GatewayPeer where
  deviceID : String
  wireGuardPublicKey : String
  wireGuardAddress : String

/-- What a gateway is to apply. -/
structure GatewaySignedConfig where
  configID : String
  networkID : String
  gatewayID : String
  generation : Nat
  issuedAt : Time
  expiresAt : Time
  address : String
  listenPort : Nat
  peers : List GatewayPeer
  transport : Transport
  serverName : String
  port : Nat
  authID : String
  frontend : String
  listenSocket : String
  mesh : Option (List RelayPeer)

/-- The address of the gateway: the first after that of the network, if none is set. -/
def NetworkRecord.gatewayAddress (network : NetworkRecord) : Except OverlayError String :=
  if network.gatewayWireGuardAddress ≠ "" then .ok network.gatewayWireGuardAddress else
  match Netip.parsePrefix network.cidr with
  | none => .error .invalidInput
  | some cidr =>
    match cidr.addr.next with
    | none => .ok "invalid IP/32"
    | some next => .ok (Netip.text next ++ "/32")

variable (svc : Service) (s : Store)

/-- What the gateway of a network relays, if the network has a mesh. -/
def Service.gatewayMesh (network : NetworkRecord) : Except OverlayError (Option (List RelayPeer)) :=
  if svc.meshNetworks.contains network.id then s.relaySpec network else .ok none

/-- The configuration of the gateway of a network. -/
def Service.buildGatewayConfig (now : Time) (network : NetworkRecord) :
    Except OverlayError GatewaySignedConfig := do
  let now := canonicalTime now
  let peers := ((s.activeDevices network.id).filter (·.role == .one)).map fun device =>
    (⟨device.id, device.wireGuardPublicKey, device.wireGuardAddress⟩ : GatewayPeer)
  let address ← network.gatewayAddress
  let (frontend, listenSocket) ← svc.gatewayFrontend network
  let mesh ← svc.gatewayMesh s network
  return {
    configID := configID network.id network.gatewayID network.configGeneration
    networkID := network.id
    gatewayID := network.gatewayID
    generation := network.configGeneration
    issuedAt := now
    expiresAt := canonicalTime (now + svc.signedConfigTTL)
    address := address
    listenPort := network.gatewayEndpointPort
    peers := peers
    transport := network.transport
    serverName := network.transportServerName
    port := network.transportPort
    authID := network.transportAuthID
    frontend := frontend
    listenSocket := listenSocket
    mesh := mesh }

end

end Accounts.Overlay
