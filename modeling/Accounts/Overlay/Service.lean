import Accounts.Overlay.Config

/-!
# The calls of the overlay service

Networks are set up and their devices invited, or registered and approved; a
device exchanges its invitation or its registration for a credential and an
enrolment token, opens sessions with the credential, and fetches configurations
and acknowledges them with the enrolment token (`internal/overlay/service.go`).

A call returns its result together with the tables after it: most calls leave
them as they are when they fail, but a registration that is found expired is
marked in any case, and a network is set up before its gateway is brought up to
date.
-/

namespace Accounts.Overlay

open Text Table Base64

/-- The result of a call, and the tables after it. -/
abbrev Result (α : Type) := Except OverlayError α × Store

/-- A call that is one transaction: the tables are as before when it fails. -/
def transaction {α : Type} (s : Store) : Except OverlayError (Store × α) → Result α
  | .ok (s', a) => (.ok a, s')
  | .error e => (.error e, s)

/-- A device identifier: up to 128 characters of the set, the first of them no sign. -/
def validDeviceID (id : String) : Bool :=
  let letter (c : Char) : Bool := ('a' ≤ c && c ≤ 'z') || ('0' ≤ c && c ≤ '9')
  match id.toList with
  | [] => false
  | c :: rest => letter c && rest.length ≤ 127 &&
    rest.all fun c => letter c || c == '.' || c == '_' || c == '-'

/-- A token: a kind, and 32 random bytes. -/
def validOpaque (value kind : String) : Bool :=
  value == trimSpace value && hasPrefix value kind &&
    (decode url false (trimPrefix value kind)).any (·.length == 32)

/-- Nothing is left of the address of the controller without the slashes at its end. -/
def noController (controllerURL : String) : Bool :=
  (trimSpace controllerURL).toList.all (· == '/')

/-- The random parts of the tokens of a device. -/
structure Secrets where
  credentialRawID : String
  credential : String
  enrollment : String

namespace Secrets

variable (secrets : Secrets)

/-- The credential of a device. -/
def credentialSecret : String :=
  "xdc_" ++ secrets.credentialRawID ++ "." ++ secrets.credential

/-- The enrolment token of a device. -/
def enrollmentSecret : String := "xenr_" ++ secrets.enrollment

/-- The records of the tokens. -/
def tokens [Sha256] (svc : Service) (now : Time) : NewTokens where
  credentialHash := hashSecret secrets.credentialSecret
  credential :=
    { deviceID := ""
      credentialID := "xdcid_" ++ secrets.credentialRawID
      issuedAt := canonicalTime now
      expiresAt := canonicalTime (now + svc.credentialTTL) }
  enrollmentHash := hashSecret secrets.enrollmentSecret
  enrollment :=
    { deviceID := ""
      issuedAt := canonicalTime now
      expiresAt := canonicalTime (now + svc.enrollmentTTL) }

end Secrets

/-- What a device gets when it is enrolled. -/
structure ExchangeResponse where
  enrollmentToken : String
  expiresAt : Time
  credentialID : String
  credential : String
  credentialExpiresAt : Time
  device : DeviceRecord
  network : NetworkRecord

/-- The response to an exchange. -/
def Secrets.response [Sha256] (secrets : Secrets) (svc : Service) (now : Time)
    (device : DeviceRecord) (network : NetworkRecord) : ExchangeResponse where
  enrollmentToken := secrets.enrollmentSecret
  expiresAt := (secrets.tokens svc now).enrollment.expiresAt
  credentialID := (secrets.tokens svc now).credential.credentialID
  credential := secrets.credentialSecret
  credentialExpiresAt := (secrets.tokens svc now).credential.expiresAt
  device := device
  network := network

/-! ## Networks -/

/-- The invitation that comes with a network. -/
structure BootstrapInvite where
  deviceID : String
  platform : String
  role : String
  expiresAt : Time

namespace BootstrapNetwork

variable (n : BootstrapNetwork)

/-- A network with the defaults of its transport. -/
def withTransportDefaults : BootstrapNetwork :=
  { n with
    transportKind := if trimSpace n.transportKind = "" then "vless-xhttp" else n.transportKind
    transportPath := if trimSpace n.transportPath = "" then "/xconnect" else n.transportPath
    transportMode := if trimSpace n.transportMode = "" then "auto" else n.transportMode }

/-- A network that can be set up. -/
def valid [Netip] : Bool :=
  let kind := trimSpace n.transportKind
  let path := trimSpace n.transportPath
  let mode := trimSpace n.transportMode
  !blank n.id && !blank n.cidr && !blank n.gatewayID &&
    !blank n.gatewayWireGuardKey && !blank n.gatewayEndpointHost &&
    1 ≤ n.gatewayEndpointPort && n.gatewayEndpointPort ≤ 65535 &&
    !blank n.transportServerName && n.transportPort == 443 && !blank n.transportAuthID &&
    (kind == "" || kind == "vless-xhttp") &&
    (path == "" || hasPrefix path "/" && path.utf8ByteSize ≤ 1024) &&
    (mode == "" || mode == "auto" || mode == "packet-up" || mode == "stream-up") &&
    (Netip.parsePrefix n.cidr).isSome &&
    (n.gatewayFrontend == "" ||
      (resolveGatewayFrontend n.gatewayFrontend n.gatewayListenSocket).isOk) &&
    (n.gatewayFrontend != "" || n.gatewayListenSocket == "")

end BootstrapNetwork

/-- The role of an invitation, which is a device's by default. -/
def inviteRole (role : String) : Option Role := if role = "" then some .one else Role.parse role

/-- The row of a network that is set up again. A new frontend is a new generation. -/
def NetworkRecord.updated (existing : NetworkRecord) (n : BootstrapNetwork) : NetworkRecord :=
  { toBootstrapNetwork := n
    policy := existing.policy
    configGeneration :=
      if existing.gatewayFrontend ≠ n.gatewayFrontend ∨
        existing.gatewayListenSocket ≠ n.gatewayListenSocket then existing.configGeneration + 1
      else existing.configGeneration }

section

variable [Netip] [Sha256]

/-- Setting up a network with a first invitation (`Seed`). A blank token is
    replaced by a new one, with the random part `opaqueToken`. -/
def Store.seed (s : Store) (now : Time) (n : BootstrapNetwork) (i : BootstrapInvite)
    (joinToken opaqueToken : String) : Except OverlayError (Store × String) :=
  let n := n.withTransportDefaults
  if ¬ n.valid then .error .invalidInput else
  if i.expiresAt.isZero ∨ i.expiresAt ≤ now then .error .invalidInput else
  match inviteRole i.role with
  | none => .error .invalidInput
  | some role =>
    let joinToken := if trimSpace joinToken = "" then "xjt_" ++ opaqueToken
      else trimSpace joinToken
    let invite : InviteRecord :=
      { networkID := n.id
        deviceID := i.deviceID
        platform := i.platform
        role := role
        expiresAt := canonicalTime i.expiresAt }
    let hash := hashSecret joinToken
    let invites := if hash ∈ s.invites then s.invites else s.invites.insert hash invite
    match s.networks.lookup n.id with
    | some existing =>
      if trimSpace existing.ownerUserID ≠ trimSpace n.ownerUserID then
        .error .forbidden else
      .ok ({ s with invites := invites }.putNetwork (existing.updated n), joinToken)
    | none =>
      .ok ({ s with invites := invites }.putNetwork { toBootstrapNetwork := n }, joinToken)

/-- The one gateway that is brought up to date when its network is set up. -/
def stableUATNetworkID : String := "net_uat"
def stableUATGatewayID : String := "gw-uat-tw-xconnect"
def stableUATGatewayHost : String := "tw-xconnect.svc.plus"

/-- The network and its invitation are those of that gateway. -/
def isStableUATGateway [Unicode] (n : BootstrapNetwork) (i : BootstrapInvite) : Bool :=
  n.id == stableUATNetworkID && n.gatewayID == stableUATGatewayID &&
    toLower (trimSpace n.gatewayEndpointHost) == stableUATGatewayHost &&
    i.deviceID == stableUATGatewayID && i.role == "gateway" && i.platform == "linux"

/-- A device of a network gets the key and the address of the gateway, and is active. -/
def NetworkRecord.rekeyed (network : NetworkRecord) (deviceID : String) (device : DeviceRecord) :
    DeviceRecord :=
  if device.id = deviceID ∧ device.networkID = network.id then
    { device with
      wireGuardPublicKey := network.gatewayWireGuardKey
      wireGuardAddress := network.gatewayWireGuardAddress
      status := .active }
  else device

section

variable (s : Store) (now : Time) (n : BootstrapNetwork) (i : BootstrapInvite)

omit [Netip] [Sha256] in
/-- That gateway gets the key of its network again, and is active again
    (`reconcileStableUATGatewayKey`). -/
def Store.reconcileStableUATGatewayKey [Unicode] : Except OverlayError Store :=
  if ¬ isStableUATGateway n i then .ok s else
  match s.networks.lookup stableUATNetworkID with
  | none => .error .recordNotFound
  | some network =>
    match s.deviceIn stableUATNetworkID stableUATGatewayID with
    | none => .ok s
    | some device =>
      if device.role ≠ .gateway then .error .conflict else
      if device.wireGuardPublicKey = network.gatewayWireGuardKey ∧ device.status = .active then .ok s
      else
      if s.devices.any (fun other => other.networkID == network.id && other.id != device.id &&
          other.wireGuardAddress == network.gatewayWireGuardAddress) then .error .duplicatedKey else
      let s := s.revokeCredentials device.id (canonicalTime now)
      let s := { s with devices := s.devices.map (network.rekeyed device.id) }
      .ok (s.putNetwork { network with configGeneration := network.configGeneration + 1 })

/-- Setting up a network for its owner. The call may fail after the network was set up. -/
def Store.adminBootstrap [Unicode] (controllerURL joinToken opaqueToken : String) : Result String :=
  match s.seed now n i joinToken opaqueToken with
  | .error e => (.error e, s)
  | .ok (s, joinToken) =>
    match s.reconcileStableUATGatewayKey now n i with
    | .error e => (.error e, s)
    | .ok s =>
      if noController controllerURL then (.error .invalidInput, s) else (.ok joinToken, s)

end

/-- What an owner invites a device with. -/
structure AdminInviteRequest where
  networkID : String
  deviceID : String
  platform : String
  role : String
  expiresAt : Time

omit [Netip] in
/-- Inviting a device to a network of the owner. -/
def Store.adminCreateInvite (s : Store) (now : Time) (ownerUserID controllerURL : String)
    (request : AdminInviteRequest) (opaqueToken : String) : Except OverlayError (Store × String) :=
  let ownerUserID := trimSpace ownerUserID
  let networkID := trimSpace request.networkID
  let deviceID := trimSpace request.deviceID
  let platform := trimSpace request.platform
  if ownerUserID = "" ∨ noController controllerURL ∨ networkID = "" ∨ ¬ validDeviceID deviceID ∨
      request.expiresAt.isZero ∨ request.expiresAt ≤ canonicalTime now then .error .invalidInput else
  match inviteRole (trimSpace request.role) with
  | none => .error .invalidInput
  | some role =>
    if ¬ ["linux", "darwin", "windows", "ios", "android"].contains platform then
      .error .invalidInput else
    match s.networks.lookup networkID with
    | none => .error .notFound
    | some network =>
      if network.ownerUserID ≠ ownerUserID then .error .notFound else
      let joinToken := "xjt_" ++ opaqueToken
      if hashSecret joinToken ∈ s.invites then .error .duplicatedKey else
      .ok ({ s with
        invites := s.invites.insert (hashSecret joinToken)
          { networkID := network.id
            deviceID := deviceID
            platform := platform
            role := role
            expiresAt := canonicalTime request.expiresAt } }, joinToken)

/-- A new policy of a network of the owner, in a new generation. -/
def Store.adminUpdatePolicy (s : Store) (ownerUserID networkID : String)
    (policy : PolicyArtifact) : Except OverlayError (Store × PolicyArtifact) :=
  match s.networks.lookup (trimSpace networkID) with
  | none => .error .notFound
  | some network =>
    if network.ownerUserID ≠ trimSpace ownerUserID then .error .notFound else
    if policy.networkID ≠ "" ∧ policy.networkID ≠ network.id ∨ policy.defaultAction ≠ "" ∧
        policy.defaultAction ≠ "deny" ∧ policy.defaultAction ≠ "allow" then .error .invalidInput else
    let generation := network.configGeneration + 1
    let policy := { policy with
      schemaVersion := 1
      compilerVersion := "xconnect-acl-v1alpha1.1"
      networkID := network.id
      revision := generation
      defaultAction := if policy.defaultAction = "" then "deny" else policy.defaultAction }
    .ok (s.putNetwork { network with policy := some policy, configGeneration := generation },
      policy)

/-- What repairs the owner of the stable gateway. -/
structure StableGatewayReconcileRequest where
  environment : String
  networkID : String
  gatewayID : String
  gatewayEndpointHost : String
  ownerUserID : String

/-- A device of a network gets an owner. -/
def DeviceRecord.reowned (device : DeviceRecord) (networkID owner : String) : DeviceRecord :=
  if device.networkID = networkID then { device with userUUID := owner, userID := owner }
  else device

/-- The devices and the registrations of a network get an owner. -/
def Store.reown (s : Store) (networkID owner : String) : Store :=
  { s with
    devices := s.devices.map (·.reowned networkID owner)
    registrations := mapRows (fun _ registration =>
      if registration.networkID = networkID then { registration with ownerUserID := owner }
      else registration) s.registrations }

/-- The network of the stable gateway, with its owner and its host. -/
def NetworkRecord.repaired [Unicode] (network : NetworkRecord) (owner : String) : NetworkRecord :=
  { network with
    ownerUserID := if trimSpace network.ownerUserID ≠ owner then owner
      else network.ownerUserID
    gatewayEndpointHost :=
      if toLower (trimSpace network.gatewayEndpointHost) ≠ stableUATGatewayHost then
        stableUATGatewayHost else network.gatewayEndpointHost }

/-- The stable gateway, with its network and all its devices, gets an owner. -/
def Store.reconcileStableGateway [Unicode] (s : Store) (request : StableGatewayReconcileRequest) :
    Except OverlayError Store :=
  let owner := trimSpace request.ownerUserID
  if toLower (trimSpace request.environment) ≠ "uat" ∨
      trimSpace request.networkID ≠ stableUATNetworkID ∨
      trimSpace request.gatewayID ≠ stableUATGatewayID ∨
      toLower (trimSpace request.gatewayEndpointHost) ≠ stableUATGatewayHost ∨
      owner = "" then .error .invalidInput else
  match s.networks.lookup stableUATNetworkID with
  | none => .error .notFound
  | some network =>
    if network.gatewayID ≠ stableUATGatewayID then .error .invalidInput else
    let updated := s.putNetwork (network.repaired owner)
    if trimSpace network.ownerUserID = owner then .ok updated else
    -- The owner is part of the key of a device.
    if s.devices.any (fun device => device.networkID == stableUATNetworkID &&
        s.devices.any fun other => other.networkID != stableUATNetworkID && other.id == device.id &&
          other.userUUID == owner) then .error .duplicatedKey else
    .ok (updated.reown stableUATNetworkID owner)

/-- A device was seen by an agent. -/
def Store.recordRuntimeObservation (s : Store) (now : Time) (networkID deviceID role : String) :
    Except OverlayError Store :=
  let networkID := trimSpace networkID
  let deviceID := trimSpace deviceID
  if networkID = "" ∨ deviceID = "" then .error .invalidInput else
  match Role.parse (trimSpace role) with
  | none => .error .invalidInput
  | some role =>
    let observed (device : DeviceRecord) : Bool :=
      device.id == deviceID && device.networkID == networkID && device.role == role &&
        device.status == .active
    if s.devices.countP observed ≠ 1 then .error .notFound else
    .ok (s.touchDevices observed (canonicalTime now))

/-! ## Revocation -/

section

variable (s : Store) (ownerUserID deviceID : String) (device : DeviceRecord)

/-- An active device of the owner with the identifier. -/
def Store.revocable : Bool :=
  device.id == deviceID && device.status == .active &&
    (s.networks.lookup device.networkID).any (·.ownerUserID == ownerUserID)

/-- A row after the revocation. -/
def Store.revokedRow : DeviceRecord :=
  if s.revocable ownerUserID deviceID device then { device with status := .revoked } else device

end

/-- Revoking the devices of an owner with an identifier, and the credentials of
    the devices with this identifier. Where the device that the last query finds
    is in a mesh, its network gets a new generation. -/
def Service.adminRevokeDevice (svc : Service) (s : Store) (now : Time) (pick : Nat)
    (ownerUserID deviceID : String) : Except OverlayError Store :=
  let ownerUserID := trimSpace ownerUserID
  let deviceID := trimSpace deviceID
  if ownerUserID = "" ∨ deviceID = "" then .error .invalidInput else
  if ¬ s.devices.any (s.revocable ownerUserID deviceID) then .error .notFound else
  let s := { s with devices := s.devices.map (s.revokedRow ownerUserID deviceID) }
  let s := s.revokeCredentials deviceID (canonicalTime now)
  match first (s.devicesWithID deviceID) pick with
  | none => .error .recordNotFound
  | some revoked =>
    if ¬ svc.meshNetworks.contains revoked.networkID then .ok s else
    match s.network revoked.networkID with
    | .error e => .error e
    | .ok network => (s.advanceNetworkGeneration network).map Prod.fst

/-! ## Registrations -/

/-- A request to enrol a device. -/
structure RegistrationRequest where
  networkID : String
  deviceID : String
  name : String
  hostname : String
  platform : String
  wireGuardPublicKey : String

def registrationTTL : Int := 15 * Time.minute
def registrationPendingLimit : Nat := 20
def registrationCreateWindow : Int := 15 * Time.minute
def registrationCreateWindowLimit : Nat := 20
def registrationDailyCreateWindow : Int := 24 * Time.hour
def registrationDailyCreateLimit : Nat := 100

/-- The registrations of a network that meet a condition. -/
def Store.countRegistrations (s : Store) (networkID : String) (p : RegistrationRecord → Bool) : Nat :=
  (rows s.registrations).countP fun registration =>
    registration.networkID == networkID && p registration

/-- A registration that can still be decided or exchanged. -/
def RegistrationRecord.isPending (registration : RegistrationRecord) (now : Time) : Bool :=
  registration.status == .pending && decide (now < registration.expiresAt)

/-- The network has as many registrations as it may have. -/
def Store.registrationLimited (s : Store) (now : Time) (registration : RegistrationRecord) : Bool :=
  let networkID := registration.networkID
  s.countRegistrations networkID (fun other => other.deviceID == registration.deviceID &&
      other.wireGuardPublicKeyFingerprint == registration.wireGuardPublicKeyFingerprint &&
      other.isPending now) != 0 ||
    registrationPendingLimit ≤ s.countRegistrations networkID (·.isPending now) ||
    registrationCreateWindowLimit ≤ s.countRegistrations networkID (fun other =>
      decide (now - registrationCreateWindow ≤ other.createdAt)) ||
    registrationDailyCreateLimit ≤ s.countRegistrations networkID fun other =>
      decide (now - registrationDailyCreateWindow ≤ other.createdAt)

/-- Some device of the network has the identifier or the key. -/
def Store.deviceTaken (s : Store) (networkID deviceID wireGuardPublicKey : String) : Bool :=
  s.devices.any fun device => device.networkID == networkID &&
    (device.id == deviceID || device.wireGuardPublicKey == wireGuardPublicKey)

/-- The bytes of a key, which may be padded or not. -/
def decodeKey (key : String) : Option (List Nat) :=
  (decode std true key).orElse fun _ => decode std false key

omit [Netip] in
/-- Recording a request to enrol a device. -/
def Store.register (s : Store) (now : Time) (request : RegistrationRequest)
    (registrationID opaqueToken : String) : Except OverlayError (Store × String) :=
  let networkID := trimSpace request.networkID
  let deviceID := trimSpace request.deviceID
  let name := trimSpace request.name
  let hostname := trimSpace request.hostname
  let platform := trimSpace request.platform
  match decodeKey (trimSpace request.wireGuardPublicKey) with
  | none => .error .invalidInput
  | some publicKey =>
    if networkID = "" ∨ networkID.utf8ByteSize > 128 ∨ ¬ validDeviceID deviceID ∨
        publicKey.length ≠ 32 ∨ name.utf8ByteSize > 255 ∨ hostname.utf8ByteSize > 255 then
      .error .invalidInput else
    if ¬ ["linux", "darwin", "windows"].contains platform then .error .invalidInput else
    let now := canonicalTime now
    let token := "xrt_" ++ opaqueToken
    match s.networks.lookup networkID with
    | none => .error .registrationNotAvailable
    | some network =>
      if blank network.ownerUserID then .error .registrationNotAvailable else
      let record : RegistrationRecord :=
        { networkID := networkID
          ownerUserID := network.ownerUserID
          deviceID := deviceID
          name := name
          hostname := hostname
          platform := platform
          wireGuardPublicKey := encode publicKey
          wireGuardPublicKeyFingerprint := Sha256.hex (String.ofList (publicKey.map Char.ofNat))
          tokenHash := hashSecret token
          expiresAt := canonicalTime (now + registrationTTL)
          createdAt := now }
      if s.deviceTaken networkID deviceID record.wireGuardPublicKey then .error .deviceConflict else
      if s.registrationLimited now record then .error .registrationLimited else
      if registrationID ∈ s.registrations ∨
          (rows s.registrations).any (·.tokenHash == record.tokenHash) then
        .error .duplicatedKey else
      .ok ({ s with registrations := s.registrations.insert registrationID record }, token)

/-- The registration with its status. -/
def Store.setRegistration (s : Store) (registrationID : String) (registration : RegistrationRecord) :
    Store :=
  { s with registrations := s.registrations.insert registrationID registration }

/-- Registrations of an owner that were not exchanged in time are marked (`AdminRegistrations`). -/
def Store.expireRegistrations (s : Store) (now : Time) (ownerUserID : String) :
    Except OverlayError Store :=
  let ownerUserID := trimSpace ownerUserID
  if ownerUserID = "" then .error .invalidInput else
  .ok { s with
    registrations := mapRows (fun _ registration =>
      if registration.ownerUserID = ownerUserID ∧
        (registration.status = .pending ∨ registration.status = .approved) ∧
        registration.expiresAt ≤ canonicalTime now then { registration with status := .expired }
      else registration) s.registrations }

/-- The decision of an owner. -/
inductive Decision
  | approve (networkID : String)
  | reject

/-- The registration after a decision. -/
def RegistrationRecord.decided (registration : RegistrationRecord) (now : Time) :
    Decision → RegistrationRecord
  | .approve _ => { registration with status := .approved, approvedAt := some now }
  | .reject => { registration with status := .rejected, rejectedAt := some now }

/-- An owner approves or rejects a registration. -/
def Store.adminTransitionRegistration (s : Store) (now : Time) (ownerUserID registrationID : String)
    (decision : Decision) : Result RegistrationRecord :=
  let ownerUserID := trimSpace ownerUserID
  let registrationID := trimSpace registrationID
  let now := canonicalTime now
  let requested := match decision with
    | .approve networkID => some (trimSpace networkID)
    | .reject => none
  if ownerUserID = "" ∨ registrationID = "" ∨ requested = some "" then (.error .invalidInput, s) else
  match s.registrations.lookup registrationID with
  | none => (.error .notFound, s)
  | some registration =>
    if registration.ownerUserID ≠ ownerUserID then (.error .notFound, s) else
    if requested.any (· != registration.networkID) then (.error .notFound, s) else
    if ¬ (s.networks.lookup registration.networkID).any (·.ownerUserID == ownerUserID) then
      (.error .notFound, s) else
    if registration.status ≠ .pending then (.error .registrationNotPending, s) else
    if registration.expiresAt ≤ now then
      (.error .registrationExpired,
        s.setRegistration registrationID { registration with status := .expired }) else
    let decided := registration.decided now decision
    (.ok decided, s.setRegistration registrationID decided)

/-- The device of an approved registration. -/
def RegistrationRecord.device (registration : RegistrationRecord) (network : NetworkRecord)
    (address : String) : DeviceRecord where
  id := registration.deviceID
  userUUID := network.ownerUserID
  userID := network.ownerUserID
  networkID := network.id
  role := .one
  name := registration.name
  platform := registration.platform
  hostname := registration.hostname
  wireGuardPublicKey := registration.wireGuardPublicKey
  wireGuardAddress := address

/-- An approved registration becomes a device of its network. The stored policy
    is not bound to the new generation. -/
def Store.exchangeApproved (s : Store) (now : Time) (registrationID : String)
    (registration : RegistrationRecord) (tokens : NewTokens) :
    Except OverlayError (Store × DeviceRecord × NetworkRecord) :=
  match s.network registration.networkID with
  | .error e => .error e
  | .ok network =>
    if network.ownerUserID ≠ registration.ownerUserID then .error .registrationNotAvailable else
    if s.deviceTaken registration.networkID registration.deviceID registration.wireGuardPublicKey then
      .error .deviceConflict else do
    let address ← s.allocateAddress network
    let device := registration.device network address
    let s ← s.insertDevice device
    if registration.consumedAt ≠ none then .error .registrationConsumed else do
    let network := { network with configGeneration := network.configGeneration + 1 }
    let s := (s.setRegistration registrationID
      { registration with status := .consumed, consumedAt := some now }).putNetwork network
    let s ← s.insertTokens tokens device.id
    return (s, device, network)

/-- Exchanging a registration for the tokens of its device. -/
def Service.exchangeRegistration (svc : Service) (s : Store) (now : Time)
    (registrationID token : String) (secrets : Secrets) : Result ExchangeResponse :=
  let registrationID := trimSpace registrationID
  let token := trimSpace token
  let now := canonicalTime now
  if registrationID = "" ∨ ¬ validOpaque token "xrt_" then (.error .invalidRegistrationToken, s) else
  match s.registrations.lookup registrationID with
  | none => (.error .invalidRegistrationToken, s)
  | some registration =>
    if registration.tokenHash ≠ hashSecret token then (.error .invalidRegistrationToken, s) else
    match registration.status with
    | .rejected => (.error .registrationRejected, s)
    | .consumed => (.error .registrationConsumed, s)
    | .expired => (.error .registrationExpired, s)
    | .pending =>
      if registration.expiresAt ≤ now then
        (.error .registrationExpired,
          s.setRegistration registrationID { registration with status := .expired })
      else (.error .registrationPending, s)
    | .approved =>
      if registration.expiresAt ≤ now then
        (.error .registrationExpired,
          s.setRegistration registrationID { registration with status := .expired })
      else transaction s ((s.exchangeApproved now registrationID registration
        (secrets.tokens svc now)).map fun (s, device, network) =>
          (s, secrets.response svc now device network))

/-! ## Invitations -/

/-- A request that can be exchanged for tokens. -/
def ExchangeRequest.valid (request : ExchangeRequest) : Bool :=
  validOpaque request.joinToken "xjt_" && validDeviceID request.deviceID &&
    !blank request.platform &&
    (decode std true request.wireGuardPublicKey).any (·.length == 32) &&
    request.name.utf8ByteSize ≤ 255 && request.hostname.utf8ByteSize ≤ 255 &&
    ["linux", "darwin", "windows", "ios", "android"].contains request.platform &&
    (Role.parse request.role).isSome

/-- Exchanging an invitation for the tokens of a device. -/
def Service.exchange (svc : Service) (s : Store) (now : Time) (request : ExchangeRequest)
    (secrets : Secrets) : Except OverlayError (Store × ExchangeResponse) :=
  if validOpaque (trimSpace request.joinToken) "xrt_" then .error .invalidToken else
  let request := { request with role := if request.role = "" then "one" else request.role }
  if ¬ request.valid then .error .invalidInput else
  let now := canonicalTime now
  let tokenHash := hashSecret request.joinToken
  match s.peekInvite tokenHash with
  | .error e => .error e
  | .ok invite =>
    if invite.deviceID ≠ "" ∧ invite.deviceID ≠ request.deviceID ∨
        invite.platform ≠ "" ∧ invite.platform ≠ request.platform ∨
        some invite.role ≠ Role.parse request.role then .error .inviteConstraint else
    (s.createDevice tokenHash request now (secrets.tokens svc now)).map fun (s, device, network) =>
      (s, secrets.response svc now device network)

end

/-! ## Sessions and configurations -/

/-- A session of a device. -/
structure DeviceSessionResponse where
  clientNonce : String
  enrollmentToken : String
  issuedAt : Time
  expiresAt : Time
  deviceID : String
  networkID : String

section

variable [Sha256]

/-- Opening a session with a credential: a new enrolment token. -/
def Service.mintSession (svc : Service) (s : Store) (now : Time) (pick : Nat)
    (credential clientNonce opaqueToken : String) :
    Except OverlayError (Store × DeviceSessionResponse) :=
  if blank clientNonce ∨ clientNonce.utf8ByteSize > 128 then .error .invalidInput else
  let now := canonicalTime now
  match s.credential (hashSecret credential) pick with
  | .error _ => .error .invalidToken
  | .ok (record, device, network) =>
    if record.revokedAt ≠ none ∨ record.expiresAt ≤ now ∨ device.status ≠ .active then
      .error .invalidToken else
    let token := "xenr_" ++ opaqueToken
    let expires := canonicalTime (now + svc.enrollmentTTL)
    (s.insertEnrollment (hashSecret token)
      { deviceID := device.id, issuedAt := now, expiresAt := expires }).map fun s =>
        (s, ⟨clientNonce, token, now, expires, device.id, network.id⟩)

section

variable (s : Store) (now : Time)

section

variable (pick : Nat) (enrollmentToken : String)

/-- The device and the network of an enrolment token that is still valid. -/
def Store.enrolled : Except OverlayError (DeviceRecord × NetworkRecord) :=
  match s.enrollment (hashSecret enrollmentToken) pick with
  | .error _ => .error .invalidToken
  | .ok (enrollment, device, network) =>
    if enrollment.consumedAt ≠ none ∨ enrollment.expiresAt ≤ canonicalTime now then
      .error .invalidToken else
    .ok (device, network)

/-- An acknowledgement with an enrolment token. The status of the device is not looked at. -/
def Store.ackEnrollment (request : SignedConfigAckRequest) :
    Except OverlayError (Store × SignedConfigAckResponse) :=
  match s.enrolled now pick enrollmentToken with
  | .error e => .error e
  | .ok (device, network) =>
    if request.deviceID ≠ device.id ∨
        request.configID ≠ configID network.id device.id request.generation ∨
        request.appliedAt.isZero then .error .forbidden else
    s.ack request device network (canonicalTime now)

end

/-- An acknowledgement of a user. -/
def Store.ackUser (userID : String) (request : SignedConfigAckRequest) :
    Except OverlayError (Store × SignedConfigAckResponse) :=
  match s.userDevice userID request.deviceID with
  | .error e => .error e
  | .ok (device, network) =>
    if request.configID ≠ configID network.id device.id request.generation ∨
        request.appliedAt.isZero then .error .forbidden else
    s.ack request device network (canonicalTime now)

/-- The policy of the network of a device, if it is the one of the digest. -/
def Store.policyArtifact [PolicyJSON] (pick : Nat) (enrollmentToken : String) (generation : Nat)
    (digest : String) : Except OverlayError PolicyArtifact :=
  match s.enrolled now pick enrollmentToken with
  | .error e => .error e
  | .ok (device, network) =>
    if generation ≠ network.configGeneration ∨ device.status ≠ .active then .error .forbidden else
    match Overlay.policyArtifact network with
    | .error e => .error e
    | .ok policy => if policyDigest policy ≠ digest then .error .notFound else .ok policy

end

variable [Netip] [PolicyJSON] (svc : Service) (s : Store)

/-- The configuration of the device of an enrolment token. The status of the
    device is not looked at. -/
def Service.enrollmentConfig (now : Time) (pick : Nat) (enrollmentToken deviceID networkID : String)
    (v2 : Bool) : Except OverlayError SignedConfig :=
  match s.enrolled now pick enrollmentToken with
  | .error e => .error e
  | .ok (device, network) =>
    if trimSpace deviceID ≠ device.id ∨ networkID ≠ "" ∧ networkID ≠ network.id then
      .error .forbidden else
    svc.buildSignedConfig s now device network v2

/-- The configuration of a device of a user. -/
def Service.userConfig (now : Time) (userID deviceID networkID : String) (v2 : Bool) :
    Except OverlayError SignedConfig :=
  match s.userDevice userID deviceID with
  | .error e => .error e
  | .ok (device, network) =>
    if networkID ≠ "" ∧ networkID ≠ network.id then .error .forbidden else
    svc.buildSignedConfig s now device network v2

/-- The configuration of a gateway, for its enrolment token. -/
def Service.gatewayConfig (now : Time) (pick : Nat) (enrollmentToken : String) :
    Except OverlayError GatewaySignedConfig :=
  match s.enrolled now pick enrollmentToken with
  | .error e => .error e
  | .ok (device, network) =>
    if device.status ≠ .active then .error .invalidToken else
    if device.role ≠ .gateway ∨ device.id ≠ network.gatewayID then .error .forbidden else
    svc.buildGatewayConfig s now network

end

end Accounts.Overlay
