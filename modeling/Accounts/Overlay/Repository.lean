import Accounts.Base.Check
import Accounts.Base.Encoding
import Accounts.Base.Table
import Accounts.Base.World
import Mathlib.Data.List.Sort

/-!
# The records of the overlay networks

Networks, invitations, devices, credentials, enrolments, acknowledgements and
registrations (`internal/overlay/repository.go`), and the calls of the
repository on them. Only the hashes of tokens are stored.

The key of a device is its identifier with its owner, so that two owners may
have devices with the same identifier, also in different networks.
Credentials and enrolments name their device by its identifier alone, and a
query for it finds any of the devices with the identifier. Which one is a choice
of the database (`first`). A generation counts registrations from 0, and does
not come near the bound `2 ^ 64` of its type.
-/

namespace Accounts.Overlay

open Table

/-! ## Records -/

inductive Role
  | one
  | gateway
  deriving DecidableEq

/-- The role with a name. -/
def Role.parse (name : String) : Option Role :=
  if name = "one" then some .one else if name = "gateway" then some .gateway else none

inductive DeviceStatus
  | active
  | revoked
  deriving DecidableEq

inductive RegistrationStatus
  | pending
  | approved
  | rejected
  | expired
  | consumed
  deriving DecidableEq

/-- A rule of a policy. -/
structure PolicyRule where
  wholeDevice : Bool := false
  id : String
  action : String
  sourceDevices : List String
  destinationDevices : List String
  protocols : List String
  ports : List Nat
  deriving DecidableEq

/-- Which devices of a network may reach which. -/
structure PolicyArtifact where
  schemaVersion : Nat := 1
  compilerVersion : String := ""
  networkID : String := ""
  revision : Nat := 0
  defaultAction : String := ""
  protectedFlows : List String := []
  rules : List PolicyRule := []
  deriving DecidableEq

/-- A network as its owner sets it up. -/
structure BootstrapNetwork where
  id : String
  displayName : String := ""
  cidr : String
  gatewayID : String
  gatewayWireGuardKey : String
  gatewayWireGuardAddress : String := ""
  gatewayEndpointHost : String
  gatewayEndpointPort : Nat
  transportServerName : String
  transportPort : Nat
  transportAuthID : String
  transportKind : String := ""
  transportPath : String := ""
  transportMode : String := ""
  transportHost : String := ""
  gatewayFrontend : String := ""
  gatewayListenSocket : String := ""
  ownerUserID : String := ""

/-- A network. Its policy is stored as JSON, and empty until it is set. -/
structure NetworkRecord extends BootstrapNetwork where
  policy : Option PolicyArtifact := none
  configGeneration : Nat := 1

/-- An invitation to enrol a device, for one use. -/
structure InviteRecord where
  networkID : String
  deviceID : String
  platform : String
  role : Role
  expiresAt : Time
  remainingUses : Nat := 1
  consumedAt : Option Time := none

/-- A device of a network. -/
structure DeviceRecord where
  id : String
  userUUID : String
  userID : String
  networkID : String
  role : Role
  name : String
  platform : String
  hostname : String
  wireGuardPublicKey : String
  wireGuardAddress : String
  status : DeviceStatus := .active
  lastSeenAt : Option Time := none

/-- What a device opens sessions with. -/
structure CredentialRecord where
  deviceID : String
  credentialID : String
  issuedAt : Time
  expiresAt : Time
  revokedAt : Option Time := none

/-- A session of a device. No call sets the time of its consumption. -/
structure EnrollmentRecord where
  deviceID : String
  issuedAt : Time
  expiresAt : Time
  consumedAt : Option Time := none

/-- A configuration was applied by a device. -/
structure AckRecord where
  deviceID : String
  networkID : String
  generation : Nat
  configID : String
  appliedAt : Time
  receivedAt : Time

/-- A request to enrol a device, which the owner of the network decides. -/
structure RegistrationRecord where
  networkID : String
  ownerUserID : String
  deviceID : String
  name : String
  hostname : String
  platform : String
  wireGuardPublicKey : String
  wireGuardPublicKeyFingerprint : String
  tokenHash : String
  status : RegistrationStatus := .pending
  expiresAt : Time
  createdAt : Time
  approvedAt : Option Time := none
  rejectedAt : Option Time := none
  consumedAt : Option Time := none

/-- The tables: invitations, credentials and enrolments by the hashes of their tokens. -/
structure Store where
  networks : Table String NetworkRecord
  invites : Table String InviteRecord
  devices : List DeviceRecord
  credentials : Table String CredentialRecord
  enrollments : Table String EnrollmentRecord
  acks : List AckRecord
  registrations : Table String RegistrationRecord

/-- No network yet. -/
def Store.init : Store := ⟨∅, ∅, [], ∅, ∅, [], ∅⟩

/-- Why a call is refused. -/
inductive OverlayError
  | invalidToken
  | inviteConstraint
  | deviceConflict
  | notFound
  | generationConflict
  | forbidden
  | invalidInput
  | registrationNotAvailable
  | registrationLimited
  | invalidRegistrationToken
  | registrationPending
  | registrationRejected
  | registrationExpired
  | registrationConsumed
  | registrationNotPending
  | conflict
  | addressPoolExhausted
  /-- A record that another one names is missing. -/
  | recordNotFound
  /-- A constraint of the tables does not hold. -/
  | duplicatedKey
  deriving DecidableEq

/-! ## Queries -/

/-- The row a query for the first of several finds: they are not ordered any
    further, and `pick` is the choice. -/
def first {α : Type} (rows : List α) (pick : Nat) : Option α := rows[pick % rows.length]?

theorem first_mem {α : Type} {rows : List α} {pick : Nat} {x : α}
    (h : first rows pick = some x) : x ∈ rows :=
  List.mem_of_getElem? h

/-- The hash of a token (`HashSecret`). -/
def hashSecret [Sha256] (secret : String) : String := Sha256.hex secret

namespace Store

/-- The devices with an identifier, in any network. -/
def devicesWithID (s : Store) (id : String) : List DeviceRecord :=
  s.devices.filter (·.id == id)

/-- The device of a network with an identifier. -/
def deviceIn (s : Store) (networkID id : String) : Option DeviceRecord :=
  s.devices.find? fun device => device.id == id && device.networkID == networkID

/-- An invitation, by the hash of its token. -/
def peekInvite (s : Store) (tokenHash : String) : Except OverlayError InviteRecord :=
  match s.invites.lookup tokenHash with
  | none => .error .invalidToken
  | some invite => .ok invite

/-- A network. -/
def network (s : Store) (id : String) : Except OverlayError NetworkRecord :=
  match s.networks.lookup id with
  | none => .error .notFound
  | some network => .ok network

/-- A device that a credential or an enrolment names, with its network. -/
def deviceAndNetwork (s : Store) (deviceID : String) (pick : Nat) :
    Except OverlayError (DeviceRecord × NetworkRecord) :=
  match first (s.devicesWithID deviceID) pick with
  | none => .error .recordNotFound
  | some device => (s.network device.networkID).map fun network => (device, network)

/-- The credential with a hash, its device and its network. -/
def credential (s : Store) (hash : String) (pick : Nat) :
    Except OverlayError (CredentialRecord × DeviceRecord × NetworkRecord) :=
  match s.credentials.lookup hash with
  | none => .error .invalidToken
  | some credential => (s.deviceAndNetwork credential.deviceID pick).map fun r => (credential, r)

/-- The enrolment with a hash, its device and its network. -/
def enrollment (s : Store) (hash : String) (pick : Nat) :
    Except OverlayError (EnrollmentRecord × DeviceRecord × NetworkRecord) :=
  match s.enrollments.lookup hash with
  | none => .error .invalidToken
  | some enrollment => (s.deviceAndNetwork enrollment.deviceID pick).map fun r => (enrollment, r)

/-- An active device of a user, with its network. -/
def userDevice (s : Store) (userID deviceID : String) :
    Except OverlayError (DeviceRecord × NetworkRecord) :=
  match s.devices.find? fun device => device.id == deviceID && device.userID == userID &&
      device.status == .active with
  | none => .error .forbidden
  | some device => (s.network device.networkID).map fun network => (device, network)

/-- The active devices of a network. -/
def activeDevices (s : Store) (networkID : String) : List DeviceRecord :=
  (s.devices.filter fun device =>
    device.networkID == networkID && device.status == .active).insertionSort fun a b => a.id ≤ b.id

end Store

/-! ## Addresses -/

section

variable [Netip]

/-- No device of the network has the address. -/
def Store.addressFree (s : Store) (networkID address : String) : Bool :=
  s.devices.all fun device => device.networkID != networkID || device.wireGuardAddress != address

/-- The first address from `candidate` on that is in the network, and neither its
    own address nor that of the gateway nor taken. -/
def Store.findAddress (s : Store) (networkID : String) (network : Netip.Prefix)
    (gatewayAddress : Option Netip.Addr) :
    Nat → Netip.Addr → Option String
  | 0, _ => none
  | fuel + 1, candidate =>
    if ¬ network.contains candidate then none else
    let address := Netip.text candidate ++ "/32"
    if candidate ≠ network.addr ∧ some candidate ≠ gatewayAddress ∧
        s.addressFree networkID address then some address else
    match candidate.next with
    | none => none
    | some next => findAddress s networkID network gatewayAddress fuel next

/-- A free address for a new device. -/
def Store.allocateAddress (s : Store) (network : NetworkRecord) : Except OverlayError String :=
  match Netip.parsePrefix network.cidr with
  | none => .error .invalidInput
  | some cidr =>
    let configured := Text.trimSpace network.gatewayWireGuardAddress
    let find (gatewayAddress : Option Netip.Addr) : Except OverlayError String :=
      -- A network has as many addresses as its free bits can number.
      match s.findAddress network.id cidr gatewayAddress (2 ^ (cidr.addr.bitLen - cidr.bits))
          cidr.addr with
      | none => .error .addressPoolExhausted
      | some address => .ok address
    if configured = "" then find cidr.addr.next else
    match Netip.parsePrefix configured with
    | none => .error .invalidInput
    | some parsed => if ¬ cidr.contains parsed.addr then .error .invalidInput else find (some parsed.addr)

/-- The address of a new device: that of the network, for its gateway. -/
def Store.deviceAddress (s : Store) (role : Role) (network : NetworkRecord) :
    Except OverlayError String :=
  if role = .gateway then .ok network.gatewayWireGuardAddress else s.allocateAddress network

end

/-! ## Writes -/

namespace Store

variable (s : Store)

section

variable (network : NetworkRecord)

/-- The row of a network is written. -/
def putNetwork : Store :=
  { s with networks := s.networks.insert network.id network }

/-- The next generation of a network and its policy are written, if the
    generation is still the one that was read. -/
def writeGeneration (policy : Option PolicyArtifact) :
    Except OverlayError (Store × NetworkRecord) :=
  match s.networks.lookup network.id with
  | none => .error .generationConflict
  | some row =>
    if row.configGeneration ≠ network.configGeneration then .error .generationConflict else
    let next := network.configGeneration + 1
    .ok (s.putNetwork { row with configGeneration := next, policy := policy },
      { network with configGeneration := next, policy := policy })

/-- A membership change: the next generation, which the stored policy stays bound
    to (`advanceNetworkGeneration`). -/
def advanceNetworkGeneration : Except OverlayError (Store × NetworkRecord) :=
  match network.policy with
  | none => s.writeGeneration network none
  | some policy =>
    if policy.networkID ≠ network.id ∨ policy.revision ≠ network.configGeneration then
      .error .generationConflict else
    s.writeGeneration network (some { policy with revision := network.configGeneration + 1 })

end

/-- A new device: its key is new, and so is its address in the network. -/
def insertDevice (device : DeviceRecord) : Except OverlayError Store :=
  if s.devices.any (fun other => other.id == device.id && other.userUUID == device.userUUID ||
      other.networkID == device.networkID && other.wireGuardAddress == device.wireGuardAddress) then
    .error .duplicatedKey else
  .ok { s with devices := s.devices ++ [device] }

/-- A new credential, with a new hash. -/
def insertCredential (hash : String) (credential : CredentialRecord) : Except OverlayError Store :=
  if hash ∈ s.credentials then .error .duplicatedKey else
  .ok { s with credentials := s.credentials.insert hash credential }

/-- A new enrolment, with a new hash. -/
def insertEnrollment (hash : String) (enrollment : EnrollmentRecord) : Except OverlayError Store :=
  if hash ∈ s.enrollments then .error .duplicatedKey else
  .ok { s with enrollments := s.enrollments.insert hash enrollment }

/-- The credentials of the devices with an identifier are revoked, in whatever
    network the devices are. -/
def revokeCredentials (deviceID : String) (now : Time) : Store :=
  { s with
    credentials := mapRows (fun _ credential =>
      if credential.deviceID = deviceID ∧ credential.revokedAt = none then
        { credential with revokedAt := some now } else credential) s.credentials }

/-- The devices with an identifier were seen, in whatever network they are. -/
def touchDevices (p : DeviceRecord → Bool) (now : Time) : Store :=
  { s with
    devices := s.devices.map fun device =>
      if p device then { device with lastSeenAt := some now } else device }

end Store

/-! ## Enrolment -/

/-- What a device sends with its invitation. -/
structure ExchangeRequest where
  joinToken : String
  deviceID : String
  name : String
  platform : String
  hostname : String
  wireGuardPublicKey : String
  role : String

/-- A new credential and a new enrolment, with the hashes of their tokens. The
    device is filled in. -/
structure NewTokens where
  credentialHash : String
  credential : CredentialRecord
  enrollmentHash : String
  enrollment : EnrollmentRecord

section

variable (s : Store)

/-- The tokens of a device are recorded. -/
def Store.insertTokens (tokens : NewTokens) (deviceID : String) :
    Except OverlayError Store := do
  let s ← s.insertCredential tokens.credentialHash { tokens.credential with deviceID := deviceID }
  s.insertEnrollment tokens.enrollmentHash { tokens.enrollment with deviceID := deviceID }

/-- A device is enrolled in a network, and gets its tokens. -/
def Store.enrol (network : NetworkRecord) (device : DeviceRecord) (tokens : NewTokens) :
    Except OverlayError (Store × NetworkRecord) := do
  let s ← s.insertDevice device
  let (s, network) ← s.advanceNetworkGeneration network
  let s ← s.insertTokens tokens device.id
  return (s, network)

/-- A gateway whose state was lost gets new tokens. -/
def Store.reenrol (deviceID : String) (now : Time) (tokens : NewTokens) :
    Except OverlayError Store :=
  (s.revokeCredentials deviceID now).insertTokens tokens deviceID

/-- Using an invitation. The device comes with its network; an active gateway
    with the key of the network is not created again. -/
def Store.createDevice [Netip] (tokenHash : String) (request : ExchangeRequest) (now : Time)
    (tokens : NewTokens) : Except OverlayError (Store × DeviceRecord × NetworkRecord) :=
  match s.invites.lookup tokenHash with
  | none => .error .invalidToken
  | some invite =>
    if invite.remainingUses = 0 ∨ invite.expiresAt ≤ now ∨ invite.consumedAt ≠ none then
      .error .invalidToken else
    let s := { s with
      invites := s.invites.insert tokenHash
        { invite with remainingUses := 0, consumedAt := some now } }
    match s.network invite.networkID with
    | .error e => .error e
    | .ok network =>
      if invite.role = .gateway ∧ request.wireGuardPublicKey ≠ network.gatewayWireGuardKey then
        .error .invalidInput else
      match s.deviceIn invite.networkID request.deviceID with
      | some existing =>
        if invite.role ≠ .gateway ∨ existing.role ≠ .gateway ∨ existing.status ≠ .active ∨
            existing.wireGuardPublicKey ≠ request.wireGuardPublicKey ∨
            existing.id ≠ network.gatewayID then .error .deviceConflict else
        (s.reenrol existing.id now tokens).map fun s => (s, existing, network)
      | none => do
        let address ← s.deviceAddress invite.role network
        let device : DeviceRecord :=
          { id := request.deviceID
            userUUID := network.ownerUserID
            userID := network.ownerUserID
            networkID := invite.networkID
            role := invite.role
            name := request.name
            platform := request.platform
            hostname := request.hostname
            wireGuardPublicKey := request.wireGuardPublicKey
            wireGuardAddress := address }
        let (s, network) ← s.enrol network device tokens
        return (s, device, network)

end

/-! ## Acknowledgements -/

/-- What a device reports about a configuration. -/
structure SignedConfigAckRequest where
  generation : Nat
  configID : String
  deviceID : String
  appliedAt : Time

/-- The acknowledgement as it is recorded, and whether it was there already. -/
structure SignedConfigAckResponse where
  duplicate : Bool
  ack : AckRecord

/-- Recording an acknowledgement. -/
def Store.ack (s : Store) (request : SignedConfigAckRequest) (device : DeviceRecord)
    (network : NetworkRecord) (now : Time) :
    Except OverlayError (Store × SignedConfigAckResponse) :=
  if request.generation ≠ network.configGeneration then .error .generationConflict else
  match s.acks.find? fun ack => ack.deviceID == device.id && ack.generation == request.generation with
  | some existing =>
    if existing.configID ≠ request.configID ∨ existing.deviceID ≠ request.deviceID then
      .error .generationConflict else
    .ok (s.touchDevices (·.id == device.id) now, ⟨true, existing⟩)
  | none =>
    let record : AckRecord :=
      { deviceID := device.id
        networkID := network.id
        generation := request.generation
        configID := request.configID
        appliedAt := Time.truncate request.appliedAt Time.second
        receivedAt := Time.truncate now Time.second }
    .ok ({ s with acks := s.acks ++ [record] }.touchDevices (·.id == device.id) now, ⟨false, record⟩)

/-! ## Networks -/

/-- Removing a network of an owner with all its records, unless another network
    has a device with an identifier of one of its devices (`DeleteNetwork`). -/
def Store.deleteNetwork (s : Store) (ownerUserID networkID : String) : Except OverlayError Store :=
  let ownerUserID := Text.trimSpace ownerUserID
  let networkID := Text.trimSpace networkID
  if ownerUserID = "" ∨ networkID = "" then .error .invalidInput else
  match s.networks.lookup networkID with
  | none => .error .notFound
  | some network =>
    if network.ownerUserID ≠ ownerUserID then .error .notFound else
    let deviceIDs := (s.devices.filter (·.networkID == networkID)).map (·.id)
    if s.devices.any (fun device => deviceIDs.contains device.id && device.networkID != networkID) then
      .error .deviceConflict else
    .ok
      { networks := s.networks.erase networkID
        invites := filter (fun _ invite => invite.networkID != networkID) s.invites
        devices := s.devices.filter (·.networkID != networkID)
        credentials := filter (fun _ credential => !deviceIDs.contains credential.deviceID)
          s.credentials
        enrollments := filter (fun _ enrollment => !deviceIDs.contains enrollment.deviceID)
          s.enrollments
        acks := s.acks.filter (·.networkID != networkID)
        registrations := filter (fun _ registration => registration.networkID != networkID)
          s.registrations }

end Accounts.Overlay
