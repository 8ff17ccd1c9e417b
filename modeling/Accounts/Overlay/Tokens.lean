import Accounts.Base.Run
import Accounts.Overlay.Service

/-!
# Tokens and the devices they were issued to

Runs of the overlay service: the calls in any order, each as a whole
(`Action.call`). The system remembers to which device every token was issued,
and which tokens were issued to a device that was revoked since (`System`).
-/

namespace Accounts.Overlay

/-! ## Calls -/

/-- A call, with what it reads from outside: the time, the random parts of new
    tokens, and the choice of the database among the devices of an identifier. -/
inductive Action
  | seed (now : Time) (n : BootstrapNetwork) (i : BootstrapInvite) (joinToken opaqueToken : String)
  | adminBootstrap (now : Time) (n : BootstrapNetwork) (i : BootstrapInvite)
      (controllerURL joinToken opaqueToken : String)
  | adminCreateInvite (now : Time) (ownerUserID controllerURL : String)
      (request : AdminInviteRequest) (opaqueToken : String)
  | adminUpdatePolicy (ownerUserID networkID : String) (policy : PolicyArtifact)
  | adminDeleteNetwork (ownerUserID networkID : String)
  | reconcileStableGateway (request : StableGatewayReconcileRequest)
  | recordRuntimeObservation (now : Time) (networkID deviceID role : String)
  | adminRevokeDevice (now : Time) (pick : Nat) (ownerUserID deviceID : String)
  | register (now : Time) (request : RegistrationRequest) (registrationID opaqueToken : String)
  | expireRegistrations (now : Time) (ownerUserID : String)
  | adminTransitionRegistration (now : Time) (ownerUserID registrationID : String)
      (decision : Decision)
  | exchangeRegistration (now : Time) (registrationID token : String) (secrets : Secrets)
  | exchange (now : Time) (request : ExchangeRequest) (secrets : Secrets)
  | mintSession (now : Time) (pick : Nat) (credential clientNonce opaqueToken : String)
  | enrollmentConfig (now : Time) (pick : Nat) (enrollmentToken deviceID networkID : String)
      (v2 : Bool)
  | gatewayConfig (now : Time) (pick : Nat) (enrollmentToken : String)
  | policyArtifact (now : Time) (pick : Nat) (enrollmentToken : String) (generation : Nat)
      (digest : String)
  | ackEnrollment (now : Time) (pick : Nat) (enrollmentToken : String)
      (request : SignedConfigAckRequest)
  | userConfig (now : Time) (userID deviceID networkID : String) (v2 : Bool)
  | ackUser (now : Time) (userID : String) (request : SignedConfigAckRequest)

/-- What a call returns. -/
inductive Reply
  | refused (e : OverlayError)
  | done
  | enrolled (r : ExchangeResponse)
  | session (r : DeviceSessionResponse)
  | config (c : SignedConfig)
  | gateway (c : GatewaySignedConfig)
  | policy (p : PolicyArtifact)
  | ack (r : SignedConfigAckResponse)

namespace Store

section

variable {α : Type} (s : Store) (f : α → Reply)

/-- A call that only reads. -/
def reading : Except OverlayError α → Reply × Store
  | .ok a => (f a, s)
  | .error e => (.refused e, s)

/-- A call that is one transaction. -/
def writing : Except OverlayError (Store × α) → Reply × Store
  | .ok (s', a) => (f a, s')
  | .error e => (.refused e, s)

end

/-- A call that is one transaction, and returns nothing. -/
def changing (s : Store) : Except OverlayError Store → Reply × Store
  | .ok s' => (.done, s')
  | .error e => (.refused e, s)

end Store

/-- A call that may fail after it has changed the tables. -/
def Result.reply {α : Type} (f : α → Reply) : Result α → Reply × Store
  | (.ok a, s) => (f a, s)
  | (.error e, s) => (.refused e, s)

section

variable [Unicode] [Netip] [Sha256] [PolicyJSON] (svc : Service)

/-- The reply to a call, and the tables after it. -/
def Action.call (s : Store) : Action → Reply × Store
  | .seed now n i joinToken opaqueToken =>
    s.writing (fun _ => .done) (s.seed now n i joinToken opaqueToken)
  | .adminBootstrap now n i controllerURL joinToken opaqueToken =>
    (s.adminBootstrap now n i controllerURL joinToken opaqueToken).reply fun _ => .done
  | .adminCreateInvite now owner controllerURL request opaqueToken =>
    s.writing (fun _ => .done) (s.adminCreateInvite now owner controllerURL request opaqueToken)
  | .adminUpdatePolicy owner networkID policy =>
    s.writing (fun _ => .done) (s.adminUpdatePolicy owner networkID policy)
  | .adminDeleteNetwork owner networkID => s.changing (s.deleteNetwork owner networkID)
  | .reconcileStableGateway request => s.changing (s.reconcileStableGateway request)
  | .recordRuntimeObservation now networkID deviceID role =>
    s.changing (s.recordRuntimeObservation now networkID deviceID role)
  | .adminRevokeDevice now pick owner deviceID =>
    s.changing (svc.adminRevokeDevice s now pick owner deviceID)
  | .register now request registrationID opaqueToken =>
    s.writing (fun _ => .done) (s.register now request registrationID opaqueToken)
  | .expireRegistrations now owner => s.changing (s.expireRegistrations now owner)
  | .adminTransitionRegistration now owner registrationID decision =>
    (s.adminTransitionRegistration now owner registrationID decision).reply fun _ => .done
  | .exchangeRegistration now registrationID token secrets =>
    (svc.exchangeRegistration s now registrationID token secrets).reply .enrolled
  | .exchange now request secrets => s.writing .enrolled (svc.exchange s now request secrets)
  | .mintSession now pick credential clientNonce opaqueToken =>
    s.writing .session (svc.mintSession s now pick credential clientNonce opaqueToken)
  | .enrollmentConfig now pick token deviceID networkID v2 =>
    s.reading .config (svc.enrollmentConfig s now pick token deviceID networkID v2)
  | .gatewayConfig now pick token => s.reading .gateway (svc.gatewayConfig s now pick token)
  | .policyArtifact now pick token generation digest =>
    s.reading .policy (s.policyArtifact now pick token generation digest)
  | .ackEnrollment now pick token request =>
    s.writing .ack (s.ackEnrollment now pick token request)
  | .userConfig now userID deviceID networkID v2 =>
    s.reading .config (svc.userConfig s now userID deviceID networkID v2)
  | .ackUser now userID request => s.writing .ack (s.ackUser now userID request)

/-! ## Runs -/

/-- Credentials open sessions, enrolment tokens everything else. -/
inductive TokenKind
  | credential
  | enrollment
  deriving DecidableEq

/-- A token, known by its hash. -/
abbrev Token := TokenKind × String

section

omit [Unicode] [Netip] [PolicyJSON]

/-- The token a call is made with. -/
def Action.token : Action → Option Token
  | .mintSession _ _ credential _ _ => some (.credential, hashSecret credential)
  | .enrollmentConfig _ _ token _ _ _ => some (.enrollment, hashSecret token)
  | .gatewayConfig _ _ token => some (.enrollment, hashSecret token)
  | .policyArtifact _ _ token _ _ => some (.enrollment, hashSecret token)
  | .ackEnrollment _ _ token _ => some (.enrollment, hashSecret token)
  | _ => none

/-- The tokens that a reply hands out, with the network and the device they are for. -/
def Reply.issued : Reply → List (Token × (String × String))
  | .enrolled r =>
    [((.credential, hashSecret r.credential), (r.network.id, r.device.id)),
      ((.enrollment, hashSecret r.enrollmentToken), (r.network.id, r.device.id))]
  | .session r => [((.enrollment, hashSecret r.enrollmentToken), (r.networkID, r.deviceID))]
  | _ => []

end

/-- The service with the history of its tokens: the network and the device each
    was issued for, and those issued to a device that was revoked since. -/
structure System where
  store : Store
  issued : Table Token (String × String)
  dead : List Token

/-- Nothing has happened yet. -/
def System.init : System := ⟨.init, ∅, []⟩

namespace System

/-- The tokens of the devices that a successful revocation revokes. -/
def killed (sys : System) : Action → Reply → List Token
  | .adminRevokeDevice _ _ owner deviceID, .done =>
    (sys.issued.entries.filter fun entry => sys.store.devices.any fun device =>
      sys.store.revocable (Text.trimSpace owner) (Text.trimSpace deviceID) device &&
        entry.2 == (device.networkID, device.id)).map Sigma.fst
  | _, _ => []

/-- One call. A token that is issued is not one that was revoked. -/
def step (sys : System) (a : Action) : System :=
  let r := (a.call svc sys.store).1
  { store := (a.call svc sys.store).2
    issued := r.issued.foldl (fun t entry => t.insert entry.1 entry.2) sys.issued
    dead := (sys.dead ++ sys.killed a r).filter fun token =>
      !r.issued.any fun entry => entry.1 == token }

end System

end

/-! ## A sample

Networks of two owners, with a device each. -/

namespace Sample

/-- A network of the owner. -/
def network (id ownerUserID : String) : BootstrapNetwork :=
  { id := id
    cidr := "10.0.0.0/24"
    gatewayID := "gw"
    gatewayWireGuardKey := "key"
    gatewayEndpointHost := "gw.example"
    gatewayEndpointPort := 443
    transportServerName := "gw.example"
    transportPort := 443
    transportAuthID := "auth"
    ownerUserID := ownerUserID }

/-- The join token of an invitation: 43 times a character. -/
def joinToken (c : Char) : String := "xjt_" ++ String.ofList (List.replicate 43 c)

/-- A network is set up, with an invitation of a device, which joins. -/
def enrol (n : BootstrapNetwork) (deviceID : String) (c : Char) (secrets : Secrets) : List Action :=
  [ .seed 0 n ⟨deviceID, "linux", "one", Time.day⟩ (joinToken c) "",
    .exchange 0 ⟨joinToken c, deviceID, "Device", "linux", "device.example",
      String.ofList (List.replicate 43 'A' ++ ['=']), "one"⟩ secrets ]

/-- A device of Alice. Its credential is `xdc_1.c`, its enrolment token `xenr_e`. -/
def alice (deviceID : String) : List Action :=
  enrol (network "net-a" "alice") deviceID 'A' ⟨"1", "c", "e"⟩

/-- A device of Bob. Its credential is `xdc_2.d`, its enrolment token `xenr_f`. -/
def bob (deviceID : String) : List Action :=
  enrol (network "net-b" "bob") deviceID 'B' ⟨"2", "d", "f"⟩

end Sample

end Accounts.Overlay
