import Mathlib.Data.Rat.Floor
import MediaSync.Foundation.SlidingWindow
import MediaSync.Foundation.Table
import MediaSync.Foundation.Transition

/-! The engine host limits the frames of all clients, the frames of each accepted client and the
number of accepted clients. A host is run over frames that arrive at non-decreasing times, with
exact arithmetic. -/
namespace MediaSync.Ipc
open SlidingWindow Transition

inductive IpcReason
  | invalidFrame | protocolMismatch | schemaMismatch | remoteClientRejected
  | clientIdentityMismatch | roleNotAllowed | handshakeRequired
deriving DecidableEq

inductive ProcessRole
  | launcher | engineHost | triggerClient | gui
deriving DecidableEq

structure VerifiedClientIdentity where
  userSidHash : String
  sessionId : ℤ
  isRemote : Bool
  transport : String
deriving DecidableEq

structure ClientAuthorizationPolicy where
  expectedUserSidHash : String
  expectedSessionId : ℤ
  allowedRoles : List ProcessRole := [.gui, .launcher, .triggerClient]

def ClientAuthorizationPolicy.rejectReason (policy : ClientAuthorizationPolicy)
    (role : ProcessRole) (identity : VerifiedClientIdentity) : Option IpcReason :=
  if identity.isRemote then some .remoteClientRejected
  else if identity.userSidHash ≠ policy.expectedUserSidHash then some .clientIdentityMismatch
  else if identity.sessionId ≠ policy.expectedSessionId then some .clientIdentityMismatch
  else if role ∉ policy.allowedRoles then some .roleNotAllowed
  else none

/-- The arguments of the constructor of `IpcResourceLimits`. -/
structure ResourceLimitFields where
  maxAcceptedClients : ℤ := 32
  acceptedClientIdleSeconds : ℚ := 300
  maxGlobalFramesPerWindow : ℤ := 240
  maxClientFramesPerWindow : ℤ := 120
  frameWindowSeconds : ℚ := 1
  maxOutstandingRequests : ℤ := 1
  maxSubscriptions : ℤ := 0

def ResourceLimitFields.postInit (limits : ResourceLimitFields) : Except String Unit :=
  if [limits.maxAcceptedClients, limits.maxGlobalFramesPerWindow,
      limits.maxClientFramesPerWindow].any (· < 1) then
    .error "IPC count limits must be positive"
  else if limits.acceptedClientIdleSeconds ≤ 0 then
    .error "accepted_client_idle_seconds must be positive"
  else if limits.frameWindowSeconds ≤ 0 then
    .error "frame_window_seconds must be positive"
  else if limits.maxClientFramesPerWindow > limits.maxGlobalFramesPerWindow then
    .error "per-client frame limit cannot exceed the global frame limit"
  else if limits.maxOutstandingRequests ≠ 1 then
    .error "the synchronous named-pipe transport permits one outstanding request"
  else if limits.maxSubscriptions ≠ 0 then
    .error "IPC subscriptions are unavailable in the current protocol"
  else .ok ()

/-- A limits object: the constructor accepted its fields. -/
structure IpcResourceLimits extends ResourceLimitFields where
  accepted : toResourceLimitFields.postInit = .ok ()

inductive LimitScope
  | globalFrames | clientFrames | acceptedClients
deriving DecidableEq

/-- The payload of an `IPC_RATE_LIMITED` rejection. -/
structure RateLimit where
  limitScope : LimitScope
  limit : ℤ
  windowMs : ℤ
  retryAfterMs : ℤ
deriving DecidableEq

/-- What admission answers; `admitted` stands for everything the handler does afterwards. -/
inductive IpcResponse
  | admitted
  | rejected (reason : IpcReason)
  | rateLimited (payload : RateLimit)
deriving DecidableEq

structure HandshakeRequest where
  protocolVersion : ℤ
  schemaVersion : ℤ
  role : ProcessRole
  clientInstanceId : String

structure IpcCommandEnvelope where
  protocolVersion : ℤ
  schemaVersion : ℤ
  clientInstanceId : String

/-- A frame; a payload that `from_dict` raises on is `none`. -/
inductive Frame
  | handshake (payload : Option HandshakeRequest) (identity : VerifiedClientIdentity)
  | query (clientInstanceId : String)
  | command (payload : Option IpcCommandEnvelope)

structure AcceptedClient where
  clientInstanceId : String
  identity : VerifiedClientIdentity
  lastSeenMonotonic : ℚ
  frameTimes : List ℚ

structure Host where
  acceptedClients : List AcceptedClient
  globalFrameTimes : List ℚ

section
variable (limits : IpcResourceLimits)

def discardExpiredFrameTimes (frameTimes : List ℚ) (now : ℚ) : List ℚ :=
  discard (now - limits.frameWindowSeconds) frameTimes

def retryAfterSeconds (frameTimes : List ℚ) (now : ℚ) : ℚ :=
  match frameTimes.head? with
  | none => 0
  | some oldest => max 0 (oldest + limits.frameWindowSeconds - now)

-- `int` truncates, which for these positive lengths is the floor.
def rateLimitResponse (scope : LimitScope) (limit : ℤ) (retryAfter : ℚ) : RateLimit :=
  { limitScope := scope
    limit := limit
    windowMs := if scope ≠ .acceptedClients then ⌊limits.frameWindowSeconds * 1000⌋
      else ⌊limits.acceptedClientIdleSeconds * 1000⌋
    retryAfterMs := max 1 ⌈retryAfter * 1000⌉ }

/-- What both frame limits do with their queue; the queue is pruned also when they refuse. -/
def admitFrame (scope : LimitScope) (limit : ℤ) (frameTimes : List ℚ) (now : ℚ) :
    Option RateLimit × List ℚ :=
  let kept := discardExpiredFrameTimes limits frameTimes now
  if (kept.length : ℤ) ≥ limit then
    (some (rateLimitResponse limits scope limit (retryAfterSeconds limits kept now)), kept)
  else (none, kept ++ [now])

def admitGlobalFrame (host : Host) (now : ℚ) : Option RateLimit × Host :=
  let (limited, times) := admitFrame limits .globalFrames limits.maxGlobalFramesPerWindow
    host.globalFrameTimes now
  (limited, { host with globalFrameTimes := times })

def admitClientFrame (client : AcceptedClient) (now : ℚ) : Option RateLimit × AcceptedClient :=
  let (limited, times) := admitFrame limits .clientFrames limits.maxClientFramesPerWindow
    client.frameTimes now
  (limited, { client with
    frameTimes := times
    lastSeenMonotonic := if limited.isNone then now else client.lastSeenMonotonic })

def expireIdleClients (host : Host) (now : ℚ) : Host :=
  { host with acceptedClients := host.acceptedClients.filter fun client =>
      ¬ client.lastSeenMonotonic ≤ now - limits.acceptedClientIdleSeconds }

-- There is a client when this is asked for, so the default of the minimum is not used.
def clientCapacityResponse (host : Host) (now : ℚ) : RateLimit :=
  let oldestLastSeen := ((host.acceptedClients.map (·.lastSeenMonotonic)).min?).getD now
  rateLimitResponse limits .acceptedClients limits.maxAcceptedClients
    (max 0 (oldestLastSeen + limits.acceptedClientIdleSeconds - now))

def Host.client (host : Host) (clientInstanceId : String) : Option AcceptedClient :=
  Table.lookup (·.clientInstanceId) host.acceptedClients clientInstanceId

def Host.store (host : Host) (client : AcceptedClient) : Host :=
  { host with acceptedClients :=
      Table.overwrite (·.clientInstanceId) host.acceptedClients client }

/-- How queries and commands find their client, once the global limit has let them pass. -/
def admitAcceptedClient (host : Host) (clientInstanceId : String) (now : ℚ) : IpcResponse × Host :=
  let host := expireIdleClients limits host now
  match host.client clientInstanceId with
  | none => (.rejected .handshakeRequired, host)
  | some client =>
    match admitClientFrame limits client now with
    | (some limited, client) => (.rateLimited limited, host.store client)
    | (none, client) => (.admitted, host.store client)

def handshake (policy : ClientAuthorizationPolicy) (host : Host) (now : ℚ)
    (payload : Option HandshakeRequest) (identity : VerifiedClientIdentity) : IpcResponse × Host :=
  match admitGlobalFrame limits host now with
  | (some limited, host) => (.rateLimited limited, host)
  | (none, host) =>
    match payload with
    | none => (.rejected .invalidFrame, host)
    | some request =>
      if request.protocolVersion ≠ 1 then (.rejected .protocolMismatch, host)
      else if request.schemaVersion ≠ 2 then (.rejected .schemaMismatch, host)
      else
        match policy.rejectReason request.role identity with
        | some reason => (.rejected reason, host)
        | none =>
          let host := expireIdleClients limits host now
          match host.client request.clientInstanceId with
          | none =>
            if (host.acceptedClients.length : ℤ) ≥ limits.maxAcceptedClients then
              (.rateLimited (clientCapacityResponse limits host now), host)
            else
              (.admitted, { host with acceptedClients := host.acceptedClients ++
                [⟨request.clientInstanceId, identity, now, [now]⟩] })
          | some client =>
            match admitClientFrame limits client now with
            | (some limited, client) => (.rateLimited limited, host.store client)
            | (none, client) => (.admitted,
                host.store { client with identity := identity, lastSeenMonotonic := now })

def authorizeClientRequest (host : Host) (now : ℚ) (clientInstanceId : String) :
    IpcResponse × Host :=
  match admitGlobalFrame limits host now with
  | (some limited, host) => (.rateLimited limited, host)
  | (none, host) => admitAcceptedClient limits host clientInstanceId now

def submitCommandEnvelope (host : Host) (now : ℚ) (payload : Option IpcCommandEnvelope) :
    IpcResponse × Host :=
  match admitGlobalFrame limits host now with
  | (some limited, host) => (.rateLimited limited, host)
  | (none, host) =>
    match payload with
    | none => (.rejected .invalidFrame, host)
    | some command =>
      if command.protocolVersion ≠ 1 then (.rejected .protocolMismatch, host)
      else if command.schemaVersion ≠ 1 then (.rejected .schemaMismatch, host)
      else admitAcceptedClient limits host command.clientInstanceId now

end

section
variable (limits : IpcResourceLimits) (policy : ClientAuthorizationPolicy)

def handle (host : Host) (now : ℚ) : Frame → IpcResponse × Host
  | .handshake payload identity => handshake limits policy host now payload identity
  | .query clientInstanceId => authorizeClientRequest limits host now clientInstanceId
  | .command payload => submitCommandEnvelope limits host now payload

def Frame.clientInstanceId : Frame → Option String
  | .handshake payload _ => payload.map (·.clientInstanceId)
  | .query clientInstanceId => some clientInstanceId
  | .command payload => payload.map (·.clientInstanceId)

def IpcResponse.passedGlobalLimit : IpcResponse → Bool
  | .rateLimited payload => payload.limitScope ≠ .globalFrames
  | _ => true

structure State where
  host : Host
  last : ℚ
  passed : List ℚ
  admitted : List (String × ℚ)

def State.admittedTimes (s : State) (clientInstanceId : String) : List ℚ :=
  (s.admitted.filter (·.1 = clientInstanceId)).map (·.2)

/-- Frames arrive at times that do not decrease, from any time on. -/
def hostSystem : System State (ℚ × Frame) where
  init s := s.host = ⟨[], []⟩ ∧ s.passed = [] ∧ s.admitted = []
  step s l :=
    if l.1 < s.last then none
    else
      let served := handle limits policy s.host l.1 l.2
      some
        { host := served.2
          last := l.1
          passed := if served.1.passedGlobalLimit then l.1 :: s.passed else s.passed
          admitted :=
            if served.1 = .admitted then
              (l.2.clientInstanceId.map (·, l.1)).toList ++ s.admitted
            else s.admitted }

/-- What can become of a frame that passed the global limit. -/
inductive Serves (now : ℚ) (frame : Frame) (host : Host) : IpcResponse → Host → Prop
  | refused {reason} : Serves now frame host (.rejected reason) host
  | unknown : Serves now frame host (.rejected .handshakeRequired)
      (expireIdleClients limits host now)
  | full {id} : frame.clientInstanceId = some id →
      (expireIdleClients limits host now).client id = none →
      limits.maxAcceptedClients ≤ (expireIdleClients limits host now).acceptedClients.length →
      Serves now frame host
        (.rateLimited (clientCapacityResponse limits (expireIdleClients limits host now) now))
        (expireIdleClients limits host now)
  | joined {id identity} : frame.clientInstanceId = some id →
      (expireIdleClients limits host now).client id = none →
      (expireIdleClients limits host now).acceptedClients.length < limits.maxAcceptedClients →
      Serves now frame host .admitted
        { expireIdleClients limits host now with
          acceptedClients := (expireIdleClients limits host now).acceptedClients ++
            [⟨id, identity, now, [now]⟩] }
  | clientLimited {id client} : frame.clientInstanceId = some id →
      (expireIdleClients limits host now).client id = some client →
      limits.maxClientFramesPerWindow ≤
        (discardExpiredFrameTimes limits client.frameTimes now).length →
      Serves now frame host
        (.rateLimited (rateLimitResponse limits .clientFrames limits.maxClientFramesPerWindow
          (retryAfterSeconds limits (discardExpiredFrameTimes limits client.frameTimes now) now)))
        ((expireIdleClients limits host now).store
          { client with frameTimes := discardExpiredFrameTimes limits client.frameTimes now })
  | admitted {id client identity} : frame.clientInstanceId = some id →
      (expireIdleClients limits host now).client id = some client →
      (discardExpiredFrameTimes limits client.frameTimes now).length <
        limits.maxClientFramesPerWindow →
      Serves now frame host .admitted
        ((expireIdleClients limits host now).store
          { client with
            identity := identity
            lastSeenMonotonic := now
            frameTimes := discardExpiredFrameTimes limits client.frameTimes now ++ [now] })

variable {limits policy} {now : ℚ} {frame : Frame} {host host' : Host} {response : IpcResponse}

theorem admitFrame_cases (limits : IpcResourceLimits) (now : ℚ) (scope : LimitScope) (limit : ℤ)
    (times : List ℚ) :
    limit ≤ (discardExpiredFrameTimes limits times now).length ∧
        admitFrame limits scope limit times now =
          (some (rateLimitResponse limits scope limit
            (retryAfterSeconds limits (discardExpiredFrameTimes limits times now) now)),
            discardExpiredFrameTimes limits times now) ∨
      (discardExpiredFrameTimes limits times now).length < limit ∧
        admitFrame limits scope limit times now =
          (none, discardExpiredFrameTimes limits times now ++ [now]) := by
  by_cases h : limit ≤ ((discardExpiredFrameTimes limits times now).length : ℤ)
  · exact .inl ⟨h, by simp [admitFrame, h]⟩
  · exact .inr ⟨by omega, by simp [admitFrame, h]⟩

theorem admitAcceptedClient_serves {id : String} (hid : frame.clientInstanceId = some id) :
    Serves limits now frame host (admitAcceptedClient limits host id now).1
      (admitAcceptedClient limits host id now).2 := by
  cases hc : (expireIdleClients limits host now).client id with
  | none =>
    simp only [admitAcceptedClient, hc]
    exact .unknown
  | some client =>
    obtain ⟨hlt, h⟩ | ⟨hlt, h⟩ := admitFrame_cases limits now .clientFrames
        limits.maxClientFramesPerWindow client.frameTimes
    · simp only [admitAcceptedClient, hc, admitClientFrame, h]
      exact .clientLimited hid hc hlt
    · simp only [admitAcceptedClient, hc, admitClientFrame, h]
      exact .admitted hid hc hlt

theorem handle_cases (limits : IpcResourceLimits) (policy : ClientAuthorizationPolicy) (host : Host)
    (now : ℚ) (frame : Frame) : limits.maxGlobalFramesPerWindow ≤
        (discardExpiredFrameTimes limits host.globalFrameTimes now).length ∧
      handle limits policy host now frame =
        (.rateLimited (rateLimitResponse limits .globalFrames limits.maxGlobalFramesPerWindow
          (retryAfterSeconds limits
            (discardExpiredFrameTimes limits host.globalFrameTimes now) now)),
          { host with globalFrameTimes :=
              discardExpiredFrameTimes limits host.globalFrameTimes now }) ∨
    (discardExpiredFrameTimes limits host.globalFrameTimes now).length <
        limits.maxGlobalFramesPerWindow ∧
      Serves limits now frame
        { host with globalFrameTimes :=
            discardExpiredFrameTimes limits host.globalFrameTimes now ++ [now] }
        (handle limits policy host now frame).1 (handle limits policy host now frame).2 := by
  obtain ⟨hlt, h⟩ | ⟨hlt, h⟩ := admitFrame_cases limits now .globalFrames
      limits.maxGlobalFramesPerWindow host.globalFrameTimes
  · refine .inl ⟨hlt, ?_⟩
    cases frame <;>
      simp only [handle, handshake, authorizeClientRequest, submitCommandEnvelope,
        admitGlobalFrame, h]
  · refine .inr ⟨hlt, ?_⟩
    cases frame with
    | query id =>
      simp only [handle, authorizeClientRequest, admitGlobalFrame, h]
      exact admitAcceptedClient_serves rfl
    | command payload =>
      simp only [handle, submitCommandEnvelope, admitGlobalFrame, h]
      cases payload with
      | none => exact .refused
      | some command =>
        dsimp only
        split
        · exact .refused
        · split
          · exact .refused
          · exact admitAcceptedClient_serves rfl
    | handshake payload identity =>
      simp only [handle, handshake, admitGlobalFrame, h]
      cases payload with
      | none => exact .refused
      | some request =>
        dsimp only
        split
        · exact .refused
        split
        · exact .refused
        split
        · exact .refused
        split
        · rename_i hnone
          split
          · rename_i hfull
            exact .full rfl hnone hfull
          · rename_i hroom
            exact .joined rfl hnone (by omega)
        · rename_i client hsome
          obtain ⟨hlt, h⟩ | ⟨hlt, h⟩ := admitFrame_cases limits now .clientFrames
              limits.maxClientFramesPerWindow client.frameTimes
          · simp only [admitClientFrame, h]
            exact .clientLimited rfl hsome hlt
          · simp only [admitClientFrame, h]
            exact .admitted rfl hsome hlt

end

end MediaSync.Ipc
