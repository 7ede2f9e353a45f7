import LaserDac.IdnIsolation
import LaserDac.Runs

/-!
The receiver's server loop. It tracks one client by its IP address, and tells its behaviour when a client connects and
disconnects and what chunks arrive. A message from another address takes the tracked client's place unless the server
is occupied.
-/

namespace LaserDac.Idn

open LaserDac.Cursors LaserDac.Runs

variable {Ip : Type}

structure SocketAddr (Ip : Type) where
  ip : Ip
  port : UInt16
  deriving DecidableEq, Repr

/-- The calls of the behaviour. A connected call is logged with what the parser has cached then. -/
inductive Callback (Ip : Type) where
  | packetReceived (data : List UInt8)
  | frameReceived (data : List UInt8)
  | chunkReceived (source : SocketAddr Ip) (chunk : ParsedChunk)
  | clientConnected (address : SocketAddr Ip) (parser : FrameParser (SocketAddr Ip))
  | clientDisconnected

structure ServerConfig where
  linkTimeout : Nat
  forceDisconnectWindow : Nat
  deriving DecidableEq, Repr

structure IdnServer (Ip : Type) where
  lastClientIp : Option Ip
  lastClientAddr : Option (SocketAddr Ip)
  lastActivity : Option Nat
  disconnectedClient : Option (Ip × Nat)
  parser : FrameParser (SocketAddr Ip)
  log : List (Callback Ip)

/-- What one round of the loop meets: the answers of the behaviour, the clock at each place where it is read, and what
the socket has, which is nothing if it times out. -/
structure Round (Ip : Type) where
  shouldForceDisconnect : Bool
  forcedAt : Nat
  windowCheckedAt : Nat
  linkCheckedAt : Nat
  received : Option (SocketAddr Ip × List UInt8)
  shouldRespond : Bool
  isExcluded : Bool
  isOccupied : Bool
  activeAt : Nat
  deriving Repr

namespace IdnServer

def new : IdnServer Ip where
  lastClientIp := none
  lastClientAddr := none
  lastActivity := none
  disconnectedClient := none
  parser := .new
  log := []

def call (server : IdnServer Ip) (callback : Callback Ip) : IdnServer Ip :=
  { server with log := callback :: server.log }

def disconnect (server : IdnServer Ip) : IdnServer Ip :=
  { server with lastClientIp := none, lastClientAddr := none, lastActivity := none, parser := server.parser.reset,
                log := .clientDisconnected :: server.log }

def checkForceDisconnect (round : Round Ip) (server : IdnServer Ip) : IdnServer Ip :=
  if round.shouldForceDisconnect then
    match server.lastClientIp with
    | some clientIp => { server.disconnect with disconnectedClient := some (clientIp, round.forcedAt) }
    | none => server
  else server

def checkWindow (config : ServerConfig) (round : Round Ip) (server : IdnServer Ip) : IdnServer Ip :=
  match server.disconnectedClient with
  | some (_, disconnectTime) =>
    if config.forceDisconnectWindow < round.windowCheckedAt - disconnectTime then
      { server with disconnectedClient := none }
    else server
  | none => server

def checkLinkTimeout (config : ServerConfig) (round : Round Ip) (server : IdnServer Ip) : IdnServer Ip :=
  match server.lastActivity with
  | some lastTime =>
    if config.linkTimeout < round.linkCheckedAt - lastTime ∧ server.lastClientIp.isSome then server.disconnect
    else server
  | none => server

section

variable [DecidableEq Ip]

/-- The client is tracked by its IP address: another port of the host is the same client. -/
def trackClient (src : SocketAddr Ip) (server : IdnServer Ip) : IdnServer Ip :=
  if server.lastClientIp ≠ some src.ip then
    { server with lastClientIp := some src.ip, lastClientAddr := some src,
                  log := .clientConnected src server.parser :: server.log }
  else server

/-- The raw bytes are handed over first, then the chunk if there is one. -/
def handOver (src : SocketAddr Ip) (data : List UInt8) (server : IdnServer Ip) : IdnServer Ip :=
  let server := server.call (.frameReceived data)
  let (result, parser) := server.parser.parseFrameData src data
  let server := { server with parser }
  match result with
  | .ok (some chunk) => server.call (.chunkReceived src chunk)
  | _ => server

/-- A channel message. The acknowledgements are left out here, they change nothing. -/
def channelMessage (round : Round Ip) (src : SocketAddr Ip) (data : List UInt8) (server : IdnServer Ip) :
    IdnServer Ip :=
  if round.isExcluded then server
  else if round.isOccupied ∧ server.lastClientIp.isSome ∧ server.lastClientIp ≠ some src.ip then server
  else handOver src data { server.trackClient src with lastActivity := some round.activeAt }

def closeMessage (src : SocketAddr Ip) (server : IdnServer Ip) : IdnServer Ip :=
  if server.lastClientIp = some src.ip then server.disconnect else server

def handleCommand (round : Round Ip) (command : UInt8) (src : SocketAddr Ip) (data : List UInt8)
    (server : IdnServer Ip) : IdnServer Ip :=
  if command = idncmdRtCnlmsg ∨ command = idncmdRtCnlmsgAckreq then server.channelMessage round src data
  else if command = idncmdRtCnlmsgClose ∨ command = idncmdRtCnlmsgCloseAckreq then server.closeMessage src
  else server

def handlePacket (round : Round Ip) (src : SocketAddr Ip) (data : List UInt8) (server : IdnServer Ip) :
    IdnServer Ip :=
  match data with
  | command :: _ :: _ :: _ :: _ =>
    if server.disconnectedClient.any fun (ip, _) => src.ip = ip then server
    else
      let server := server.call (.packetReceived data)
      if round.shouldRespond then server.handleCommand round command src data else server
  | _ => server

def checks (config : ServerConfig) (round : Round Ip) (server : IdnServer Ip) : IdnServer Ip :=
  ((server.checkForceDisconnect round).checkWindow config round).checkLinkTimeout config round

def step (config : ServerConfig) (server : IdnServer Ip) (round : Round Ip) : IdnServer Ip :=
  match round.received with
  | some (src, data) => (server.checks config round).handlePacket round src data
  | none => server.checks config round

/-- The server after these rounds of its loop. -/
def run (config : ServerConfig) (rounds : List (Round Ip)) : IdnServer Ip := rounds.foldl (step config) new

end

end IdnServer

/-! ### The order of the calls -/

def openClient : List (Callback Ip) → Option Ip
  | [] => none
  | .clientConnected address _ :: _ => some address.ip
  | .clientDisconnected :: _ => none
  | _ :: earlier => openClient earlier

/-- Connected and disconnected calls alternate, starting with connected; a chunk belongs to the client that is
connected; and nothing is cached when a client connects. -/
def Orderly : Callback Ip → List (Callback Ip) → Prop
  | .clientConnected _ parser, earlier => openClient earlier = none ∧ ∀ key, parser.channels key = none
  | .clientDisconnected, earlier => openClient earlier ≠ none
  | .chunkReceived source _, earlier => openClient earlier = some source.ip
  | _, _ => True

variable {src : SocketAddr Ip}

namespace IdnServer

/-- The tracked client is the one that is connected, and without one nothing is cached. -/
structure Tracking (server : IdnServer Ip) : Prop where
  client : openClient server.log = server.lastClientIp
  clear : server.lastClientIp = none → ∀ key, server.parser.channels key = none
  orderly : Always Orderly server.log

namespace Tracking

variable {server : IdnServer Ip} {config : ServerConfig} {round : Round Ip}

theorem new : Tracking (IdnServer.new : IdnServer Ip) := ⟨rfl, fun _ _ => rfl, trivial⟩

section

variable (tracking : Tracking server)

include tracking

theorem congr {other : IdnServer Ip} (client : other.lastClientIp = server.lastClientIp)
    (parser : other.parser = server.parser) (log : other.log = server.log) : Tracking other := by
  refine ⟨?_, ?_, ?_⟩
  · rw [log, client]
    exact tracking.client
  · rw [client, parser]
    exact tracking.clear
  · rw [log]
    exact tracking.orderly

theorem disconnect (connected : server.lastClientIp ≠ none) : Tracking server.disconnect := by
  refine ⟨rfl, fun _ _ => rfl, ⟨?_, tracking.orderly⟩⟩
  change openClient server.log ≠ none
  rw [tracking.client]
  exact connected

theorem call_packetReceived (data : List UInt8) :
    Tracking (server.call (.packetReceived data)) := ⟨tracking.client, tracking.clear, ⟨trivial, tracking.orderly⟩⟩

theorem checkForceDisconnect : Tracking (server.checkForceDisconnect round) := by
  unfold IdnServer.checkForceDisconnect
  split
  · cases client : server.lastClientIp with
    | some ip => exact (tracking.disconnect (by rw [client]; exact Option.some_ne_none ip)).congr rfl rfl rfl
    | none => exact tracking
  · exact tracking

theorem checkWindow : Tracking (server.checkWindow config round) := by
  unfold IdnServer.checkWindow
  split
  · split
    · exact tracking.congr rfl rfl rfl
    · exact tracking
  · exact tracking

theorem checkLinkTimeout : Tracking (server.checkLinkTimeout config round) := by
  unfold IdnServer.checkLinkTimeout
  split
  · split
    · next late => exact tracking.disconnect (Option.isSome_iff_ne_none.mp late.2)
    · exact tracking
  · exact tracking

theorem checks : Tracking (server.checks config round) :=
  tracking.checkForceDisconnect.checkWindow.checkLinkTimeout

end

end Tracking

variable [DecidableEq Ip]

/-- The round brings a channel message that takes the tracked client's place: from another address, and neither
ignored, nor excluded, nor turned away. -/
def takesOver (config : ServerConfig) (server : IdnServer Ip) (round : Round Ip) : Bool :=
  match round.received with
  | some (src, command :: _ :: _ :: _ :: _) =>
    let server := server.checks config round
    decide (¬ (server.disconnectedClient.any fun (ip, _) => src.ip = ip) ∧ round.shouldRespond ∧
      (command = idncmdRtCnlmsg ∨ command = idncmdRtCnlmsgAckreq) ∧ ¬ round.isExcluded ∧
      server.lastClientIp.isSome ∧ server.lastClientIp ≠ some src.ip ∧ ¬ round.isOccupied)
  | _ => false

/-- No round of the run brings a takeover. -/
def undisturbed (config : ServerConfig) : IdnServer Ip → List (Round Ip) → Bool
  | _, [] => true
  | server, round :: rounds => !server.takesOver config round && undisturbed config (server.step config round) rounds

namespace Tracking

variable {server : IdnServer Ip} {config : ServerConfig} {round : Round Ip}

section

variable (tracking : Tracking server)

include tracking

theorem trackClient (free : server.lastClientIp = none ∨ server.lastClientIp = some src.ip) :
    Tracking (server.trackClient src) ∧ (server.trackClient src).lastClientIp = some src.ip := by
  unfold IdnServer.trackClient
  rcases free with free | same
  · rw [if_pos (by rw [free]; exact (Option.some_ne_none _).symm)]
    refine ⟨⟨rfl, ?_, ⟨⟨?_, tracking.clear free⟩, tracking.orderly⟩⟩, rfl⟩
    · intro impossible
      cases impossible
    · rw [tracking.client, free]
  · rw [if_neg (not_not.mpr same)]
    exact ⟨tracking, same⟩

theorem handOver (client : server.lastClientIp = some src.ip) (data : List UInt8) :
    Tracking (server.handOver src data) := by
  have cleared : server.lastClientIp = none → False := fun none_ => by rw [client] at none_; cases none_
  unfold IdnServer.handOver
  dsimp only
  split
  · refine ⟨tracking.client, fun none_ => (cleared none_).elim, ⟨?_, trivial, tracking.orderly⟩⟩
    exact tracking.client.trans client
  · exact ⟨tracking.client, fun none_ => (cleared none_).elim, ⟨trivial, tracking.orderly⟩⟩

theorem closeMessage (src : SocketAddr Ip) : Tracking (server.closeMessage src) := by
  unfold IdnServer.closeMessage
  split
  · next client => exact tracking.disconnect (by rw [client]; exact Option.some_ne_none _)
  · exact tracking

theorem channelMessage (data : List UInt8)
    (undisturbed : ¬ round.isExcluded → server.lastClientIp.isSome → server.lastClientIp ≠ some src.ip →
      round.isOccupied) : Tracking (server.channelMessage round src data) := by
  unfold IdnServer.channelMessage
  split
  · exact tracking
  next included =>
    split
    · exact tracking
    next admitted =>
      have free : server.lastClientIp = none ∨ server.lastClientIp = some src.ip := by
        by_contra taken
        obtain ⟨some_, other⟩ := not_or.mp taken
        have isSome := Option.isSome_iff_ne_none.mpr some_
        exact admitted ⟨undisturbed included isSome other, isSome, other⟩
      obtain ⟨tracked, client⟩ := tracking.trackClient free
      have active : Tracking { server.trackClient src with lastActivity := some round.activeAt } :=
        tracked.congr rfl rfl rfl
      exact active.handOver client data

theorem step (alone : server.takesOver config round = false) : Tracking (server.step config round) := by
  have checked : Tracking (server.checks config round) := tracking.checks
  unfold IdnServer.step
  unfold takesOver at alone
  cases received : round.received with
  | none => exact checked
  | some packet =>
    obtain ⟨src, data⟩ := packet
    rw [received] at alone
    change Tracking ((server.checks config round).handlePacket round src data)
    unfold IdnServer.handlePacket
    split
    · next command _ _ _ _ =>
      have nobody := of_decide_eq_false alone
      split
      · exact checked
      next heeded =>
        dsimp only
        split
        next responds =>
          unfold handleCommand
          split
          next channel =>
            refine (checked.call_packetReceived _).channelMessage _ fun included some_ other => ?_
            by_contra free
            exact nobody ⟨heeded, responds, channel, included, some_, other, free⟩
          · split
            · exact (checked.call_packetReceived _).closeMessage src
            · exact checked.call_packetReceived _
        · exact checked.call_packetReceived _
    · exact checked

end

end Tracking

theorem run_tracking (config : ServerConfig) {server : IdnServer Ip} {rounds : List (Round Ip)}
    (tracking : Tracking server) (alone : undisturbed config server rounds = true) :
    Tracking (rounds.foldl (step config) server) := by
  induction rounds generalizing server with
  | nil => exact tracking
  | cons round rounds ih =>
    rw [undisturbed, Bool.and_eq_true, Bool.not_eq_true'] at alone
    exact ih (tracking.step alone.1) alone.2

end IdnServer

/-- In every run without a takeover the calls are in order. -/
theorem callbacks_alternate [DecidableEq Ip] (config : ServerConfig) (rounds : List (Round Ip))
    (alone : IdnServer.undisturbed config IdnServer.new rounds = true) :
    Always Orderly (IdnServer.run config rounds).log :=
  (IdnServer.run_tracking config .new alone).orderly

/-- A packet, with a behaviour that answers everything and turns nobody away. -/
def plainRound (time : Nat) (source : SocketAddr Ip) (data : List UInt8) : Round Ip where
  shouldForceDisconnect := false
  forcedAt := time
  windowCheckedAt := time
  linkCheckedAt := time
  received := some (source, data)
  shouldRespond := true
  isExcluded := false
  isOccupied := false
  activeAt := time

/-- A wave message with one sample, and the config that announces eight-byte samples. -/
def waveMessage : List UInt8 :=
  [0x40, 0, 0, 0, 0, 40, 0xC0, 1, 0, 0, 0, 0, 4, 0x21, 1, 1] ++
    (PointFormat.xyrgbi.descriptors.flatMap writeU16) ++ [0x20, 0, 0, 33] ++ [0, 0, 0, 0, 255, 255, 255, 255]

def closePacket : List UInt8 := [0x44, 0, 0, 1]

theorem callbacks_alternate_two_clients :
    Always Orderly (IdnServer.run ⟨1000, 3000⟩ [plainRound 0 (⟨1, 7000⟩ : SocketAddr Nat) waveMessage,
      plainRound 1 ⟨1, 7000⟩ closePacket, plainRound 2 ⟨2, 7000⟩ waveMessage]).log :=
  callbacks_alternate _ _ (by decide +kernel)

/-- A connected call that comes while a client is connected. -/
def overtakes : List (Callback Ip) → Bool
  | [] => false
  | .clientConnected _ _ :: earlier => (openClient earlier).isSome || overtakes earlier
  | _ :: earlier => overtakes earlier

theorem not_orderly_of_overtakes {log : List (Callback Ip)} (taken : overtakes log = true) : ¬ Always Orderly log := by
  intro always
  induction log with
  | nil => cases taken
  | cons callback earlier ih =>
    cases callback with
    | clientConnected =>
      rw [overtakes, Bool.or_eq_true] at taken
      rcases taken with open_ | before
      · rw [always.1.1] at open_
        cases open_
      · exact ih before always.2
    | _ => exact ih taken always.2

/-- Two clients one after the other, and nobody says that the server is occupied: the second one connects while the
first is connected, and the config of the first is still cached. -/
theorem callbacks_takeover :
    ¬ Always Orderly (IdnServer.run ⟨1000, 3000⟩ [plainRound 0 (⟨1, 7000⟩ : SocketAddr Nat) waveMessage,
      plainRound 1 ⟨2, 7000⟩ waveMessage]).log ∧
    ((IdnServer.run ⟨1000, 3000⟩ [plainRound 0 (⟨1, 7000⟩ : SocketAddr Nat) waveMessage,
      plainRound 1 ⟨2, 7000⟩ waveMessage]).parser.channels ⟨⟨1, 7000⟩, 0⟩).isSome :=
  ⟨not_orderly_of_overtakes (by decide +kernel), by decide +kernel⟩

end LaserDac.Idn
