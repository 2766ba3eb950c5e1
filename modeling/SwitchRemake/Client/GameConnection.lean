import SwitchRemake.Lib.Runs
import Mathlib.Algebra.Group.Int.Defs
import Mathlib.Data.List.Basic
import Mathlib.Data.Int.Order.Basic

/-!
# The connection of a game session

What the browser does to the client's `GameSession`: its sockets, its reconnect timer and the
answers to its resume requests. The rest of its state is left out.
-/

namespace SwitchRemake.Client.Connection
open Lib

/-- What is read of a grant. -/
structure Grant where
  roomId : String
  expiresAt : Int
deriving DecidableEq

inductive Status where
  | idle
  | connecting
  | connected
  | reconnecting
  | disconnected
deriving DecidableEq

inductive ReadyState where
  | connecting
  | open
  | closing
  | closed
deriving DecidableEq

/-- A reconnect attempt, with the number of `connect` calls before it. -/
structure Attempt where
  roomId : String
  generation : Nat
  asked : Nat
deriving DecidableEq

/-- `settled`, `authenticated` and `retryable` are the variables of its promise. -/
structure Socket where
  grant : Grant
  generation : Nat
  asked : Nat
  /-- A reconnect attempt waits for it, not a caller of `connect`. -/
  reconnects : Bool
  /-- The room of the last `connect` call when it was opened. -/
  latest : Option String
  readyState : ReadyState
  expiryTimer : Bool
  settled : Bool
  authenticated : Bool
  retryable : Bool
deriving DecidableEq

structure GameSession where
  status : Status
  roomId : Option String
  socket : Option Nat
  sockets : List Socket
  pageUnloading : Bool
  reconnectTimer : Option Attempt
  reconnectAttempt : Nat
  reconnectStartedAt : Option Int
  connectionGeneration : Nat
  /-- The resume requests without an answer. -/
  resuming : List Attempt
  /-- The `connect` calls so far, and the room of the last one. -/
  asked : Nat
  latest : Option String

inductive Event where
  | connect (grant : Grant) (now later : Int)
  | disconnect
  | opens (k : Nat)
  | authOk (k : Nat) (roomId : String)
  | errorMessage (k : Nat) (retryable : Bool) (now : Int)
  | error (k : Nat) (now : Int)
  | close (k : Nat) (now : Int)
  | expires (k : Nat) (now : Int)
  | reconnects
  | resumed (i : Nat) (grant : Grant) (now : Int)
  | resumeFails (i : Nat) (now : Int)
  | unloading (unloading : Bool)
deriving DecidableEq

def RECONNECT_INITIAL_DELAY_MS : Int := 250
def RECONNECT_MAX_DELAY_MS : Int := 2000
def RECONNECT_MAX_ELAPSED_MS : Int := 9000

def reconnectDelayMs (attempt : Nat) (elapsedMs : Int) : Option Int :=
  let remaining := RECONNECT_MAX_ELAPSED_MS - elapsedMs
  if remaining ≤ 0 then none
  else some (min RECONNECT_MAX_DELAY_MS (min (RECONNECT_INITIAL_DELAY_MS * 2 ^ attempt) remaining))

def Socket.live (socket : Socket) : Bool :=
  socket.readyState = .connecting ∨ socket.readyState = .open

/-- `close()` of a web socket. -/
def Socket.close (socket : Socket) : Socket :=
  if socket.live then { socket with readyState := .closing } else socket

namespace GameSession

def initial : GameSession where
  status := .idle
  roomId := none
  socket := none
  sockets := []
  pageUnloading := false
  reconnectTimer := none
  reconnectAttempt := 0
  reconnectStartedAt := none
  connectionGeneration := 0
  resuming := []
  asked := 0
  latest := none

def cancelReconnect (s : GameSession) : GameSession :=
  { s with reconnectTimer := none, reconnectAttempt := 0, reconnectStartedAt := none }

def finishDisconnected (s : GameSession) : GameSession :=
  { s.cancelReconnect with status := .disconnected }

def closeSocket (s : GameSession) : GameSession :=
  match s.socket with
  | none => s
  | some k => { s with socket := none, sockets := s.sockets.modify k Socket.close }

def scheduleReconnect (s : GameSession) (now : Int) : GameSession :=
  if s.reconnectTimer.isSome ∨ s.pageUnloading = true then s
  else
    match s.roomId.filter (· ≠ "") with
    | none => s.finishDisconnected
    | some roomId =>
      let startedAt := s.reconnectStartedAt.getD now
      match reconnectDelayMs s.reconnectAttempt (now - startedAt) with
      | none => { s with reconnectStartedAt := some startedAt }.finishDisconnected
      | some _ =>
        { s with
          reconnectStartedAt := some startedAt
          status := .reconnecting
          reconnectTimer := some ⟨roomId, s.connectionGeneration, s.asked⟩ }

/-- The `catch` of a reconnect attempt of the generation. -/
def attemptFails (s : GameSession) (generation : Nat) (now : Int) : GameSession :=
  if generation = s.connectionGeneration ∧ s.status = .reconnecting then s.scheduleReconnect now else s

/-- Its last `then`. -/
def attemptEnds (s : GameSession) (generation : Nat) : GameSession :=
  if generation = s.connectionGeneration ∧ s.status = .connected then
    { s with reconnectAttempt := 0, reconnectStartedAt := none }
  else s

/-- `openSocket` from the line that makes the socket. -/
def openSocket (s : GameSession) (grant : Grant) (asked : Nat) (reconnects : Bool) : GameSession :=
  { s with
    socket := some s.sockets.length
    sockets := s.sockets ++ [{
      grant := grant
      generation := s.connectionGeneration
      asked := asked
      reconnects := reconnects
      latest := s.latest
      readyState := .connecting
      expiryTimer := true
      settled := false
      authenticated := false
      retryable := true }] }

def setSocket (s : GameSession) (k : Nat) (f : Socket → Socket) : GameSession :=
  { s with sockets := s.sockets.modify k f }

/-- `settleError`, and what waits for the promise. -/
def settleError (s : GameSession) (k : Nat) (socket : Socket) (now : Int) : GameSession :=
  if socket.settled then s
  else
    let s := s.setSocket k fun socket => { socket with settled := true }
    if socket.reconnects then s.attemptFails socket.generation now else s

def connect (s : GameSession) (grant : Grant) (now later : Int) : GameSession :=
  let s := { s.cancelReconnect.closeSocket with
    status := .connecting
    roomId := some grant.roomId
    asked := s.asked + 1
    latest := some grant.roomId }
  if grant.expiresAt ≤ now then { s with status := .disconnected }
  else if grant.expiresAt ≤ later then s
  else s.openSocket grant s.asked false

def disconnect (s : GameSession) : GameSession :=
  { { s with connectionGeneration := s.connectionGeneration + 1 }.cancelReconnect.closeSocket with
    status := .idle
    roomId := none }

def authOk (s : GameSession) (k : Nat) (socket : Socket) (roomId : String) : GameSession :=
  if s.socket ≠ some k then s
  else
    let s := { s with status := .connected, roomId := some roomId }
    if socket.settled then s
    else
      let s := s.setSocket k fun socket =>
        { socket with authenticated := true, settled := true, expiryTimer := false }
      if socket.reconnects then s.attemptEnds socket.generation else s

def errorMessage (s : GameSession) (k : Nat) (socket : Socket) (retryable : Bool) (now : Int) :
    GameSession :=
  if s.socket ≠ some k then s
  else
    let s := s.setSocket k fun socket =>
      { socket with retryable := retryable, expiryTimer := socket.expiryTimer && socket.settled }
    let s := if retryable then s else s.finishDisconnected
    s.settleError k socket now

/-- The listener of `close`. -/
def closed (s : GameSession) (k : Nat) (socket : Socket) (now : Int) : GameSession :=
  let s := s.setSocket k fun socket =>
    { socket with readyState := .closed, expiryTimer := false }
  if s.socket ≠ some k then s
  else
    let s := { s with socket := none }
    let s :=
      if socket.authenticated ∧ socket.retryable ∧ ¬ s.pageUnloading ∧
          socket.generation = s.connectionGeneration then s.scheduleReconnect now
      else if socket.authenticated ∨ ¬ socket.retryable then s.finishDisconnected
      else s
    if socket.authenticated then s else s.settleError k socket now

/-- The timer fires and asks to resume. -/
def reconnects (s : GameSession) : GameSession :=
  match s.reconnectTimer with
  | none => s
  | some attempt =>
    { s with
      reconnectTimer := none
      reconnectAttempt := s.reconnectAttempt + 1
      resuming := s.resuming ++ [attempt] }

def resumed (s : GameSession) (i : Nat) (attempt : Attempt) (grant : Grant) (now : Int) :
    GameSession :=
  let s := { s with resuming := s.resuming.eraseIdx i }
  if attempt.generation ≠ s.connectionGeneration ∨ s.status ≠ .reconnecting then
    s.attemptEnds attempt.generation
  else if grant.expiresAt ≤ now then s.attemptFails attempt.generation now
  else s.openSocket grant attempt.asked true

/-- A web socket has messages only while it is open. -/
def apply (s : GameSession) : Event → GameSession
  | .connect grant now later => s.connect grant now later
  | .disconnect => s.disconnect
  | .opens k =>
    s.setSocket k fun socket =>
      if socket.readyState = .connecting then { socket with readyState := .open } else socket
  | .authOk k roomId =>
    match s.sockets[k]? with
    | some socket => if socket.readyState = .open then s.authOk k socket roomId else s
    | none => s
  | .errorMessage k retryable now =>
    match s.sockets[k]? with
    | some socket => if socket.readyState = .open then s.errorMessage k socket retryable now else s
    | none => s
  | .error k now =>
    match s.sockets[k]? with
    | some socket =>
      (s.setSocket k fun socket => { socket with readyState := .closed }).settleError k socket now
    | none => s
  | .close k now =>
    match s.sockets[k]? with
    | some socket => s.closed k socket now
    | none => s
  | .expires k now =>
    match s.sockets[k]? with
    | some socket =>
      if socket.expiryTimer then
        (s.setSocket k fun socket => { socket.close with expiryTimer := false }).settleError k socket
          now
      else s
    | none => s
  | .reconnects => s.reconnects
  | .resumed i grant now =>
    match s.resuming[i]? with
    | some attempt => s.resumed i attempt grant now
    | none => s
  | .resumeFails i now =>
    match s.resuming[i]? with
    | some attempt =>
      { s with resuming := s.resuming.eraseIdx i }.attemptFails attempt.generation now
    | none => s
  | .unloading unloading => { s with pageUnloading := unloading }

end GameSession
end SwitchRemake.Client.Connection
