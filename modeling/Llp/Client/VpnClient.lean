/-
  `llp-client/lib.rs`: `VpnClient`, its main loop and the reconnect budget.

  An event is what a round of the `select!` gets: a packet from TUN (a `receive_packet` that was
  dropped for it has taken some bytes off the stream), a failed read from TUN, or a
  `receive_packet` that is done. A run records the outcomes of the calls of `connect` that
  `reconnect` made. The keepalive task reads the connection and writes nothing.

  * `run_uses_budget_iff`: the client gives up after `reconnect_attempts` failed attempts in a row,
    and not before, exactly when the budget is one attempt or no attempt fails.
-/
import Llp.Client.Reconnect

namespace Llp.Client
open Mimicry

/-- `VpnClient`: its connection, and whether there is a TUN interface. -/
structure VpnClient where
  connection : Connection
  tunnel : Bool

namespace VpnClient

/-- `VpnClient::new`. -/
def new (config : ClientConfig) : VpnClient := ⟨Connection.new config, false⟩

/-- What `connect` meets: whether the TUN interface is created, the attempt to connect, and whether
    the address and the default route are set, where they are configured. -/
structure Setup where
  created : Bool
  attempt : Attempt
  address : Bool
  route : Bool

/-- Call the connection. -/
def onConnection {α : Type} (m : Method Connection BoxError α) : Method VpnClient BoxError α :=
  Method.focus VpnClient.connection (fun connection self => { self with connection := connection })
    m

/-- `VpnClient::connect`. -/
def connect (P : Primitives) (setup : Setup) : Method VpnClient BoxError Unit := do
  Method.failIf (!setup.created) .io
  onConnection (Connection.connect P setup.attempt)
  Method.failIf (!setup.address) .io
  Method.failIf (!setup.route) .io
  modify fun self => { self with tunnel := true }

/-- What a round of the loop gets. -/
inductive Event where
  | fromTun (taken : ℕ) (call : ServerConnection.SendCall) (attempt : Attempt)
  | tunFailed
  | fromServer (now now' : Instant) (attempt : Attempt)

/-- How a run stands: still in the loop, no TUN interface, a failed read from TUN, a failed
    reconnection after a send or receive error (with the error that it ends with), or a panic in
    a packet call. -/
inductive Ending where
  | running
  | noTunnel
  | tunFailed
  | gaveUp (e : Fault BoxError)
  | panicked
deriving DecidableEq

/-- A run: where the connection is, the outcomes of the `connect` calls that `reconnect` made, and
    how it stands. -/
structure Run where
  connection : Connection
  outcomes : List Bool
  ending : Ending

section Loop

variable (P : Primitives) (A : ChaCha20Poly1305) (http : HttParse)

/-- A `receive_packet` that is dropped keeps the bytes that it has taken. -/
def dropReceive (taken : ℕ) (self : Connection) : Connection :=
  { self with link := { self.link with
    stream := self.link.stream.map fun stream =>
      { stream with input := stream.input.drop taken } } }

/-- What `connect` did, when `reconnect` called it. -/
def reconnectOutcome (attempt : Attempt) (c : Connection) : List Bool :=
  if c.info.reconnectAttempts + 1 > c.config.reconnectAttempts then []
  else [Connection.Completes P c.config attempt]

/-- After a packet call: on an error the loop reconnects, and leaves with an error if that fails. -/
def afterCall {α : Type} (attempt : Attempt) :
    EStateM.Result (Fault BoxError) Connection α → Run
  | .ok _ c => ⟨c, [], .running⟩
  | .error .panic c => ⟨c, [], .panicked⟩
  | .error (.err _) c =>
      match Connection.reconnect P attempt c with
      | .ok _ c' => ⟨c', reconnectOutcome P attempt c, .running⟩
      | .error e c' => ⟨c', reconnectOutcome P attempt c, .gaveUp e⟩

/-- One round of the loop. -/
def round (c : Connection) : Event → Run
  | .fromTun taken call attempt =>
      afterCall P attempt
        (Connection.onLink (ServerConnection.sendPacket A call) (dropReceive taken c))
  | .tunFailed => ⟨c, [], .tunFailed⟩
  | .fromServer now now' attempt =>
      afterCall P attempt (Connection.onLink (ServerConnection.receivePacket A http now now') c)

/-- The attempt to connect that follows a packet call: one, on an error. -/
def attemptAfter {α : Type} (attempt : Attempt) :
    EStateM.Result (Fault BoxError) Connection α → Option Attempt
  | .error (.err _) _ => some attempt
  | _ => none

/-- The attempt to connect in a round. -/
def attempted (c : Connection) : Event → Option Attempt
  | .fromTun taken call attempt =>
      attemptAfter attempt
        (Connection.onLink (ServerConnection.sendPacket A call) (dropReceive taken c))
  | .tunFailed => none
  | .fromServer now now' attempt =>
      attemptAfter attempt (Connection.onLink (ServerConnection.receivePacket A http now now') c)

/-- The loop, on the events that it gets. -/
def loop (c : Connection) : List Event → Run
  | [] => ⟨c, [], .running⟩
  | event :: events =>
      let first := round P A http c event
      match first.ending with
      | .running =>
          let rest := loop first.connection events
          ⟨rest.connection, first.outcomes ++ rest.outcomes, rest.ending⟩
      | ending => ⟨first.connection, first.outcomes, ending⟩

/-- `VpnClient::run`. -/
def run (self : VpnClient) (events : List Event) : Run :=
  if self.tunnel then loop P A http self.connection events
  else ⟨self.connection, [], .noTunnel⟩

/-- Every attempt to connect that the loop makes completes. -/
def Recovers (c : Connection) : List Event → Prop
  | [] => True
  | event :: events =>
      (∀ attempt ∈ attempted A http c event, Connection.Completes P c.config attempt = true) ∧
        ((round P A http c event).ending = .running →
          Recovers (round P A http c event).connection events)

end Loop

/-- The failed attempts since the last successful one. -/
def failures (outcomes : List Bool) : ℕ := (outcomes.reverse.takeWhile not).length

/-- Where the run gave up, the whole budget was used. -/
def UsesBudget (reconnectAttempts : UInt32) (run : Run) : Prop :=
  ∀ e, run.ending = .gaveUp e → reconnectAttempts.toNat ≤ failures run.outcomes

theorem failures_once {outcomes : List Bool} (h : ∀ o ∈ outcomes, o = true) :
    failures (outcomes ++ [false]) = 1 := by
  have hnone : outcomes.reverse.takeWhile not = [] := by
    cases hrev : outcomes.reverse with
    | nil => rfl
    | cons o os =>
        have ho : o ∈ outcomes := List.mem_reverse.mp (by rw [hrev]; exact List.mem_cons_self)
        rw [h o ho]
        rfl
  rw [failures, List.reverse_append, List.reverse_singleton, List.singleton_append,
    List.takeWhile_cons_of_pos rfl, hnone]
  rfl

section Rounds

variable {P : Primitives} {A : ChaCha20Poly1305} {http : HttParse} {N : UInt32} {c : Connection}

/-- In the loop the counter is at zero: a `connect` that returned has reset it. -/
structure Ready (N : UInt32) (c : Connection) : Prop where
  counter : c.info.reconnectAttempts = 0
  budget : c.config.reconnectAttempts = N

theorem onLink_frame {α : Type} (m : Method ServerConnection BoxError α) (c : Connection) :
    (Method.state (Connection.onLink m c)).info = c.info ∧
      (Method.state (Connection.onLink m c)).config = c.config := by
  unfold Connection.onLink
  cases hm : m c.link with
  | ok a link =>
      rw [Method.focus_ok hm]
      exact ⟨rfl, rfl⟩
  | error e link =>
      rw [Method.focus_error hm]
      exact ⟨rfl, rfl⟩

theorem ready_onLink {α : Type} {m : Method ServerConnection BoxError α} (h : Ready N c) :
    Ready N (Method.state (Connection.onLink m c)) := by
  obtain ⟨hinfo, hconfig⟩ := onLink_frame m c
  refine ⟨?_, ?_⟩
  · rw [hinfo]
    exact h.counter
  · rw [hconfig]
    exact h.budget

/-- `connect` returns when the attempt completes, and only then. -/
theorem connect_cases (attempt : Attempt) (c : Connection) :
    (Connection.Completes P c.config attempt = true ∧ ∃ c',
      Connection.connect P attempt c = .ok () c' ∧ Ready c.config.reconnectAttempts c') ∨
    (Connection.Completes P c.config attempt = false ∧
      ∃ e c', Connection.connect P attempt c = .error e c') := by
  unfold Connection.Completes
  cases htcp : attempt.tcp with
  | none => exact Or.inr ⟨rfl, _, _, Connection.connect_unreached htcp⟩
  | some stream =>
      rw [Connection.connect_reached htcp]
      cases hrun : Connection.handshake P c.config attempt stream with
      | ok a stream' =>
          refine Or.inl ⟨?_, _, rfl, rfl, rfl⟩
          simp only [hrun]
          rfl
      | error e stream' =>
          refine Or.inr ⟨?_, _, _, rfl⟩
          simp only [hrun]
          rfl

/-- How a round ends: ready again if its attempt, if any, completes, or else with one failed
    attempt. -/
def RoundEnds (N : UInt32) (recovered : Prop) (r : Run) : Prop :=
  recovered ∧ (r.ending = .running → Ready N r.connection) ∧ (∀ e, r.ending ≠ .gaveUp e) ∧
      (∀ o ∈ r.outcomes, o = true) ∨
    ¬ recovered ∧ (∃ e, r.ending = .gaveUp e) ∧ r.outcomes = [false]

/-- After an error the loop reconnects, and the attempt says how the round ends. -/
theorem afterCall_error {α : Type} (attempt : Attempt) (e : BoxError)
    (hallowed : c.info.reconnectAttempts + 1 ≤ c.config.reconnectAttempts) :
    (∃ c', Connection.Completes P c.config attempt = true ∧
        Ready c.config.reconnectAttempts c' ∧
        afterCall P attempt (.error (.err e) c : EStateM.Result _ _ α) = ⟨c', [true], .running⟩) ∨
      ∃ e' c', Connection.Completes P c.config attempt = false ∧
        afterCall P attempt (.error (.err e) c : EStateM.Result _ _ α) =
          ⟨c', [false], .gaveUp e'⟩ := by
  have hreconnect : Connection.reconnect P attempt c = Connection.connect P attempt { c with
      info := { c.info with
        state := .reconnecting
        reconnectAttempts := c.info.reconnectAttempts + 1 }
      link := ⟨none, none, none⟩ } := Connection.reconnect_allowed hallowed
  have houtcome : reconnectOutcome P attempt c = [Connection.Completes P c.config attempt] :=
    if_neg (UInt32.not_lt.mpr hallowed)
  rcases connect_cases (P := P) attempt { c with
      info := { c.info with
        state := .reconnecting
        reconnectAttempts := c.info.reconnectAttempts + 1 }
      link := ⟨none, none, none⟩ } with ⟨hcompletes, c', hok, hready⟩ | ⟨hfails, e', c', herr⟩
  · refine Or.inl ⟨c', hcompletes, hready, ?_⟩
    rw [afterCall, hreconnect, hok, houtcome, hcompletes]
  · refine Or.inr ⟨e', c', hfails, ?_⟩
    rw [afterCall, hreconnect, herr, houtcome, hfails]

theorem afterCall_ends {α : Type} (hN : 1 ≤ N) (attempt : Attempt)
    {result : EStateM.Result (Fault BoxError) Connection α} (h : Ready N (Method.state result)) :
    RoundEnds N (∀ attempt' ∈ attemptAfter attempt result,
      Connection.Completes P (Method.state result).config attempt' = true)
      (afterCall P attempt result) := by
  cases result with
  | ok a c => exact Or.inl ⟨nofun, fun _ => h, nofun, nofun⟩
  | error e c =>
      cases e with
      | panic => exact Or.inl ⟨nofun, nofun, nofun, nofun⟩
      | err e =>
          have hready : Ready N c := h
          have hallowed : c.info.reconnectAttempts + 1 ≤ c.config.reconnectAttempts := by
            rw [hready.counter, hready.budget]
            exact hN
          rcases afterCall_error (P := P) (α := α) attempt e hallowed with
            ⟨c', hcompletes, hready', hrun⟩ | ⟨e', c', hfails, hrun⟩
          · rw [hrun]
            rw [hready.budget] at hready'
            refine Or.inl ⟨fun attempt' hattempt => ?_, fun _ => hready', nofun,
              fun o ho => List.mem_singleton.mp ho⟩
            cases hattempt
            exact hcompletes
          · rw [hrun]
            refine Or.inr ⟨fun hall => ?_, ⟨e', rfl⟩, rfl⟩
            have hcompletes : Connection.Completes P c.config attempt = true := hall attempt rfl
            rw [hfails] at hcompletes
            cases hcompletes

theorem round_ends (http : HttParse) (hN : 1 ≤ N) (h : Ready N c) (event : Event) :
    RoundEnds N (∀ attempt ∈ attempted A http c event,
      Connection.Completes P c.config attempt = true) (round P A http c event) := by
  cases event with
  | fromTun taken call attempt =>
      have hready : Ready N (dropReceive taken c) := ⟨h.counter, h.budget⟩
      have hconfig := (onLink_frame (ServerConnection.sendPacket A call) (dropReceive taken c)).2
      have hends := afterCall_ends (P := P) hN attempt
        (ready_onLink (m := ServerConnection.sendPacket A call) hready)
      rw [hconfig] at hends
      exact hends
  | tunFailed => exact Or.inl ⟨nofun, nofun, nofun, nofun⟩
  | fromServer now now' attempt =>
      have hconfig := (onLink_frame (ServerConnection.receivePacket A http now now') c).2
      have hends := afterCall_ends (P := P) hN attempt
        (ready_onLink (m := ServerConnection.receivePacket A http now now') h)
      rw [hconfig] at hends
      exact hends

theorem loop_running {event : Event} (events : List Event)
    (h : (round P A http c event).ending = .running) :
    loop P A http c (event :: events) =
      ⟨(loop P A http (round P A http c event).connection events).connection,
        (round P A http c event).outcomes ++
          (loop P A http (round P A http c event).connection events).outcomes,
        (loop P A http (round P A http c event).connection events).ending⟩ := by
  simp only [loop, h]

theorem loop_ended {event : Event} (events : List Event)
    (h : (round P A http c event).ending ≠ .running) :
    loop P A http c (event :: events) = round P A http c event := by
  unfold loop
  cases hround : round P A http c event with
  | mk connection outcomes ending =>
      rw [hround] at h
      cases ending with
      | running => exact absurd rfl h
      | noTunnel | tunFailed | gaveUp e | panicked => rfl

/-- The first attempt that fails ends the loop, and nothing else makes it give up. -/
theorem loop_ends (http : HttParse) (hN : 1 ≤ N) (h : Ready N c) (events : List Event) :
    Recovers P A http c events ∧ (∀ e, (loop P A http c events).ending ≠ .gaveUp e) ∨
      ¬ Recovers P A http c events ∧ (∃ e, (loop P A http c events).ending = .gaveUp e) ∧
        ∃ outcomes, (loop P A http c events).outcomes = outcomes ++ [false] ∧
          ∀ o ∈ outcomes, o = true := by
  induction events generalizing c with
  | nil => exact Or.inl ⟨trivial, nofun⟩
  | cons event events ih =>
      rcases round_ends (P := P) (A := A) http hN h event with
        ⟨hrecovered, hready, hending, houtcomes⟩ | ⟨hfails, ⟨e, hending⟩, houtcomes⟩
      · by_cases hrunning : (round P A http c event).ending = .running
        · rw [loop_running events hrunning]
          rcases ih (hready hrunning) with ⟨hrest, hnever⟩ | ⟨hrest, hgaveUp, outcomes, hout, htrue⟩
          · exact Or.inl ⟨⟨hrecovered, fun _ => hrest⟩, hnever⟩
          · refine Or.inr ⟨fun hall => hrest (hall.2 hrunning), hgaveUp,
              (round P A http c event).outcomes ++ outcomes, ?_, fun o ho => ?_⟩
            · rw [hout, List.append_assoc]
            · exact (List.mem_append.mp ho).elim (houtcomes o) (htrue o)
        · rw [loop_ended events hrunning]
          exact Or.inl ⟨⟨hrecovered, fun h => absurd h hrunning⟩, hending⟩
      · have hstops : (round P A http c event).ending ≠ .running := by
          rw [hending]
          nofun
        rw [loop_ended events hstops]
        exact Or.inr ⟨fun hall => hfails hall.1, ⟨e, hending⟩, [], houtcomes, nofun⟩

/-- After a `connect` that returned, there is a tunnel, and the counter is at zero. -/
theorem connect_ready {setup : Setup} {client0 client : VpnClient}
    (h : VpnClient.connect P setup client0 = .ok () client) :
    client.tunnel = true ∧
      Ready client.connection.config.reconnectAttempts client.connection := by
  unfold VpnClient.connect at h
  obtain ⟨-, hconnect⟩ := Method.failIf_bind_eq_ok h
  obtain ⟨_, client', hconnection, hrest⟩ := Method.bind_eq_ok hconnect
  obtain ⟨-, haddress⟩ := Method.failIf_bind_eq_ok hrest
  obtain ⟨-, hroute⟩ := Method.failIf_bind_eq_ok haddress
  obtain ⟨connection, hok, rfl⟩ := Method.focus_eq_ok hconnection
  cases hroute
  refine ⟨rfl, ?_⟩
  rcases connect_cases (P := P) setup.attempt client0.connection with
    ⟨-, c', hok', hready⟩ | ⟨-, e, c', herr⟩
  · rw [hok] at hok'
    cases hok'
    exact ⟨hready.counter, rfl⟩
  · rw [hok] at herr
    cases herr

end Rounds

/-- **The client gives up at the first attempt that fails.** After a `connect` that returned, with
    a budget of at least one, a run that gives up has used the whole budget exactly when the budget
    is one attempt, or every attempt to reconnect completes. -/
theorem run_uses_budget_iff (P : Primitives) (A : ChaCha20Poly1305) (http : HttParse)
    (setup : Setup) (client0 client : VpnClient) (events : List Event)
    (hconnect : VpnClient.connect P setup client0 = .ok () client)
    (hN : 1 ≤ client.connection.config.reconnectAttempts) :
    UsesBudget client.connection.config.reconnectAttempts (run P A http client events) ↔
      client.connection.config.reconnectAttempts = 1 ∨
        Recovers P A http client.connection events := by
  obtain ⟨htunnel, hready⟩ := connect_ready hconnect
  have hrun : run P A http client events = loop P A http client.connection events := by
    rw [run, if_pos htunnel]
  rw [hrun]
  rcases loop_ends (P := P) (A := A) http hN hready events with
    ⟨hrecovers, hnever⟩ | ⟨hfails, ⟨e, hgaveUp⟩, outcomes, houtcomes, htrue⟩
  · exact iff_of_true (fun e h => absurd h (hnever e)) (Or.inr hrecovers)
  · have hone : failures (loop P A http client.connection events).outcomes = 1 := by
      rw [houtcomes, failures_once htrue]
    constructor
    · intro hused
      have hle := hused e hgaveUp
      rw [hone] at hle
      exact Or.inl (UInt32.le_antisymm hle hN)
    · rintro (hbudget | hrecovers)
      · intro e' _
        rw [hone, hbudget]
        exact Nat.le_refl 1
      · exact absurd hrecovers hfails

/-! ### One failed attempt of five -/

section Sample

/-- A `connect` that nothing stops. -/
def sampleConnect (reconnectAttempts : UInt32) : EStateM.Result (Fault BoxError) VpnClient Unit :=
  VpnClient.connect samplePrimitives
    ⟨true, Connection.sampleAttempt Connection.sampleServer, true, true⟩
    (new ⟨"none", reconnectAttempts⟩)

/-- The run after it: the server closes the connection, and is then not there. -/
def sampleClosed (reconnectAttempts : UInt32) : Run :=
  run samplePrimitives sampleAead ⟨fun _ _ => .ok .incomplete⟩
    (Method.state (sampleConnect reconnectAttempts))
    [.fromServer 0 0 { Connection.sampleAttempt [] with tcp := none }]

/-- With a budget of five attempts, the client gives up after one. -/
theorem run_gives_up_early :
    (Method.result (sampleConnect 5)).isOk = true ∧ (sampleClosed 5).ending = .gaveUp (.err .io) ∧
      failures (sampleClosed 5).outcomes = 1 ∧ ¬ UsesBudget 5 (sampleClosed 5) := by
  have hclosed : (Method.result (sampleConnect 5)).isOk = true ∧
      (sampleClosed 5).ending = .gaveUp (.err .io) ∧ failures (sampleClosed 5).outcomes = 1 := by
    decide +kernel
  obtain ⟨hconnect, hgaveUp, hone⟩ := hclosed
  refine ⟨hconnect, hgaveUp, hone, fun h => ?_⟩
  have hfive := h _ hgaveUp
  rw [hone] at hfive
  exact absurd hfive (by decide)

/-- With a budget of two attempts: the server closes the connection, and the attempt that follows
    completes; then it closes that one too, and is not there. -/
theorem run_uses_budget_iff_closed :
    let client := Method.state (sampleConnect 2)
    let http : HttParse := ⟨fun _ _ => .ok .incomplete⟩
    let back := [Event.fromServer 0 0 (Connection.sampleAttempt Connection.sampleServer)]
    let gone := back ++ [.fromServer 0 0 { Connection.sampleAttempt [] with tcp := none }]
    ((run samplePrimitives sampleAead http client back).outcomes = [true] ∧
      (UsesBudget client.connection.config.reconnectAttempts
          (run samplePrimitives sampleAead http client back) ↔
        client.connection.config.reconnectAttempts = 1 ∨
          Recovers samplePrimitives sampleAead http client.connection back)) ∧
    (run samplePrimitives sampleAead http client gone).outcomes = [true, false] ∧
      (UsesBudget client.connection.config.reconnectAttempts
          (run samplePrimitives sampleAead http client gone) ↔
        client.connection.config.reconnectAttempts = 1 ∨
          Recovers samplePrimitives sampleAead http client.connection gone) := by
  intro client http back gone
  have hok : (Method.result (sampleConnect 2)).isOk = true := by decide +kernel
  obtain ⟨_, client', hrun⟩ := Method.isOk_result.mp hok
  have hconnect : sampleConnect 2 = .ok () (Method.state (sampleConnect 2)) := by
    rw [hrun, Method.state_ok]
  have hbudget : 1 ≤ client.connection.config.reconnectAttempts := by decide +kernel
  refine ⟨⟨by decide +kernel, ?_⟩, by decide +kernel, ?_⟩
  · exact run_uses_budget_iff samplePrimitives sampleAead http _ _ client back hconnect hbudget
  · exact run_uses_budget_iff samplePrimitives sampleAead http _ _ client gone hconnect hbudget

end Sample

end VpnClient

end Llp.Client
