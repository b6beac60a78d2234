import IncaCook.Properties.DriverDisappeared
import IncaCook.Steps.Gateway
import IncaCook.Steps.Moves

/-!
# Who hears what

The gateway checks who may hear what when a socket asks for a room, and never again. That
is enough, in every interleaving of connections, subscriptions, chat messages, drivers'
positions and the work of the other services: whatever arrives from Redis, a socket is sent
only what its account is entitled to hear, and the position of a driver reaches only the
buyers of the orders that this driver delivers.

Nothing gets lost on the way either: a socket whose subscription was acknowledged is sent
every later status of the order once, for as long as it is connected, even after it has
unsubscribed from the delivery.

Main results:

* `Confidential`: the invariant, kept by every step and every event;
* `realtime_confidential`: what sockets are sent in any interleaving;
* `subscribed_hears`: what a socket with an acknowledged subscription is sent.
-/

namespace IncaCook

open Prog Tracking

variable {Json : Type} {env : Surroundings Json}

/-- Sockets are in rooms that they may be in, have been sent what they may hear, and drivers
have said where they are on deliveries of their own. -/
structure Confidential (env : Surroundings Json) (s : GatewayDb Json) : Prop where
  accounts : s.OwnAccounts
  rooms : ∀ k ∈ s.sockets.rows, ∀ r ∈ k.rooms,
    ∃ kind id, r = kind.room (env.text id) ∧ s.mayHear k.id kind id
  received : ∀ socket p e, (socket, Received.emission p e) ∈ s.received →
    e ∈ fanOut env.subscribes env.parse p ∧
      ∃ kind id, e.room = kind.room (env.text id) ∧ s.mayHear socket kind id
  located : ∀ driver p, (driver, p) ∈ s.located → ∃ d row, s.deliveries.find? d = some row ∧
    row.driverId = some driver ∧ p.channel = driverLocChannel (env.text d)

section

variable {s s' : GatewayDb Json} {me socket : SocketId}

/-- Sockets that keep what they looked up, or have looked up their own account. -/
theorem GatewayDb.OwnAccounts.grow (hs : s.OwnAccounts) (hgrows : s.Grows env.text s')
    (hinternal : ∀ socket k' u, s'.sockets.find? socket = some k' → k'.data.internalUserId = some u →
      (∃ k, s.sockets.find? socket = some k ∧ k.data.internalUserId = some u) ∨ s.belongs socket u) :
    s'.OwnAccounts := by
  intro socket k' u hk' hu
  rcases hinternal socket k' u hk' hu with ⟨k, hk, hsame⟩ | hown
  · exact (hs socket k u hk hsame).grow hgrows
  · exact hown.grow hgrows

/-- What is to be shown where sockets come and change. -/
theorem Confidential.of_sockets (hs : Confidential env s) (hgrows : s.Grows env.text s')
    (hinternal : ∀ socket k' u, s'.sockets.find? socket = some k' → k'.data.internalUserId = some u →
      (∃ k, s.sockets.find? socket = some k ∧ k.data.internalUserId = some u) ∨ s.belongs socket u)
    (hrooms : ∀ k' ∈ s'.sockets.rows, ∀ r ∈ k'.rooms, (∃ k ∈ s.sockets.rows, k.id = k'.id ∧ r ∈ k.rooms) ∨
      ∃ kind id, r = kind.room (env.text id) ∧ s.mayHear k'.id kind id)
    (hreceived : ∀ socket p e, (socket, Received.emission p e) ∈ s'.received →
      (socket, Received.emission p e) ∈ s.received ∨
        e ∈ fanOut env.subscribes env.parse p ∧ ∃ k ∈ s.sockets.rows, k.id = socket ∧ e.room ∈ k.rooms)
    (hlocated : ∀ driver p, (driver, p) ∈ s'.located → (driver, p) ∈ s.located ∨ ∃ d row,
      s.deliveries.find? d = some row ∧ row.driverId = some driver ∧
        p.channel = driverLocChannel (env.text d)) :
    Confidential env s' where
  accounts := hs.accounts.grow hgrows hinternal
  rooms k' hk' r hr := by
    rcases hrooms k' hk' r hr with ⟨k, hk, hid, hr⟩ | ⟨kind, id, hroom, hmay⟩
    · obtain ⟨kind, id, hroom, hmay⟩ := hs.rooms k hk r hr
      exact ⟨kind, id, hroom, hid ▸ hmay.grow hgrows⟩
    · exact ⟨kind, id, hroom, hmay.grow hgrows⟩
  received socket p e he := by
    rcases hreceived socket p e he with he | ⟨hfan, k, hk, rfl, hr⟩
    · obtain ⟨hfan, kind, id, hroom, hmay⟩ := hs.received socket p e he
      exact ⟨hfan, kind, id, hroom, hmay.grow hgrows⟩
    · obtain ⟨kind, id, hroom, hmay⟩ := hs.rooms k hk _ hr
      exact ⟨hfan, kind, id, hroom, hmay.grow hgrows⟩
  located driver p hp := by
    have hstill : ∀ d row, s.deliveries.find? d = some row → row.driverId = some driver →
        p.channel = driverLocChannel (env.text d) → ∃ d row, s'.deliveries.find? d = some row ∧
          row.driverId = some driver ∧ p.channel = driverLocChannel (env.text d) := by
      intro d row hrow hdriver hchannel
      obtain ⟨row', hrow', -, hkept⟩ := hgrows.deliveries.find? hrow
      rcases hkept with hnone | hsame
      · rw [hdriver] at hnone
        cases hnone
      · exact ⟨d, row', hrow', hsame.trans hdriver, hchannel⟩
    rcases hlocated driver p hp with hp | ⟨d, row, hrow, hdriver, hchannel⟩
    · obtain ⟨d, row, hrow, hdriver, hchannel⟩ := hs.located driver p hp
      exact hstill d row hrow hdriver hchannel
    · exact hstill d row hrow hdriver hchannel

/-- What is to be shown where one socket changes. -/
theorem Confidential.of_update {f : Socket → Socket} (hs : Confidential env s) (hf : ∀ k, (f k).id = k.id)
    (hgrows : s.Grows env.text s') (hsockets : s'.sockets = s.sockets.update socket f hf)
    (hinternal : ∀ k u, (f k).data.internalUserId = some u →
      k.data.internalUserId = some u ∨ s.belongs socket u)
    (hrooms : ∀ k, ∀ r ∈ (f k).rooms, r ∈ k.rooms ∨
      ∃ kind id, r = kind.room (env.text id) ∧ s.mayHear socket kind id)
    (hreceived : ∀ socket p e, (socket, Received.emission p e) ∈ s'.received →
      (socket, Received.emission p e) ∈ s.received)
    (hlocated : s'.located = s.located) : Confidential env s' := by
  refine hs.of_sockets hgrows (fun socket' k' u hk' hu => ?_) (fun k' hk' r hr => ?_)
    (fun socket p e he => .inl (hreceived socket p e he)) fun driver p hp => .inl (hlocated ▸ hp)
  · rw [hsockets, Table.find?_update] at hk'
    split at hk'
    · rename_i hsame
      obtain ⟨k, hk, rfl⟩ := Option.map_eq_some_iff.mp hk'
      rcases hinternal k u hu with hu | hown
      · exact .inl ⟨k, hk, hu⟩
      · exact .inr (hsame ▸ hown)
    · exact .inl ⟨k', hk', hu⟩
  · rw [hsockets] at hk'
    obtain ⟨k, hk, rfl⟩ := Table.mem_updateMany.mp hk'
    split at hr
    · rename_i hkey
      have hid : k.id = socket := of_decide_eq_true hkey
      rw [if_pos hkey]
      rcases hrooms k r hr with hr | ⟨kind, id, hroom, hmay⟩
      · exact .inl ⟨k, hk, (hf k).symm, hr⟩
      · exact .inr ⟨kind, id, hroom, by rwa [hf k, hid]⟩
    · rename_i hkey
      rw [if_neg hkey]
      exact .inl ⟨k, hk, rfl, hr⟩

/-- **Every step keeps confidences.** -/
theorem GatewayStep.confidential {site : GatewaySite} (hstep : GatewayStep env.text me site s s')
    (hs : Confidential env s) : Confidential env s' := by
  have hgrows := hstep.grows
  cases hstep with
  | noop => exact hs
  | accept hnew =>
    -- the new socket is nowhere, and nobody's
    refine hs.of_sockets hgrows (fun socket k' u hk' hu => ?_) (fun k' hk' r hr => ?_)
      (fun _ _ _ he => .inl he)
      fun _ _ hp => .inl hp
    · dsimp only at hk'
      rw [Table.find?_insert hnew] at hk'
      split at hk'
      · obtain rfl := Option.some.inj hk'
        cases hu
      · exact .inl ⟨k', hk', hu⟩
    · rcases (Table.mem_insert hnew).mp hk' with rfl | hk'
      · cases hr
      · exact .inl ⟨k', hk', rfl, hr⟩
  | setUser user hnone =>
    refine hs.of_update ?_ hgrows rfl ?_ ?_ (fun _ _ _ he => he) rfl
    · exact fun _ => rfl
    · exact fun _ _ hu => .inl hu
    · exact fun _ _ hr => .inl hr
  | setInternalUserId socket u hown =>
    refine hs.of_update ?_ hgrows rfl ?_ ?_ (fun _ _ _ he => he) rfl
    · exact fun _ => rfl
    · exact fun _ _ hu => .inr (Option.some.inj hu ▸ hown)
    · exact fun _ _ hr => .inl hr
  | join socket kind id hmay =>
    refine hs.of_update ?_ hgrows rfl ?_ ?_ (fun _ _ _ he => he) rfl
    · exact fun _ => rfl
    · exact fun _ _ hu => .inl hu
    · intro k r hr
      rcases List.mem_cons.mp hr with rfl | hr
      · exact .inr ⟨kind, id, rfl, hmay⟩
      · exact .inl (List.mem_filter.mp hr).1
  | leave socket room hroom =>
    refine hs.of_update ?_ hgrows rfl ?_ ?_ (fun _ _ _ he => he) rfl
    · exact fun _ => rfl
    · exact fun _ _ hu => .inl hu
    · exact fun _ _ hr => .inl (List.mem_filter.mp hr).1
  | reject message =>
    refine hs.of_update ?_ hgrows rfl ?_ ?_ (fun _ _ _ he => ?_) rfl
    · exact fun _ => rfl
    · exact fun _ _ hu => .inl hu
    · exact fun _ _ hr => absurd hr List.not_mem_nil
    · rcases List.mem_cons.mp he with heq | he
      · cases heq
      · exact he
  | publishLocation driver d publication hrow hdriver hchannel =>
    refine hs.of_sockets hgrows (fun _ k _ hk hu => .inl ⟨k, hk, hu⟩)
      (fun k hk _ hr => .inl ⟨k, hk, rfl, hr⟩)
      (fun _ _ _ he => .inl he) fun driver' p hp => ?_
    rcases List.mem_cons.mp hp with heq | hp
    · cases heq
      exact .inr ⟨d, _, hrow, hdriver, hchannel⟩
    · exact .inl hp
  | chat hstep =>
    exact hs.of_sockets hgrows (fun _ k _ hk hu => .inl ⟨k, hk, hu⟩)
      (fun k hk _ hr => .inl ⟨k, hk, rfl, hr⟩)
      (fun _ _ _ he => .inl he) fun _ _ hp => .inl hp

/-- A step of one call leaves the users of the other calls' sockets alone. -/
theorem GatewayStep.own {site : GatewaySite} {other : SocketId} (hstep : GatewayStep env.text me site s s')
    (hne : other ≠ me) : s'.userOf other = s.userOf other := by
  have hupdate : ∀ {socket : SocketId} {f : Socket → Socket} (hf : ∀ k, (f k).id = k.id)
      {s' : GatewayDb Json},
      s'.sockets = s.sockets.update socket f hf → (socket = me ∨ ∀ k, (f k).data.user = k.data.user) →
      s'.userOf other = s.userOf other := by
    intro socket f hf s' hsockets hsame
    unfold GatewayDb.userOf
    rw [hsockets, Table.find?_update]
    split
    · rename_i heq
      rcases hsame with hme | hsame
      · exact absurd (heq.trans hme) hne
      · rw [Option.map_map]
        exact congrFun (congrArg Option.map (funext hsame)) _
    · rfl
  cases hstep with
  | noop | publishLocation | chat => rfl
  | accept hnew =>
    unfold GatewayDb.userOf
    rw [Table.find?_insert hnew, if_neg]
    exact hne
  | setUser | reject =>
    refine hupdate ?_ rfl (.inl rfl)
    exact fun _ => rfl
  | setInternalUserId | join | leave =>
    refine hupdate ?_ rfl (.inr ?_)
    · exact fun _ => rfl
    · exact fun _ => rfl

/-! ## Events -/

/-- What the sockets are sent of an emission. -/
def GatewayDb.heard (s : GatewayDb Json) (p : Publication) (e : Emission Json) :
    List (SocketId × Received Json) :=
  (s.sockets.rows.filter fun k => k.connected && e.room ∈ k.rooms).map fun k => (k.id, .emission p e)

theorem foldl_deliver (p : Publication) (emissions : List (Emission Json)) (s : GatewayDb Json) :
    emissions.foldl (Tracking.deliver p) s =
      { s with received := emissions.reverse.flatMap (s.heard p) ++ s.received } := by
  induction emissions generalizing s with
  | nil => rfl
  | cons e rest ih =>
    rw [List.foldl_cons, ih, List.reverse_cons, List.flatMap_append, List.flatMap_singleton,
      List.append_assoc]
    rfl

theorem Db.accounts_of_keeps {db db' : Db} {sub : String} {u : UserId}
    (hkeeps : db.keepsAccounts db' = true)
    (hu : db.userIdOf sub = some u) : db'.userIdOf sub = some u := by
  obtain ⟨row, hrow, -⟩ := Option.map_eq_some_iff.mp hu
  have hsub : row.supabaseId = sub := by simpa using List.find?_some hrow
  have hsame := of_decide_eq_true (List.all_eq_true.mp hkeeps row (List.mem_of_find?_eq_some hrow))
  rw [hsub] at hsame
  rw [hsame, hu]

/-- Events add to what there is to hear, too. -/
theorem applyGatewayEvent_grows (e : GatewayEvent) (s : GatewayDb Json) :
    s.Grows env.text (applyGatewayEvent env e s) := by
  have hrefl : s.Grows env.text s := .refl s
  cases e with
  | elsewhere db' =>
    rw [applyGatewayEvent]
    split
    · rename_i hkeeps
      rw [Bool.and_eq_true] at hkeeps
      obtain ⟨horders, hdeliveries⟩ := Db.keepsParties_iff.mp hkeeps.1
      exact { hrefl with
        accounts := fun sub u hu => Db.accounts_of_keeps hkeeps.2 hu
        orders := horders
        deliveries := hdeliveries }
    · exact hrefl
  | arrives p =>
    rw [applyGatewayEvent, foldl_deliver]
    exact { hrefl with }
  | disconnects socket =>
    refine .of_update ?_ rfl rfl ?_
    · exact fun _ => rfl
    · exact fun k _ => keeps_disconnect k

theorem applyGatewayEvent_confidential (e : GatewayEvent) (hs : Confidential env s) :
    Confidential env (applyGatewayEvent env e s) := by
  have hgrows : s.Grows env.text (applyGatewayEvent env e s) := applyGatewayEvent_grows e s
  cases e with
  | elsewhere db' =>
    rw [applyGatewayEvent] at hgrows ⊢
    split
    · rename_i hkeeps
      rw [if_pos hkeeps] at hgrows
      exact hs.of_sockets hgrows (fun _ k _ hk hu => .inl ⟨k, hk, hu⟩)
        (fun k hk _ hr => .inl ⟨k, hk, rfl, hr⟩) (fun _ _ _ he => .inl he) fun _ _ hp => .inl hp
    · exact hs
  | arrives p =>
    rw [applyGatewayEvent, foldl_deliver] at hgrows ⊢
    refine hs.of_sockets hgrows (fun _ k _ hk hu => .inl ⟨k, hk, hu⟩)
      (fun k hk _ hr => .inl ⟨k, hk, rfl, hr⟩)
      (fun socket p' e he => ?_) fun _ _ hp => .inl hp
    rcases List.mem_append.mp he with he | he
    · -- what is sent goes to sockets in the room
      obtain ⟨e', he', hsent⟩ := List.mem_flatMap.mp he
      obtain ⟨k, hk, heq⟩ := List.mem_map.mp hsent
      cases heq
      simp only [List.mem_filter, Bool.and_eq_true, decide_eq_true_eq] at hk
      exact .inr ⟨List.mem_reverse.mp he', k, hk.1, rfl, hk.2.2⟩
    · exact .inl he
  | disconnects socket =>
    refine hs.of_update ?_ hgrows rfl ?_ ?_ (fun _ _ _ he => he) rfl
    · exact fun _ => rfl
    · exact fun _ _ hu => .inl hu
    · exact fun _ _ hr => absurd hr List.not_mem_nil

theorem applyGatewayEvent_userOf (e : GatewayEvent) :
    (applyGatewayEvent env e s).userOf me = s.userOf me := by
  cases e with
  | elsewhere db' =>
    rw [applyGatewayEvent]
    split
    · rfl
    · rfl
  | arrives p =>
    rw [applyGatewayEvent, foldl_deliver]
    rfl
  | disconnects socket =>
    rw [applyGatewayEvent, GatewayDb.userOf, GatewayDb.userOf]
    dsimp only
    rw [Table.find?_update]
    split
    · rw [Option.map_map]
      rfl
    · rfl

/-- The order and delivery services' steps are among the moves of `elsewhere`. -/
theorem Step.elsewhere {cfg : Config} {R : Db → Db → Prop} {n : Nat} {call : Call}
    {h : List (StepRecord machine)} {site : Site} {db' : Db} (hstep : Step cfg R n call h site s.toDb db') :
    applyGatewayEvent env (.elsewhere db') s = { s with toDb := db' } := by
  have haccounts : s.toDb.keepsAccounts db' = true :=
    List.all_eq_true.mpr fun u _ => decide_eq_true (hstep.userIdOf u.supabaseId)
  rw [applyGatewayEvent, if_pos]
  rw [hstep.keepsParties, haccounts]
  rfl

/-! ## Runs -/

/-- The gateway starts without a client. -/
abbrev gatewayRun (env : Surroundings Json) (db : ChatDb)
    (actions : List (Pool.Action (gatewayService env))) :
    Pool (gatewayService env) :=
  poolRun (GatewayDb.quiet db) actions

theorem confidential_quiet (db : ChatDb) : Confidential env (.quiet db) where
  accounts socket k u hk hu := by cases hk
  rooms k hk := by cases hk
  received socket p e he := by cases he
  located driver p hp := by cases hp

theorem gateway_sound (env : Surroundings Json) (db : ChatDb)
    (actions : List (Pool.Action (gatewayService env))) :
    Pool.Sound (gatewayContract env.text) (fun _ => gatewayPost env.text) (Confidential env) (.quiet db)
      (gatewayRun env db actions) := by
  have hany : (gatewayRun env db actions).Steps fun _ _ => True := fun _ _ => trivial
  refine Pool.sound (confidential_quiet db) ?_ (fun _ _ _ _ => GatewayRely.trans) ?_ ?_ ?_ ?_ ?_
    actions hany
  · exact fun _ s hs => ⟨.refl s, rfl, hs.accounts⟩
  · intro me call h r s s' hR hQ
    cases call with
    | subscribe socket body => exact fun subscribed heq => (hQ subscribed heq).grow hR.grows
    | _ => trivial
  · exact fun _ _ _ _ _ hs _ hstep => hstep.confidential hs
  · exact fun me other _ _ _ _ hne hs _ hstep =>
      ⟨hstep.grows, hstep.own (Ne.symm hne), (hstep.confidential hs).accounts⟩
  · exact fun e s hs => ⟨applyGatewayEvent_confidential e hs, fun me =>
      ⟨applyGatewayEvent_grows e s, applyGatewayEvent_userOf e,
        (applyGatewayEvent_confidential e hs).accounts⟩⟩
  · exact fun _ call _ _ _ _ => gatewayHandle_sat env call

end

/-- **Sockets are sent only what their accounts may hear.** In every interleaving of connections,
subscriptions, chat messages and drivers' positions with any moves of the other services and any
publications: whatever a socket was sent is for a room that its account may hear; what was published
for an id has been sent only to sockets whose token is that of an account entitled to hear it, and a
position that a driver has published only to the buyer of an order that this driver delivers. -/
theorem realtime_confidential (env : Surroundings Json) (htext : Function.Injective env.text)
    (hglob : Glob.GlobStyle env.subscribes) (db : ChatDb)
    (actions : List (Pool.Action (gatewayService env))) :
    (∀ socket p e, (socket, Received.emission p e) ∈ (gatewayRun env db actions).state.received →
      (∃ kind id, e.room = kind.room (env.text id) ∧
        (gatewayRun env db actions).state.mayHear socket kind id) ∧
      ∀ kind id, p.channel = kind.channel (env.text id) →
        (gatewayRun env db actions).state.mayHear socket kind id) ∧
      ∀ driver p, (driver, p) ∈ (gatewayRun env db actions).state.located →
        ∃ d row, (gatewayRun env db actions).state.deliveries.find? d = some row ∧
          row.driverId = some driver ∧
          ∀ socket e, (socket, Received.emission p e) ∈ (gatewayRun env db actions).state.received →
            (gatewayRun env db actions).state.mayHear socket .driverLoc d := by
  have hs : Confidential env (gatewayRun env db actions).state := (gateway_sound env db actions).inv
  have hheard : ∀ socket p e, (socket, Received.emission p e) ∈ (gatewayRun env db actions).state.received →
      ∀ kind id, p.channel = kind.channel (env.text id) →
        (gatewayRun env db actions).state.mayHear socket kind id := by
    intro socket p e he kind id hchannel
    obtain ⟨hfan, kind', id', hroom, hmay⟩ := hs.received socket p e he
    -- the publication is emitted to the room of its kind and id, and the socket is in that room
    obtain ⟨channel, message⟩ := p
    obtain rfl : channel = kind.channel (env.text id) := hchannel
    rw [(routed_channel hglob kind (env.text id) message).emitted] at hfan
    obtain ⟨payload, -, rfl⟩ := List.mem_map.mp hfan
    obtain ⟨rfl, hid⟩ := Kind.room_injective hroom
    exact htext hid ▸ hmay
  refine ⟨fun socket p e he => ⟨(hs.received socket p e he).2, hheard socket p e he⟩, fun driver p hp => ?_⟩
  obtain ⟨d, row, hrow, hdriver, hchannel⟩ := hs.located driver p hp
  exact ⟨d, row, hrow, hdriver, fun socket e he => hheard socket p e he .driverLoc d hchannel⟩

/-- Ids written with two letters. -/
def townText (id : Ulid) : String := String.ofList (List.replicate id.call 'A' ++ List.replicate id.seq 'B')

theorem townText_injective : Function.Injective townText := by
  intro a b heq
  have hlists := String.ofList_injective heq
  have hcount : ∀ c : Char, (List.replicate a.call 'A' ++ List.replicate a.seq 'B').count c =
      (List.replicate b.call 'A' ++ List.replicate b.seq 'B').count c := fun c => by rw [hlists]
  have hcall := hcount 'A'
  have hseq := hcount 'B'
  simp only [List.count_append, List.count_replicate] at hcall hseq
  obtain ⟨n, m⟩ := a
  obtain ⟨n', m'⟩ := b
  simp_all

/-- One token is genuine, and every message parses. -/
def townSurroundings : Surroundings String where
  text := townText
  verify token := if token = "token" then some "buyer" else none
  stringify _ := "true"
  subscribes pattern text := Glob.accepts pattern.toList text.toList
  parse := some

/-- The buyer connects and subscribes to the order. -/
def buyerSubscribes : List (Pool.Action (gatewayService townSurroundings)) :=
  let steps (j n : Nat) : List (Pool.Action (gatewayService townSurroundings)) :=
    List.replicate n (.run j ⟨true, "", ""⟩)
  .arrive (.connect ⟨some "token", none⟩) :: steps 0 6 ++
    .arrive (.subscribe 0 ⟨some (.ulid ⟨0, 0⟩), none⟩) :: steps 1 7

/-- The driver says where they are. -/
def driverMoves : List (Pool.Action (gatewayService townSurroundings)) :=
  .arrive (.recordLocation "driver" ⟨.finite 1, .finite 2, none, none⟩) ::
    List.replicate 4 (.run 2 ⟨true, "", ""⟩) ++
      [.event (.arrives ⟨driverLocChannel (townText ⟨3, 2⟩), "true"⟩)]

/-- The position has reached the buyer's socket. -/
theorem buyer_hears_driver :
    (∃ kind id, "delivery:AAABB" = kind.room (townText id) ∧
      (gatewayRun townSurroundings (.silent pickedUpTown) (buyerSubscribes ++ driverMoves)).state.mayHear 0
        kind id) ∧
    (gatewayRun townSurroundings (.silent pickedUpTown) (buyerSubscribes ++ driverMoves)).state.mayHear 0
      .driverLoc ⟨3, 2⟩ :=
  have hheard := (realtime_confidential townSurroundings townText_injective Glob.globStyle_accepts (.silent pickedUpTown)
    (buyerSubscribes ++ driverMoves)).1 0 ⟨driverLocChannel (townText ⟨3, 2⟩), "true"⟩
    ⟨"delivery:AAABB", "driver:location", "true"⟩ (by decide +kernel)
  ⟨hheard.1, hheard.2 .driverLoc ⟨3, 2⟩ rfl⟩

/-- The socket of a subscription. -/
def GatewayCall.subscriber : GatewayCall → Option SocketId
  | .subscribe socket _ => some socket
  | _ => none

/-- What was acknowledged. -/
def acknowledged : Except WsError GatewayReply → Option Subscribed
  | .ok (.subscribed subscribed) => some subscribed
  | _ => none

theorem listens_of_acknowledged {text : Ulid → String} {c : GatewayCall}
    {h : List (StepRecord (gatewayMachine Json))}
    {r : Except WsError GatewayReply} {s : GatewayDb Json} {socket : SocketId} {subscribed : Subscribed}
    (hpost : gatewayPost text c h r s) (hsocket : c.subscriber = some socket)
    (hsubscribed : acknowledged r = some subscribed) : s.listens text socket subscribed.orderId := by
  cases c with
  | subscribe socket' body =>
    obtain rfl := Option.some.inj hsocket
    refine hpost subscribed ?_
    unfold acknowledged at hsubscribed
    split at hsubscribed
    · rw [Option.some.inj hsubscribed]
    · cases hsubscribed
  | _ => cases hsocket

/-- **An acknowledged subscription is served.** From the acknowledgement on, whatever happens
in between, a socket that is connected is sent each status of the order that arrives, once. -/
theorem subscribed_hears (env : Surroundings Json) (hglob : Glob.GlobStyle env.subscribes) (db : ChatDb)
    (before after : List (Pool.Action (gatewayService env))) (j : Nat) (socket : SocketId)
    (subscribed : Subscribed) {k : Socket} {message : String} {json : Json}
    (hcall : ((gatewayRun env db before).call? j).bind GatewayCall.subscriber = some socket)
    (hacked : ((gatewayRun env db before).result? j).bind acknowledged = some subscribed)
    (hk : (gatewayRun env db (before ++ after)).state.sockets.find? socket = some k)
    (hconnected : k.connected = true) (hparse : env.parse message = some json) :
    ∃ sent, (gatewayRun env db (before ++ after ++
        [.event (.arrives ⟨orderStatusChannel (env.text subscribed.orderId), message⟩)])).state.received =
          sent ++ (gatewayRun env db (before ++ after)).state.received ∧
      sent.filter (fun r => r.1 = socket) = [(socket, .emission
        ⟨orderStatusChannel (env.text subscribed.orderId), message⟩
        ⟨"order:" ++ env.text subscribed.orderId, "order:status", json⟩)] := by
  have hgrows :
      (gatewayRun env db before).state.Grows env.text (gatewayRun env db (before ++ after)).state := by
    refine Pool.leads (R := GatewayDb.Grows env.text) (.refl) (fun _ _ _ hab hbc => hab.trans hbc)
      applyGatewayEvent_grows before after fun e he => ?_
    obtain ⟨h, -, -, hstep⟩ := (gateway_sound env db (before ++ after)).step e he
    exact hstep.grows
  -- the socket has been in the room ever since
  obtain ⟨r, hr, hsubscribed⟩ := Option.bind_eq_some_iff.mp hacked
  obtain ⟨c, hc, hpost⟩ := (gateway_sound env db before).result hr
  obtain ⟨k', hk', hroom⟩ := (listens_of_acknowledged hpost (by rwa [hc] at hcall) hsubscribed).grow hgrows
  obtain rfl : k' = k := Option.some.inj (hk'.symm.trans hk)
  have hfan :
      fanOut env.subscribes env.parse ⟨orderStatusChannel (env.text subscribed.orderId), message⟩ =
        [⟨"order:" ++ env.text subscribed.orderId, "order:status", json⟩] := by
    refine (routed_channel hglob .orderStatus (env.text subscribed.orderId) message).emitted.trans ?_
    rw [hparse]
    rfl
  refine ⟨(gatewayRun env db (before ++ after)).state.heard
    ⟨orderStatusChannel (env.text subscribed.orderId), message⟩
    ⟨"order:" ++ env.text subscribed.orderId, "order:status", json⟩, ?_, ?_⟩
  · rw [gatewayRun, poolRun_concat]
    show (applyGatewayEvent env _ _).received = _
    rw [applyGatewayEvent, foldl_deliver, hfan, List.reverse_singleton, List.flatMap_singleton]
  · have hrows : ((gatewayRun env db (before ++ after)).state.sockets.rows.filter fun k =>
        k.id = socket &&
          (k.connected && Kind.orderStatus.room (env.text subscribed.orderId) ∈ k.rooms)) = [k'] := by
      refine (Table.filter_key _ socket _).trans ?_
      rw [hk, Option.filter_some, if_pos]
      · rfl
      · simp [hconnected, hroom hconnected]
    rw [GatewayDb.heard, List.filter_map, List.filter_filter]
    refine (congrArg (List.map _) hrows).trans ?_
    rw [List.map_singleton, show k'.id = socket from Table.key_of_find? hk]

/-- The buyer is told that the order was delivered, after the driver has moved. -/
theorem buyer_hears_status :
    ∃ sent, (gatewayRun townSurroundings (.silent pickedUpTown) (buyerSubscribes ++ driverMoves ++
        [.event (.arrives ⟨orderStatusChannel (townText ⟨0, 0⟩), "true"⟩)])).state.received =
          sent ++ (gatewayRun townSurroundings (.silent pickedUpTown)
            (buyerSubscribes ++ driverMoves)).state.received ∧
      sent.filter (fun r => r.1 = 0) = [(0, .emission ⟨orderStatusChannel (townText ⟨0, 0⟩), "true"⟩
        ⟨"order:" ++ townText ⟨0, 0⟩, "order:status", "true"⟩)] :=
  subscribed_hears townSurroundings Glob.globStyle_accepts (.silent pickedUpTown) buyerSubscribes
    driverMoves 1 0 ⟨⟨0, 0⟩, some ⟨3, 2⟩⟩
    (k := ⟨0, ⟨some "buyer", some ⟨0, 100⟩⟩,
      ["delivery:AAABB", "order:", "user:" ++ townText ⟨0, 100⟩], true⟩)
    (by decide +kernel) (by decide +kernel) (by decide +kernel) rfl rfl

end IncaCook
