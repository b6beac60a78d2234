import IncaCook.Model.Gateway
import IncaCook.Properties.Realtime
import IncaCook.Steps.Chat
import IncaCook.Steps.Ledger

/-!
# The steps of the gateway

`GatewayStep` lists what a single step of the gateway, of the chat service and of the
drivers' positions can do to the sockets and to the tables behind them. A socket is put into
a room only where its account may hear what the room is for, and what an account may
hear it may hear for good: nobody takes an order from its buyer, a delivery from its order,
or a conversation from its participants.

Main results:

* `GatewayStep.grows`: what a step leaves as it was;
* `gatewayHandle_sat`: every call of the gateway takes only such steps, and a socket whose
  subscription was acknowledged is in the room of the order.
-/

namespace IncaCook

open Prog Tracking

variable {Json : Type}

/-! ## Who may hear what -/

/-- What the account may hear of: itself, the orders it has placed and their deliveries, and
the conversations it takes part in. -/
def GatewayDb.entitled (s : GatewayDb Json) (u : UserId) : Kind → Ulid → Prop
  | .userDelivery, id => id = u
  | .orderStatus, id => ∃ o, s.orders.find? id = some o ∧ o.buyerId = u
  | .driverLoc, id => ∃ d o,
    s.deliveries.find? id = some d ∧ s.orders.find? d.orderId = some o ∧ o.buyerId = u
  | .conversation, id => u ∈ s.members id

/-- The token of the socket was that of the account. -/
def GatewayDb.belongs (s : GatewayDb Json) (socket : SocketId) (u : UserId) : Prop :=
  ∃ k sub, s.sockets.find? socket = some k ∧ k.data.user = some sub ∧ s.userIdOf sub = some u

def GatewayDb.mayHear (s : GatewayDb Json) (socket : SocketId) (kind : Kind) (id : Ulid) : Prop :=
  ∃ u, s.belongs socket u ∧ s.entitled u kind id

/-- A socket keeps the user of its token and, while it is connected, the rooms of its orders. -/
structure Socket.Keeps (text : Ulid → String) (k k' : Socket) : Prop where
  user : ∀ sub, k.data.user = some sub → k'.data.user = some sub
  connected : k'.connected = true → k.connected = true
  rooms : k'.connected = true → ∀ o, Kind.orderStatus.room (text o) ∈ k.rooms →
    Kind.orderStatus.room (text o) ∈ k'.rooms

/-- What is there to hear, and who may hear it, only grows. -/
structure GatewayDb.Grows (text : Ulid → String) (s s' : GatewayDb Json) : Prop where
  accounts : ∀ sub u, s.userIdOf sub = some u → s'.userIdOf sub = some u
  orders : s.orders.Carries SameSides s'.orders
  deliveries : s.deliveries.Carries SameDriver s'.deliveries
  members : ∀ c u, u ∈ s.members c → u ∈ s'.members c
  sockets : s.sockets.Carries (Socket.Keeps text) s'.sockets

/-- The account that a socket has looked up is the one of its token. -/
def GatewayDb.OwnAccounts (s : GatewayDb Json) : Prop :=
  ∀ socket k u, s.sockets.find? socket = some k → k.data.internalUserId = some u → s.belongs socket u

/-- The user of the socket of call `me`, once it is there. -/
def GatewayDb.userOf (s : GatewayDb Json) (me : SocketId) : Option (Option String) :=
  (s.sockets.find? me).map fun k => k.data.user

/-- What call `me` may rely on: nobody else verifies its token. -/
structure GatewayRely (text : Ulid → String) (me : SocketId) (s s' : GatewayDb Json) : Prop where
  grows : s.Grows text s'
  own : s'.userOf me = s.userOf me
  accounts : s'.OwnAccounts

section

variable {text : Ulid → String} {s s' s'' : GatewayDb Json} {me socket : SocketId} {u : UserId}
  {kind : Kind}
  {id : Ulid}

theorem SameSides.trans (a b c : Order) (hab : SameSides a b) (hbc : SameSides b c) : SameSides a c :=
  ⟨hbc.1.trans hab.1, hbc.2.trans hab.2⟩

theorem SameDriver.trans (a b c : Delivery) (hab : SameDriver a b) (hbc : SameDriver b c) :
    SameDriver a c := by
  refine ⟨hbc.1.trans hab.1, ?_⟩
  rcases hab.2 with hnone | hsame
  · exact .inl hnone
  · exact hsame ▸ hbc.2.imp_right fun h => h

theorem Socket.Keeps.refl (k : Socket) : Socket.Keeps text k k := ⟨fun _ h => h, fun h => h, fun _ _ h => h⟩

theorem Socket.Keeps.trans (a b c : Socket) (hab : Socket.Keeps text a b) (hbc : Socket.Keeps text b c) :
    Socket.Keeps text a c where
  user sub h := hbc.user sub (hab.user sub h)
  connected h := hab.connected (hbc.connected h)
  rooms h o ho := hbc.rooms h o (hab.rooms (hbc.connected h) o ho)

theorem GatewayDb.Grows.refl (s : GatewayDb Json) : s.Grows text s where
  accounts _ _ h := h
  orders := .refl (fun _ => ⟨rfl, rfl⟩) _
  deliveries := .refl (fun _ => ⟨rfl, .inr rfl⟩) _
  members _ _ h := h
  sockets := .refl Socket.Keeps.refl _

theorem GatewayDb.Grows.trans (h : s.Grows text s') (h' : s'.Grows text s'') : s.Grows text s'' where
  accounts sub u hu := h'.accounts sub u (h.accounts sub u hu)
  orders := Table.Carries.trans SameSides.trans h.orders h'.orders
  deliveries := Table.Carries.trans SameDriver.trans h.deliveries h'.deliveries
  members c u hu := h'.members c u (h.members c u hu)
  sockets := Table.Carries.trans Socket.Keeps.trans h.sockets h'.sockets

theorem GatewayDb.belongs.grow (hown : s.belongs socket u) (hgrows : s.Grows text s') :
    s'.belongs socket u := by
  obtain ⟨k, sub, hk, hsub, hu⟩ := hown
  obtain ⟨k', hk', hkeeps⟩ := hgrows.sockets.find? hk
  exact ⟨k', sub, hk', hkeeps.user sub hsub, hgrows.accounts sub u hu⟩

theorem GatewayDb.entitled_grow (hentitled : s.entitled u kind id) (hgrows : s.Grows text s') :
    s'.entitled u kind id := by
  cases kind with
  | userDelivery => exact hentitled
  | orderStatus =>
    obtain ⟨o, ho, hbuyer⟩ := hentitled
    obtain ⟨o', ho', hsides⟩ := hgrows.orders.find? ho
    exact ⟨o', ho', hsides.1.trans hbuyer⟩
  | driverLoc =>
    obtain ⟨d, o, hd, ho, hbuyer⟩ := hentitled
    obtain ⟨d', hd', hdriver⟩ := hgrows.deliveries.find? hd
    obtain ⟨o', ho', hsides⟩ := hgrows.orders.find? ho
    exact ⟨d', o', hd', hdriver.1 ▸ ho', hsides.1.trans hbuyer⟩
  | conversation => exact hgrows.members id u hentitled

theorem GatewayDb.mayHear.grow (hmay : s.mayHear socket kind id) (hgrows : s.Grows text s') :
    s'.mayHear socket kind id := by
  obtain ⟨u, hown, hentitled⟩ := hmay
  exact ⟨u, hown.grow hgrows, entitled_grow hentitled hgrows⟩

/-- Nobody loses a part in an order. -/
theorem GatewayDb.Grows.partiesStay (hgrows : s.Grows text s') : PartiesStay s.toChatDb s'.toChatDb :=
  fun _ _ hparty => Db.party_of_keeps (Db.keepsParties_iff.mpr ⟨hgrows.orders, hgrows.deliveries⟩) hparty

/-! ## The steps -/

/-- What one step of call `me` can do. -/
inductive GatewayStep (text : Ulid → String) (me : SocketId) :
    GatewaySite → GatewayDb Json → GatewayDb Json → Prop where
  /-- a read, a remote call, or a statement that failed -/
  | noop (site : GatewaySite) (s : GatewayDb Json) : GatewayStep text me site s s
  | accept {s : GatewayDb Json} {sockets : Table Socket}
      (hnew : s.sockets.insert? (newSocket me) = some sockets) :
      GatewayStep text me .accept s { s with sockets }
  | setUser {s : GatewayDb Json} (user : String) (hnone : s.userOf me = some none) :
      GatewayStep text me .setUser s { s with
        sockets := s.sockets.update me fun k => { k with data := { k.data with user := some user } } }
  | setInternalUserId {s : GatewayDb Json} (socket : SocketId) (u : UserId) (hown : s.belongs socket u) :
      GatewayStep text me (.setInternalUserId socket) s { s with
        sockets := s.sockets.update socket fun k =>
          { k with data := { k.data with internalUserId := some u } } }
  | join {s : GatewayDb Json} (socket : SocketId) (kind : Kind) (id : Ulid)
      (hmay : s.mayHear socket kind id) :
      GatewayStep text me (.join socket (kind.room (text id))) s
        { s with sockets := s.sockets.update socket (Tracking.Socket.join (kind.room (text id))) }
  | leave {s : GatewayDb Json} (socket : SocketId) (room : String)
      (hroom : ∀ o, room ≠ Kind.orderStatus.room (text o)) :
      GatewayStep text me (.leave socket room) s
        { s with sockets := s.sockets.update socket (Tracking.Socket.leave room) }
  | reject {s : GatewayDb Json} (message : String) :
      GatewayStep text me .reject s { s with
        received := (me, .error message) :: s.received
        sockets := s.sockets.update me Tracking.Socket.disconnect }
  | publishLocation {s : GatewayDb Json} {row : Delivery} (driver : UserId) (d : DeliveryId)
      (publication : Publication) (hrow : s.deliveries.find? d = some row)
      (hdriver : row.driverId = some driver) (hchannel : publication.channel = driverLocChannel (text d)) :
      GatewayStep text me (.publishLocation driver d) s
        { s with located := (driver, publication) :: s.located }
  | chat {site : ChatSite} {s : GatewayDb Json} {a : ChatDb} (hstep : ChatStep site s.toChatDb a) :
      GatewayStep text me (.chat site) s { s with toChatDb := a }

/-- The row is for the same user in the same conversation. -/
def SameMember (p p' : ConversationParticipant) : Prop :=
  p'.conversationId = p.conversationId ∧ p'.userId = p.userId

theorem SameMember.trans (a b c : ConversationParticipant) (hab : SameMember a b) (hbc : SameMember b c) :
    SameMember a c :=
  ⟨hbc.1.trans hab.1, hbc.2.trans hab.2⟩

theorem ChatStep.participants {site : ChatSite} {a b : ChatDb} (hstep : ChatStep site a b) :
    a.participants.Carries SameMember b.participants := by
  have hrefl : ∀ p, SameMember p p := fun _ => ⟨rfl, rfl⟩
  cases hstep with
  | noop refused => exact .refl hrefl _
  | creates origin new hcreate hne hchecked =>
    obtain ⟨t, hfirst, hsecond⟩ := (createConversation_ok hcreate).participants
    exact Table.Carries.trans SameMember.trans (Table.carries_insert hrefl hfirst)
      (Table.carries_insert hrefl hsecond)
  | sends m hnew hfound =>
    refine Table.carries_updateMany hrefl ?_ ?_
    · exact fun _ _ => ⟨rfl, rfl⟩
    · exact fun _ => rfl
  | reads id now hfound =>
    refine Table.carries_update hrefl ?_ ?_
    · exact fun _ => ⟨rfl, rfl⟩
    · exact fun _ => rfl

theorem ChatDb.mem_members {db : ChatDb} {c : ConversationId} :
    u ∈ db.members c ↔ ∃ p ∈ db.participants.rows, p.conversationId = c ∧ p.userId = u := by
  simp [ChatDb.members, and_assoc]

/-- A conversation keeps its participants. -/
theorem ChatStep.members {site : ChatSite} {a b : ChatDb} (hstep : ChatStep site a b) {c : ConversationId}
    (hu : u ∈ a.members c) : u ∈ b.members c := by
  obtain ⟨p, hp, hof, huser⟩ := ChatDb.mem_members.mp hu
  obtain ⟨p', hp', hsame⟩ := hstep.participants p hp
  exact ChatDb.mem_members.mpr ⟨p', Table.mem_of_find? hp', hsame.1.trans hof, hsame.2.trans huser⟩

/-- A change of one socket. -/
theorem GatewayDb.Grows.of_update {f : Socket → Socket} (hf : ∀ k, (f k).id = k.id)
    (hsockets : s'.sockets = s.sockets.updateMany (fun k => Keyed.key k = socket) f hf)
    (hdb : s'.toChatDb = s.toChatDb)
    (hkeeps : ∀ k, s.sockets.find? socket = some k → Socket.Keeps text k (f k)) : s.Grows text s' where
  accounts sub u hu := by rw [hdb]; exact hu
  orders := by
    rw [hdb]
    exact .refl (fun _ => ⟨rfl, rfl⟩) _
  deliveries := by
    rw [hdb]
    exact .refl (fun _ => ⟨rfl, .inr rfl⟩) _
  members c u hu := by rw [hdb]; exact hu
  sockets := by
    rw [hsockets]
    refine Table.carries_updateMany_of_mem Socket.Keeps.refl (fun k hk hkey => hkeeps k ?_) hf
    rw [← of_decide_eq_true hkey]
    exact Table.find?_of_mem hk

theorem keeps_data (data : SocketData → SocketData) (k : Socket)
    (hdata : ∀ sub, k.data.user = some sub → (data k.data).user = some sub) :
    Socket.Keeps text k { k with data := data k.data } := ⟨hdata, fun h => h, fun _ _ h => h⟩

theorem keeps_join {room : String} (k : Socket) : Socket.Keeps text k (Tracking.Socket.join room k) where
  user _ h := h
  connected h := h
  rooms _ o ho := by
    by_cases hroom : Kind.orderStatus.room (text o) = room
    · exact List.mem_cons.mpr (.inl hroom)
    · exact List.mem_cons_of_mem _ (List.mem_filter.mpr ⟨ho, decide_eq_true hroom⟩)

theorem keeps_leave {room : String} (k : Socket) (hroom : ∀ o, room ≠ Kind.orderStatus.room (text o)) :
    Socket.Keeps text k (Tracking.Socket.leave room k) where
  user _ h := h
  connected h := h
  rooms _ o ho := List.mem_filter.mpr ⟨ho, decide_eq_true (Ne.symm (hroom o))⟩

theorem keeps_disconnect (k : Socket) : Socket.Keeps text k (Tracking.Socket.disconnect k) where
  user _ h := h
  connected h := nomatch h
  rooms h := nomatch h

/-- **Every step only adds to what there is to hear.** -/
theorem GatewayStep.grows {site : GatewaySite} (hstep : GatewayStep text me site s s') :
    s.Grows text s' := by
  have hrefl : s.Grows text s := .refl s
  cases hstep with
  | noop => exact hrefl
  | accept hnew => exact { hrefl with sockets := Table.carries_insert Socket.Keeps.refl hnew }
  | setUser user hnone =>
    refine .of_update ?_ rfl rfl ?_
    · exact fun _ => rfl
    · refine fun k hk => keeps_data (fun d => { d with user := some user }) k fun sub hsub => ?_
      -- the token has not been verified before
      rw [GatewayDb.userOf, hk, Option.map_some, Option.some.injEq] at hnone
      rw [hnone] at hsub
      cases hsub
  | setInternalUserId socket u hown =>
    refine .of_update ?_ rfl rfl ?_
    · exact fun _ => rfl
    · exact fun k _ => keeps_data (fun d => { d with internalUserId := some u }) k fun _ h => h
  | join socket kind id hmay =>
    refine .of_update ?_ rfl rfl ?_
    · exact fun _ => rfl
    · exact fun k _ => keeps_join k
  | leave socket room hroom =>
    refine .of_update ?_ rfl rfl ?_
    · exact fun _ => rfl
    · exact fun k _ => keeps_leave k hroom
  | reject message =>
    refine .of_update ?_ rfl rfl ?_
    · exact fun _ => rfl
    · exact fun k _ => keeps_disconnect k
  | publishLocation driver d publication hrow hdriver hchannel =>
    exact { hrefl with }
  | @chat site s a hchat =>
    have hdb : a.toDb = s.toDb := hchat.toDb
    refine { hrefl with
      accounts := fun sub u hu => ?_, orders := ?_, deliveries := ?_,
      members := fun c u hu => hchat.members hu }
    · show a.toDb.userIdOf sub = some u
      rw [hdb]
      exact hu
    · show s.orders.Carries SameSides a.toDb.orders
      rw [hdb]
      exact .refl (fun _ => ⟨rfl, rfl⟩) _
    · show s.deliveries.Carries SameDriver a.toDb.deliveries
      rw [hdb]
      exact .refl (fun _ => ⟨rfl, .inr rfl⟩) _

/-! ## The contract -/

def gatewayContract (text : Ulid → String) (me : SocketId) : Contract (gatewayMachine Json) where
  rely := GatewayRely text me
  guar _ site s s' := GatewayStep text me site s s'

theorem GatewayRely.trans (h : GatewayRely text me s s') (h' : GatewayRely text me s' s'') :
    GatewayRely text me s s'' where
  grows := h.grows.trans h'.grows
  own := h'.own.trans h.own
  accounts := h'.accounts

variable {h : List (StepRecord (gatewayMachine Json))} {α β : Type}

/-- A socket changes. -/
theorem updateSocket_ok {f : Socket → Socket} {hf : ∀ k, (f k).id = k.id} {x : Unit}
    (hrun : updateSocket socket f hf s = .ok (x, s')) :
    s' = { s with sockets := s.sockets.update socket f hf } := by
  unfold updateSocket at hrun
  exact Stmt.modify_ok.mp hrun

/-- Nothing that a part of the system only reads shows from outside. -/
theorem within_quiet {M : Machine} {P : Machine.Part M (gatewayMachine Json)} {p : Prog M α}
    (hput : ∀ s, P.put (P.get s) s = s)
    (hp : Free (M := M) ⟨fun _ _ => True, fun _ _ a b => b = a⟩ p) :
    Free (gatewayContract text me) (p.within P) := by
  refine fun h s => sat_within (V := fun _ _ => True) (fun _ _ _ => trivial) ?_
    (fun _ _ _ _ _ _ _ => trivial)
    (fun _ _ _ _ _ _ => trivial) (hp [] (P.get s)) trivial
  rintro _ _ site s _ - rfl
  show GatewayStep text me (P.site site) s (P.put (P.get s) s)
  rw [hput]
  exact .noop _ s

/-! ## Connecting -/

theorem reject_free {message : String} :
    Free (gatewayContract text me) (reject me message : GatewayHandler Json Unit) := by
  refine free_await (fun _ s => .noop _ s) fun _ _ s _ s' hrun => ?_
  simp only [Stmt.bind_ok, Stmt.modify_ok] at hrun
  obtain ⟨_, _, rfl, hrun⟩ := hrun
  obtain rfl := updateSocket_ok hrun
  exact .reject message

theorem accept_ok {x : Unit} (hrun : accept me s = .ok (x, s')) :
    ∃ sockets, s.sockets.insert? (newSocket me) = some sockets ∧ s' = { s with sockets } := by
  simp only [accept, Stmt.bind_ok, Stmt.get_ok, Stmt.orThrow_ok, Stmt.set_ok] at hrun
  obtain ⟨_, _, ⟨rfl, rfl⟩, sockets, _, ⟨hnew, rfl⟩, rfl⟩ := hrun
  exact ⟨sockets, hnew, rfl⟩

/-- What a change of the call's own socket makes of its user. -/
theorem userOf_update {f : Socket → Socket} {hf : ∀ k, (f k).id = k.id} {o user : Option String}
    (hown : s.userOf me = some o) (huser : ∀ k, (f k).data.user = user) :
    ({ s with sockets := s.sockets.update me f hf } : GatewayDb Json).userOf me = some user := by
  obtain ⟨k, hk, -⟩ := Option.map_eq_some_iff.mp hown
  have hk' : (s.sockets.update me f hf).find? me = some (f k) := Table.find?_update_of_eq hk hf
  rw [GatewayDb.userOf, hk', Option.map_some, huser k]

theorem belongs_of_userOf {user : String} (huser : s.userOf me = some (some user))
    (hu : s.userIdOf user = some u) : s.belongs me u := by
  obtain ⟨k, hk, hsub⟩ := Option.map_eq_some_iff.mp huser
  exact ⟨k, user, hk, hsub, hu⟩

theorem verifyToken_sat {verify : String → Option String} {token : String} {o : Option String}
    (hown : s.userOf me = some o) : Sat (gatewayContract text me) (fun _ _ s => s.userOf me = some o)
      (verifyToken verify token : GatewayHandler Json String) h s := by
  refine sat_ask_bind fun s' hR i => ⟨.noop _ _, ?_⟩
  have hown' : s'.userOf me = some o := hR.own.trans hown
  generalize (if i.ok = true then verify token else none) = user
  cases user with
  | none => exact hown'
  | some user => exact hown'

theorem joinOwnRoom_sat {verify : String → Option String} {token : String}
    (hown : s.userOf me = some none) :
    Sat (gatewayContract text me) anyPost
      (joinOwnRoom text verify me token : GatewayHandler Json Unit) h s := by
  refine sat_bind ((verifyToken_sat hown).post fun h₁ r s₁ hown₁ => ?_)
  cases r with
  | error e => trivial
  | ok user =>
    refine sat_await_bind fun s₂ hR₂ _ => ⟨fun _ _ => ⟨.noop _ _, trivial⟩, fun _ s₃ hrun => ?_⟩
    obtain rfl := updateSocket_ok hrun
    have hown₂ : s₂.userOf me = some none := hR₂.own.trans hown₁
    refine ⟨.setUser user hown₂, ?_⟩
    -- from here on the socket is that of the verified user
    refine sat_read_bind fun s₄ hR₄ => ⟨.noop _ _, ?_⟩
    have huser₄ : s₄.userOf me = some (some user) := by
      refine hR₄.own.trans (userOf_update hown₂ ?_)
      exact fun _ => rfl
    cases hinternal : s₄.userIdOf user with
    | none => trivial
    | some id =>
      have hown₄ : s₄.belongs me id := belongs_of_userOf huser₄ hinternal
      refine sat_await_bind fun s₅ hR₅ _ => ⟨fun _ _ => ⟨.noop _ _, trivial⟩, fun _ s₆ hrun => ?_⟩
      obtain rfl := updateSocket_ok hrun
      have hown₅ : s₅.belongs me id := hown₄.grow hR₅.grows
      have hstep₆ : GatewayStep text me _ s₅ _ := .setInternalUserId me id hown₅
      refine ⟨hstep₆, sat_await fun s₇ hR₇ _ => ⟨fun _ _ => ⟨.noop _ _, trivial⟩, fun _ s₈ hrun => ?_⟩⟩
      obtain rfl := updateSocket_ok hrun
      exact ⟨.join me .userDelivery id ⟨id, (hown₅.grow hstep₆.grows).grow hR₇.grows, rfl⟩, trivial⟩

theorem handleConnection_sat {verify : String → Option String} {handshake : Handshake} :
    Sat (gatewayContract text me) anyPost
      (handleConnection text verify me handshake : GatewayHandler Json Unit) h s := by
  refine sat_await_bind fun s₁ hR₁ _ => ⟨fun _ _ => ⟨.noop _ _, trivial⟩, fun _ s₂ hrun => ?_⟩
  obtain ⟨sockets, hnew, rfl⟩ := accept_ok hrun
  refine ⟨.accept hnew, ?_⟩
  have hown : ({ s₁ with sockets } : GatewayDb Json).userOf me = some none := by
    unfold GatewayDb.userOf
    have hkey : me = Keyed.key (newSocket me) := rfl
    rw [Table.find?_insert hnew, if_pos hkey]
    rfl
  cases truthy (extractToken handshake) with
  | none => exact reject_free _ _
  | some token =>
    refine sat_tryCatch ((joinOwnRoom_sat hown).post fun h₃ r s₃ _ => ?_)
    cases r with
    | ok _ => trivial
    | error e => exact reject_free _ _

/-! ## Rooms -/

/-- The program reads the data of a socket, which is there. -/
theorem socketData_bind {k : SocketData → GatewayHandler Json α} {Q : Post (gatewayMachine Json) α}
    (herr : ∀ h e s, Q h (.error e) s)
    (hk : ∀ s' row, GatewayRely text me s s' → s'.sockets.find? socket = some row →
      Sat (gatewayContract text me) Q (k row.data) (⟨.query, s', s'⟩ :: h) s') :
    Sat (gatewayContract text me) Q (socketData socket >>= k) h s := by
  refine sat_bind (sat_read_bind fun s' hR => ⟨.noop _ _, ?_⟩)
  cases hrow : s'.sockets.find? socket with
  | none => exact herr _ _ _
  | some row => exact hk s' row hR hrow

/-- The socket has this user. -/
def GatewayDb.hasUser (s : GatewayDb Json) (socket : SocketId) (user : String) : Prop :=
  ∃ k, s.sockets.find? socket = some k ∧ k.data.user = some user

theorem GatewayDb.hasUser.grow {user : String} (huser : s.hasUser socket user) (hgrows : s.Grows text s') :
    s'.hasUser socket user := by
  obtain ⟨k, hk, hsub⟩ := huser
  obtain ⟨k', hk', hkeeps⟩ := hgrows.sockets.find? hk
  exact ⟨k', hk', hkeeps.user user hsub⟩

theorem GatewayDb.hasUser.belongs {user : String} (huser : s.hasUser socket user)
    (hu : s.userIdOf user = some u) : s.belongs socket u := by
  obtain ⟨k, hk, hsub⟩ := huser
  exact ⟨k, user, hk, hsub, hu⟩

theorem ensureInternalUserId_sat {user : String} (huser : s.hasUser socket user) :
    Sat (gatewayContract text me) anyPost
      (ensureInternalUserId socket user : GatewayHandler Json Unit) h s := by
  refine socketData_bind (fun _ _ _ => trivial) fun s₁ row hR₁ _ => ?_
  cases row.data.internalUserId with
  | some _ => trivial
  | none =>
    refine sat_read_bind fun s₂ hR₂ => ⟨.noop _ _, sat_orThrow_bind (fun _ => trivial) fun id hid => ?_⟩
    have hown₂ : s₂.belongs socket id := ((huser.grow hR₁.grows).grow hR₂.grows).belongs hid
    refine sat_await fun s₃ hR₃ _ => ⟨fun _ _ => ⟨.noop _ _, trivial⟩, fun _ s₄ hrun => ?_⟩
    obtain rfl := updateSocket_ok hrun
    exact ⟨.setInternalUserId socket id (hown₂.grow hR₃.grows), trivial⟩

/-- What a subscription was resolved to is there: the order of the buyer, with its delivery. -/
structure Tracking.ResolvedOrder.Found (resolved : ResolvedOrder) (s : GatewayDb Json) : Prop where
  order : s.entitled resolved.buyerId .orderStatus resolved.orderId
  delivery : ∀ d, resolved.deliveryId = some d → s.entitled resolved.buyerId .driverLoc d

theorem resolveOrder_sat {orderIdIn deliveryIdIn : Option IdText} :
    Sat (gatewayContract text me) (fun _ r s => ∀ resolved, r = .ok resolved → resolved.Found s)
      (resolveOrder orderIdIn deliveryIdIn : GatewayHandler Json ResolvedOrder) h s := by
  have hthrown : ∀ (e : WsError) (s : GatewayDb Json), ∀ resolved : ResolvedOrder,
      (.error e : Except WsError ResolvedOrder) = .ok resolved → resolved.Found s := by
    intro e s resolved heq
    cases heq
  unfold resolveOrder
  cases deliveryIdIn.filter IdText.truthy with
  | some id =>
    refine sat_read_bind fun s₁ _ => ⟨.noop _ _, ?_⟩
    cases hfound : (id.ulid?.bind s₁.deliveries.find?).bind fun d =>
        (s₁.orders.find? d.orderId).map fun o => (⟨⟨d.orderId, some d.id⟩, o.buyerId⟩ : ResolvedOrder) with
    | none => exact hthrown _ _
    | some resolved =>
      rintro resolved' ⟨⟩
      obtain ⟨d, hd, hmap⟩ := Option.bind_eq_some_iff.mp hfound
      obtain ⟨o, ho, rfl⟩ := Option.map_eq_some_iff.mp hmap
      obtain ⟨id', -, hd⟩ := Option.bind_eq_some_iff.mp hd
      have hkey : d.id = id' := Table.key_of_find? hd
      refine ⟨⟨o, ho, rfl⟩, fun d' hd' => ?_⟩
      obtain rfl : d.id = d' := Option.some.inj hd'
      exact ⟨d, o, hkey ▸ hd, ho, rfl⟩
  | none =>
    refine sat_read_bind fun s₁ _ => ⟨.noop _ _, sat_orThrow_bind (fun _ => hthrown _ _) fun o ho => ?_⟩
    refine sat_read_bind fun s₂ hR₂ => ⟨.noop _ _, ?_⟩
    intro resolved heq
    cases heq
    obtain ⟨id, -, ho⟩ := Option.bind_eq_some_iff.mp ho
    have hkey : o.id = id := Table.key_of_find? ho
    obtain ⟨o', ho', hsides⟩ := hR₂.grows.orders.find? (hkey ▸ ho)
    refine ⟨⟨o', ho', hsides.1⟩, fun d' hd' => ?_⟩
    obtain ⟨d, hd, rfl⟩ := Option.map_eq_some_iff.mp hd'
    have hof : d.orderId = o.id := by simpa using List.find?_some hd
    exact ⟨d, o', Table.find?_of_mem (List.mem_of_find?_eq_some hd), hof ▸ ho', hsides.1⟩

/-- While it is connected, the socket is in the room of the order. -/
def GatewayDb.listens (s : GatewayDb Json) (text : Ulid → String) (socket : SocketId) (o : OrderId) :
    Prop :=
  ∃ k, s.sockets.find? socket = some k ∧
    (k.connected = true → Kind.orderStatus.room (text o) ∈ k.rooms)

theorem GatewayDb.listens.grow {o : OrderId} (hlistens : s.listens text socket o)
    (hgrows : s.Grows text s') :
    s'.listens text socket o := by
  obtain ⟨k, hk, hroom⟩ := hlistens
  obtain ⟨k', hk', hkeeps⟩ := hgrows.sockets.find? hk
  exact ⟨k', hk', fun hc => hkeeps.rooms hc o (hroom (hkeeps.connected hc))⟩

/-- A subscription that was acknowledged holds. -/
def Acknowledged (text : Ulid → String) (socket : SocketId) : Post (gatewayMachine Json) Subscribed :=
  fun _ r s => ∀ subscribed, r = .ok subscribed → s.listens text socket subscribed.orderId

theorem listens_join {o : OrderId} {k : Socket} {room : String} (hk : s.sockets.find? socket = some k)
    (hroom : room = Kind.orderStatus.room (text o))
    (hsockets : s'.sockets = s.sockets.update socket (Tracking.Socket.join room)) :
    s'.listens text socket o := by
  refine ⟨Tracking.Socket.join room k, ?_, fun _ => ?_⟩
  · rw [hsockets]
    exact Table.find?_update_of_eq hk _
  · rw [← hroom]
    exact List.mem_cons_self ..

/-- A socket joins a room that it may be in. -/
theorem join_sat (kind : Kind) {id : Ulid} {Q : Post (gatewayMachine Json) Unit}
    (hmay : s.mayHear socket kind id)
    (herr : ∀ h e s, Q h (.error e) s)
    (hjoined : ∀ h s', s.Grows text s' → (kind = .orderStatus → s'.listens text socket id) →
      Q h (.ok ()) s') :
    Sat (gatewayContract text me) Q (join socket (kind.room (text id)) : GatewayHandler Json Unit) h s := by
  refine sat_await fun s₁ hR _ => ⟨fun e _ => ⟨.noop _ _, herr _ _ _⟩, fun _ s₂ hrun => ?_⟩
  obtain rfl := updateSocket_ok hrun
  have hmay₁ : s₁.mayHear socket kind id := hmay.grow hR.grows
  have hstep : GatewayStep text me (.join socket (kind.room (text id))) s₁ _ := .join socket kind id hmay₁
  refine ⟨hstep, hjoined _ _ (hR.grows.trans hstep.grows) ?_⟩
  rintro rfl
  obtain ⟨-, ⟨k, -, hk, -, -⟩, -⟩ := hmay₁
  exact listens_join hk rfl rfl

theorem Tracking.ResolvedOrder.Found.grow {resolved : ResolvedOrder} (hfound : resolved.Found s)
    (hgrows : s.Grows text s') : resolved.Found s' where
  order := GatewayDb.entitled_grow hfound.order hgrows
  delivery d hd := GatewayDb.entitled_grow (hfound.delivery d hd) hgrows

/-- **An acknowledged subscription is one of the buyer, and holds.** -/
theorem onSubscribe_sat {body : SubscribeBody} :
    Sat (gatewayContract text me) (Acknowledged text socket)
      (onSubscribe text socket body : GatewayHandler Json Subscribed) h s := by
  have herr : ∀ h e (s : GatewayDb Json), Acknowledged text socket h (.error e) s := by
    intro h e s subscribed heq
    cases heq
  refine socketData_bind herr fun s₁ row _ hrow => ?_
  refine sat_orThrow_bind (fun _ => herr _ _ _) fun user huser => ?_
  refine sat_throwIf_bind (fun _ => herr _ _ _) fun _ => ?_
  refine sat_bind ((ensureInternalUserId_sat ⟨row, hrow, huser⟩).post fun h₂ r s₂ _ => ?_)
  cases r with
  | error e => exact herr _ _ _
  | ok _ =>
    refine sat_bind (resolveOrder_sat.post fun h₃ r s₃ hfound => ?_)
    cases r with
    | error e => exact herr _ _ _
    | ok resolved =>
      refine socketData_bind herr fun s₄ row₄ hR₄ hrow₄ => ?_
      refine sat_throwIf_bind (fun _ => herr _ _ _) fun hbuyer => ?_
      -- the account that the socket has looked up is the buyer's
      have hown : s₄.belongs socket resolved.buyerId :=
        hR₄.accounts socket row₄ _ hrow₄ (not_not.mp hbuyer)
      have hfound₄ : resolved.Found s₄ := (hfound resolved rfl).grow hR₄.grows
      refine sat_bind (join_sat .orderStatus ⟨_, hown, hfound₄.order⟩ (fun _ e _ => herr _ e _) ?_)
      intro h₅ s₅ hgrows₅ hlistens
      cases hdelivery : resolved.deliveryId with
      | none =>
        rintro subscribed ⟨⟩
        exact hlistens rfl
      | some d =>
        have hmay : s₅.mayHear socket .driverLoc d :=
          ⟨_, hown.grow hgrows₅, (hfound₄.grow hgrows₅).delivery d hdelivery⟩
        refine sat_bind (join_sat .driverLoc hmay (fun _ e _ => herr _ e _) ?_)
        rintro h₆ s₆ hgrows₆ - subscribed ⟨⟩
        exact (hlistens rfl).grow hgrows₆

theorem leave_free {room : String} (hroom : ∀ o, room ≠ Kind.orderStatus.room (text o)) :
    Free (gatewayContract text me) (leave socket room : GatewayHandler Json Unit) := by
  refine free_await (fun _ s => .noop _ s) fun _ _ s _ s' hrun => ?_
  obtain rfl := updateSocket_ok hrun
  exact .leave socket room hroom

/-- Rooms of other kinds are not those of orders, whatever the text of the id. -/
theorem room_ne (kind : Kind) (hkind : kind ≠ .orderStatus) (t : String) (o : OrderId) :
    kind.room t ≠ Kind.orderStatus.room (text o) :=
  fun heq => hkind (Kind.room_injective heq).1

theorem onUnsubscribe_free {deliveryId : Option IdText} :
    Free (gatewayContract text me) (onUnsubscribe text socket deliveryId : GatewayHandler Json Unit) := by
  unfold onUnsubscribe
  cases deliveryId.filter IdText.truthy with
  | none => exact free_pure
  | some id => exact leave_free (room_ne .driverLoc (by decide) _)

theorem onConvUnsubscribe_free {c : Option IdText} :
    Free (gatewayContract text me) (onConvUnsubscribe text socket c : GatewayHandler Json Unit) := by
  unfold onConvUnsubscribe
  cases c.filter IdText.truthy with
  | none => exact free_pure
  | some id => exact leave_free (room_ne .conversation (by decide) _)

/-- The contract of a chat program that only looks: accounts and participants stay. -/
def lookContract : Contract chatMachine where
  rely a b := (∀ sub u, a.userIdOf sub = some u → b.userIdOf sub = some u) ∧
    ∀ c u, u ∈ a.members c → u ∈ b.members c
  guar _ _ a b := b = a

/-- Only a participant passes, and only with the id of the conversation. -/
theorem assertParticipant_sat {sub : String} {t : IdText} {h : List (StepRecord chatMachine)} {s : ChatDb} :
    Sat lookContract
      (fun _ r s => ∀ c, r = .ok c → t = .ulid c ∧ ∃ u, s.userIdOf sub = some u ∧ u ∈ s.members c)
      (Tracking.assertParticipant sub t) h s := by
  cases t with
  | other text =>
    refine sat_read_bind fun s₁ _ => ⟨rfl, sat_orThrow_bind (fun _ c heq => nomatch heq) fun u _ => ?_⟩
    exact fun c heq => nomatch heq
  | ulid c =>
    refine sat_bind (sat_read_bind fun s₁ _ => ⟨rfl, ?_⟩)
    refine sat_orThrow_bind (fun _ c heq => nomatch heq) fun u hu => ?_
    refine sat_read_bind fun s₂ hR₂ => ⟨rfl, ?_⟩
    cases hfound : (s₂.participantOf c u).bind fun p =>
        (s₂.conversations.find? p.conversationId).map fun row =>
          (⟨u, p.id, row.id, row.type⟩ : Conversations.Membership) with
    | none => exact fun c heq => nomatch heq
    | some membership =>
      rintro c' ⟨⟩
      obtain ⟨p, hp, hmap⟩ := Option.bind_eq_some_iff.mp hfound
      obtain ⟨row, hrow, rfl⟩ := Option.map_eq_some_iff.mp hmap
      have hmatch : p.conversationId = c ∧ p.userId = u := by simpa using List.find?_some hp
      have hid : row.id = c := (Table.key_of_find? hrow).trans hmatch.1
      refine ⟨by rw [hid], u, hR₂.1 sub u hu, ?_⟩
      exact ChatDb.mem_members.mpr ⟨p, List.mem_of_find?_eq_some hp, hmatch.1.trans hid.symm, hmatch.2⟩

theorem assertParticipant_within (sub : String) (id : IdText) :
    Sat (gatewayContract text me) (fun _ r s => ∀ c, r = .ok c →
        id = .ulid c ∧ ∃ u, s.userIdOf sub = some u ∧ u ∈ s.members c)
      ((Tracking.assertParticipant sub id).within chatPart : GatewayHandler Json ConversationId) h s := by
  refine sat_within (V := fun _ _ => True) ?_ ?_ (fun _ _ _ _ _ _ _ => trivial) ?_
    (assertParticipant_sat (h := [])) trivial
  · exact fun a b hR => ⟨hR.grows.accounts, hR.grows.members⟩
  · rintro _ _ site s _ - rfl
    exact .noop _ s
  · rintro _ _ r s - hr c hc
    cases r with
    | error e => cases hc
    | ok c' => exact hr c (by cases hc; rfl)

theorem onConvSubscribe_sat {c : Option IdText} :
    Sat (gatewayContract text me) anyPost
      (onConvSubscribe text socket c : GatewayHandler Json IdText) h s := by
  refine socketData_bind (fun _ _ _ => trivial) fun s₁ row _ hrow =>
    sat_orThrow_bind (fun _ => trivial) fun user huser => sat_orThrow_bind (fun _ => trivial) fun id _ => ?_
  -- the socket is still that of the user when the membership has been checked
  have hwithin : Sat (gatewayContract text me) _ _ (⟨.query, s₁, s₁⟩ :: h) s₁ :=
    assertParticipant_within user id
  have hchecked := hwithin.keep
    (I := fun _ (s : GatewayDb Json) => s.hasUser socket user) (fun _ _ _ hR huser => huser.grow hR.grows)
    (fun _ _ _ _ huser hstep => huser.grow hstep.grows) ⟨row, hrow, huser⟩
  refine sat_bind (hchecked.post fun h₂ r s₂ hr => ?_)
  cases r with
  | error e => trivial
  | ok c =>
    obtain ⟨rfl, u, hu, hmember⟩ := hr.1 c rfl
    have hmay : s₂.mayHear socket .conversation c := ⟨u, hr.2.belongs hu, hmember⟩
    exact sat_bind (join_sat .conversation hmay (fun _ _ _ => trivial) fun _ _ _ _ => trivial)

/-! ## Drivers on their way -/

theorem mem_of_activeDelivery {db : Db} {driver : UserId} {d : Delivery}
    (hd : activeDelivery db driver = some d) :
    db.deliveries.find? d.id = some d ∧ d.driverId = some driver := by
  have hmem := (Cursors.descending_perm _ _).mem_iff.mp (List.mem_of_head? hd)
  simp only [List.mem_filter, Bool.and_eq_true, decide_eq_true_eq] at hmem
  exact ⟨Table.find?_of_mem hmem.1, hmem.2.1⟩

/-- A position is published on the channel of a delivery that the driver has. -/
theorem recordLocation_sat {stringify : Payload → String} {sub : String} {dto : DriverLocationDto} :
    Sat (gatewayContract text me) anyPost
      (recordLocation text stringify sub dto : GatewayHandler Json (Option DeliveryId)) h s := by
  have hdriver : Free (gatewayContract text me)
      ((Deliveries.assertDriver sub).within gatewayOrders : GatewayHandler Json Deliveries.Driver) :=
    within_quiet (fun _ => rfl) (assertDriver_of fun _ _ => rfl)
  refine sat_bind ((hdriver h s).post fun h₁ r s₁ _ => ?_)
  cases r with
  | error e => trivial
  | ok driver =>
    refine sat_read_bind fun s₂ _ => ⟨.noop _ _, sat_read_bind fun s₃ _ => ⟨.noop _ _, ?_⟩⟩
    cases hactive : activeDelivery s₃.toDb driver.userId with
    | none => trivial
    | some d =>
      obtain ⟨hd, hhas⟩ := mem_of_activeDelivery hactive
      refine sat_await_bind fun s₄ hR₄ i => ⟨fun _ _ => ⟨.noop _ _, trivial⟩, fun _ s₅ hrun => ?_⟩
      refine ⟨?_, trivial⟩
      split at hrun
      · obtain rfl := Stmt.modify_ok.mp hrun
        -- nobody takes a delivery from its driver
        obtain ⟨d', hd', -, hkept⟩ := hR₄.grows.deliveries.find? hd
        have hhas' : d'.driverId = some driver.userId := by
          rcases hkept with hnone | hsame
          · rw [hhas] at hnone
            cases hnone
          · exact hsame.trans hhas
        exact .publishLocation driver.userId d.id _ hd' hhas' rfl
      · rw [(Stmt.pure_ok.mp hrun).2]
        exact .noop _ s₄

/-! ## The calls -/

/-- What is known of a call that is over. -/
def gatewayPost (text : Ulid → String) : GatewayCall → Post (gatewayMachine Json) GatewayReply
  | .subscribe socket _ => fun _ r s =>
    ∀ subscribed, r = .ok (.subscribed subscribed) → s.listens text socket subscribed.orderId
  | _ => anyPost

/-- **Every call takes only such steps**, and acknowledged subscriptions hold. -/
theorem gatewayHandle_sat (env : Surroundings Json) (call : GatewayCall) :
    Sat (gatewayContract env.text me) (gatewayPost env.text call) (gatewayHandle env me call) h s := by
  cases call with
  | connect handshake => exact sat_bind_free handleConnection_sat fun _ => free_pure
  | subscribe socket body =>
    refine sat_bind (onSubscribe_sat.post fun _ r s hr => ?_)
    cases r with
    | error e => exact fun subscribed heq => nomatch heq
    | ok subscribed =>
      rintro subscribed' ⟨⟩
      exact hr subscribed rfl
  | unsubscribe socket deliveryId => exact sat_bind_free onUnsubscribe_free.sat fun _ => free_pure
  | convSubscribe socket c => exact sat_bind_free onConvSubscribe_sat fun _ => free_pure
  | convUnsubscribe socket c => exact sat_bind_free onConvUnsubscribe_free.sat fun _ => free_pure
  | recordLocation sub dto => exact sat_bind_free recordLocation_sat fun _ => free_pure
  | chat call =>
    refine sat_bind_free (sat_within (V := fun _ _ => True) ?_ ?_ (fun _ _ _ _ _ _ _ => trivial)
      (fun _ _ _ _ _ _ => trivial) (chatHandle_sat (h := []) me call) trivial) fun _ => free_pure
    · exact fun a b hR => hR.grows.partiesStay
    · exact fun _ _ site s a _ hstep => .chat hstep

end

end IncaCook
