import IncaCook.Model.Conversations
import IncaCook.Steps.Statements

/-!
# The steps of the chat service

`ChatStep` lists what a single step of the conversation and messaging services can do to
the shared state: create a conversation with its two participants, persist a message, or
reset a counter. `chatContract` packages it as a contract; meanwhile the other services
may do anything that leaves the parties of an order its parties.

Main results:

* `chatHandle_sat`: every call meets the contract;
* `Linked.pool`: participants and messages always belong to a conversation.
-/

namespace IncaCook

open Prog Orders Deliveries Webhooks Conversations Messaging

variable {s s' : ChatDb} {o : OrderId} {u v : UserId} {me : Nat} {sub : String}
  {dto : FindOrCreateConversationDto} {h : List (StepRecord chatMachine)}

/-! ## The parties of an order -/

/-- The buyer, the seller, or the driver of one of the deliveries. -/
def Db.party (db : Db) (o : OrderId) (u : UserId) : Bool :=
  (db.orders.find? o).any (fun row => row.buyerId = u || row.sellerId = u) ||
    db.deliveries.rows.any fun d => d.orderId = o && d.driverId = some u

theorem Db.party_iff {db : Db} : db.party o u = true ↔
    (∃ row, db.orders.find? o = some row ∧ (row.buyerId = u ∨ row.sellerId = u)) ∨
      ∃ d ∈ db.deliveries.rows, d.orderId = o ∧ d.driverId = some u := by
  simp [party, Option.any_eq_true]

/-- The order has the same buyer and the same seller. -/
def SameSides (row row' : Order) : Prop := row'.buyerId = row.buyerId ∧ row'.sellerId = row.sellerId

/-- The delivery is for the same order, and by the same driver if it had one. -/
def SameDriver (d d' : Delivery) : Prop :=
  d'.orderId = d.orderId ∧ (d.driverId = none ∨ d'.driverId = d.driverId)

theorem Db.keepsParties_iff {db db' : Db} : db.keepsParties db' = true ↔
    db.orders.Carries SameSides db'.orders ∧ db.deliveries.Carries SameDriver db'.deliveries := by
  simp [keepsParties, Table.Carries, SameSides, SameDriver, Option.any_eq_true, List.all_eq_true, Keyed.key]

/-- A party of an order stays one. -/
theorem Db.party_of_keeps {db db' : Db} (hkeeps : db.keepsParties db' = true)
    (hparty : db.party o u = true) : db'.party o u = true := by
  obtain ⟨horders, hdeliveries⟩ := keepsParties_iff.mp hkeeps
  rcases party_iff.mp hparty with ⟨row, hrow, hside⟩ | ⟨d, hd, hof, hdriver⟩
  · obtain ⟨row', hrow', hbuyer, hseller⟩ := horders row (Table.mem_of_find? hrow)
    have hid : Keyed.key row = o := Table.key_of_find? hrow
    rw [← hbuyer, ← hseller] at hside
    exact party_iff.mpr (.inl ⟨row', hid ▸ hrow', hside⟩)
  · obtain ⟨d', hd', hof', hkept⟩ := hdeliveries d hd
    have hsome : d'.driverId = some u := by
      rcases hkept with hnone | hsame
      · rw [hdriver] at hnone
        cases hnone
      · exact hsame.trans hdriver
    exact party_iff.mpr (.inr ⟨d', Table.mem_of_find? hd', hof'.trans hof, hsome⟩)

/-- Parties stay parties. -/
def PartiesStay (s s' : ChatDb) : Prop := ∀ o u, s.party o u = true → s'.party o u = true

theorem PartiesStay.refl (s : ChatDb) : PartiesStay s s := fun _ _ hparty => hparty

theorem PartiesStay.trans {s'' : ChatDb} (h₁ : PartiesStay s s') (h₂ : PartiesStay s' s'') :
    PartiesStay s s'' :=
  fun o u hparty => h₂ o u (h₁ o u hparty)

theorem PartiesStay.of_eq (heq : s'.toDb = s.toDb) : PartiesStay s s' := fun _ _ hparty => heq ▸ hparty

theorem applyElsewhere_partiesStay (db : Db) (s : ChatDb) : PartiesStay s (applyElsewhere db s) := by
  intro o u hparty
  unfold applyElsewhere
  split
  · rename_i hkeeps
    exact Db.party_of_keeps hkeeps hparty
  · exact hparty

/-! ## What the order services do meanwhile -/

section

variable {cfg : Config} {R : Db → Db → Prop} {call : Call} {h : List (StepRecord machine)} {site : Site}
  {db db' : Db}

theorem backfill_sides {read row row' : Order} {pi : PaymentIntentId} (hsame : SameSides row row') :
    SameSides row (backfill read pi row') := by
  unfold backfill
  split
  · exact hsame
  · exact hsame

theorem Step.sides (hstep : Step cfg R me call h site db db') :
    db.orders.Carries SameSides db'.orders := by
  have hrefl : ∀ row, SameSides row row := fun _ => ⟨rfl, rfl⟩
  have hupdate : ∀ id f (hf : ∀ row : Order, (f row).id = row.id), (∀ row, SameSides row (f row)) →
      db.orders.Carries SameSides (db.orders.update id f hf) :=
    fun _ _ hf hsame => Table.carries_update hrefl hsame hf
  cases hstep with
  | aside haside =>
    rw [haside.orders]
    exact .refl hrefl _
  | placeOrder args hid hstock hnew => exact Table.carries_insert hrefl hnew
  | paymentSucceeded ev order hsaw =>
    apply hupdate
    · exact fun _ => backfill_sides ⟨rfl, rfl⟩
    · exact fun _ => backfill_id order ev.id _
  | paymentFailed ev order fresh reason hsaw hfresh hpending =>
    apply hupdate
    · exact fun _ => backfill_sides ⟨rfl, rfl⟩
    · exact fun _ => backfill_id order ev.id _
  | _ => first
    | exact .refl hrefl _
    | (apply hupdate
       · exact fun _ => ⟨rfl, rfl⟩
       · exact fun _ => rfl)

theorem Step.drivers (hstep : Step cfg R me call h site db db') :
    db.deliveries.Carries SameDriver db'.deliveries := by
  have hrefl : ∀ d, SameDriver d d := fun _ => ⟨rfl, .inr rfl⟩
  have hupdate : ∀ id f (hf : ∀ d : Delivery, (f d).id = d.id), (∀ d, SameDriver d (f d)) →
      db.deliveries.Carries SameDriver (db.deliveries.update id f hf) :=
    fun _ _ hf hsame => Table.carries_update hrefl hsame hf
  cases hstep with
  | aside haside =>
    rw [haside.deliveries]
    exact .refl hrefl _
  | markReady o choice token hsaw hnew =>
    cases choice with
    | pickup => exact hnew ▸ .refl hrefl _
    | delivery => exact Table.carries_insert hrefl hnew
  | switchToPickup o hR hsaw hstatus =>
    dsimp only
    split
    · exact .refl hrefl _
    · exact hupdate _ _ _ fun _ => ⟨rfl, .inr rfl⟩
  | cancelNoDriver o reason hR hsaw hprompted =>
    dsimp only
    split
    · exact .refl hrefl _
    · exact hupdate _ _ _ fun _ => ⟨rfl, .inr rfl⟩
  | sellerCannotProvide o hR hsaw hstatus hpickup =>
    dsimp only
    split
    · exact .refl hrefl _
    · exact hupdate _ _ _ fun _ => ⟨rfl, .inr rfl⟩
  | claim d driver hcall =>
    apply Table.carries_updateMany hrefl
    · intro row hclaimable
      -- only a delivery without a driver can be claimed
      simp only [claimable, Bool.and_eq_true, Option.isNone_iff_eq_none] at hclaimable
      exact ⟨rfl, .inl hclaimable.2⟩
    · exact fun _ => rfl
  | _ => first
    | exact .refl hrefl _
    | (apply hupdate
       · exact fun _ => ⟨rfl, .inr rfl⟩
       · exact fun _ => rfl)

/-- **The order services keep the parties of the orders**, so their steps are among the
moves of `applyElsewhere`. -/
theorem Step.keepsParties (hstep : Step cfg R me call h site db db') : db.keepsParties db' = true :=
  Db.keepsParties_iff.mpr ⟨hstep.sides, hstep.drivers⟩

end

/-! ## The transactions -/

/-- What the creation of a conversation does. -/
structure Created (new : NewConversation) (s s' : ChatDb) : Prop where
  order : ∀ t, new.orderId = some t → ∃ o, t = .ulid o
  toDb : s'.toDb = s.toDb
  messages : s'.messages = s.messages
  conversations : s.conversations.insert? (new.row s.now) = some s'.conversations
  participants : ∃ t, s.participants.insert? (new.first.row new.id s.now) = some t ∧
    t.insert? (new.second.row new.id s.now) = some s'.participants

theorem insertParticipant_ok {c : ConversationId} {new : NewParticipant} {x : Unit}
    (hrun : insertParticipant c new s = .ok (x, s')) :
    ∃ participants, s.participants.insert? (new.row c s.now) = some participants ∧
      s' = { s with participants } := by
  simp only [insertParticipant, Stmt.bind_ok, Stmt.get_ok, Stmt.throwIf_ok, Stmt.orThrow_ok,
    Stmt.set_ok] at hrun
  obtain ⟨_, s₁, ⟨rfl, rfl⟩, _, s₂, ⟨-, rfl⟩, _, s₃, ⟨-, rfl⟩, participants, s₄, ⟨hnew, rfl⟩, rfl⟩ := hrun
  exact ⟨participants, hnew, rfl⟩

theorem createConversation_ok {new : NewConversation} {x : Unit}
    (hrun : createConversation new s = .ok (x, s')) : Created new s s' := by
  simp only [createConversation, insertConversation, Stmt.bind_ok, Stmt.get_ok, Stmt.throwIf_ok,
    Stmt.orThrow_ok, Stmt.set_ok] at hrun
  obtain ⟨_, s₁, ⟨_, s₂, ⟨rfl, rfl⟩, _, s₃, ⟨horder, rfl⟩, conversations, s₄, ⟨hnew, rfl⟩, rfl⟩, _, s₅,
    hfirst, hsecond⟩ := hrun
  obtain ⟨t, ht, rfl⟩ := insertParticipant_ok hfirst
  obtain ⟨participants, hp, rfl⟩ := insertParticipant_ok hsecond
  refine ⟨fun t ht => ?_, rfl, rfl, hnew, t, ht, hp⟩
  cases t with
  | ulid o => exact ⟨o, rfl⟩
  | other text =>
    rw [ht] at horder
    exact absurd rfl horder

theorem Created.rows {new : NewConversation} (hcreated : Created new s s') :
    s'.conversations.rows = new.row s.now :: s.conversations.rows ∧
      s'.participants.rows = new.second.row new.id s.now :: new.first.row new.id s.now ::
        s.participants.rows := by
  obtain ⟨t, ht, hp⟩ := hcreated.participants
  refine ⟨(Table.insert?_eq_some.mp hcreated.conversations).2, ?_⟩
  rw [(Table.insert?_eq_some.mp hp).2, (Table.insert?_eq_some.mp ht).2]

theorem persist_ok {m : Message} {answer : Answer} {x : Unit} (hrun : persist m answer s = .ok (x, s')) :
    ∃ messages c, s.messages.insert? m = some messages ∧ s.conversations.find? m.conversationId = some c ∧
      s' = { s with
        messages
        conversations := s.conversations.update m.conversationId (withLastMessage m)
        participants := s.participants.updateMany
          (fun p => p.conversationId = m.conversationId && p.userId ≠ m.senderId)
          fun p => { p with unreadCount := p.unreadCount + 1 } } := by
  simp only [persist, Stmt.bind_ok, Stmt.get_ok, Stmt.throwIf_ok, Stmt.orThrow_ok, Stmt.set_ok] at hrun
  obtain ⟨_, s₁, ⟨-, rfl⟩, _, s₂, ⟨rfl, rfl⟩, _, s₃, ⟨-, rfl⟩, messages, s₄, ⟨hnew, rfl⟩, conversations, s₅,
    ⟨hupdate, rfl⟩, rfl⟩ := hrun
  obtain ⟨⟨c, hc⟩, rfl⟩ := Table.update?_eq_some.mp hupdate
  exact ⟨messages, c, hnew, hc, rfl⟩

theorem resetUnread_ok {id : ParticipantId} {now : Time} {answer : Answer} {x : Unit}
    (hrun : resetUnread id now answer s = .ok (x, s')) :
    ∃ p, s.participants.find? id = some p ∧
      s' = { s with participants := s.participants.update id (markedRead now) } := by
  simp only [resetUnread, Stmt.bind_ok, Stmt.get_ok, Stmt.throwIf_ok, Stmt.orThrow_ok, Stmt.set_ok] at hrun
  obtain ⟨_, s₁, ⟨-, rfl⟩, _, s₂, ⟨rfl, rfl⟩, participants, s₃, ⟨hupdate, rfl⟩, rfl⟩ := hrun
  obtain ⟨⟨p, hp⟩, rfl⟩ := Table.update?_eq_some.mp hupdate
  exact ⟨p, hp, rfl⟩

/-! ## The steps -/

/-- The users of a new conversation whom the code has not held against the order. -/
def NewConversation.unchecked (new : NewConversation) : Origin → List UserId
  | .named => [new.first.userId, new.second.userId]
  | .derived => []
  | .ensured => [new.second.userId]

inductive ChatStep : ChatSite → ChatDb → ChatDb → Prop where
  /-- a read, a remote call, or a statement that was refused -/
  | noop {site : ChatSite} {s : ChatDb} (refused : ∀ origin new, site = .createConversation origin new →
      ∀ s', createConversation new s ≠ .ok ((), s')) : ChatStep site s s
  | creates {s s' : ChatDb} (origin : Origin) (new : NewConversation)
      (hcreate : createConversation new s = .ok ((), s'))
      (hne : new.first.userId ≠ new.second.userId)
      (hchecked : ∀ o, new.orderId = some (.ulid o) →
        ∀ u ∈ [new.first.userId, new.second.userId], u ∉ new.unchecked origin → s.party o u = true) :
      ChatStep (.createConversation origin new) s s'
  | sends {s : ChatDb} {messages : Table Message} {c : Conversation} (m : Message)
      (hnew : s.messages.insert? m = some messages)
      (hfound : s.conversations.find? m.conversationId = some c) :
      ChatStep (.send m) s { s with
        messages
        conversations := s.conversations.update m.conversationId (withLastMessage m)
        participants := s.participants.updateMany
          (fun p => p.conversationId = m.conversationId && p.userId ≠ m.senderId)
          fun p => { p with unreadCount := p.unreadCount + 1 } }
  | reads {s : ChatDb} {p : ConversationParticipant} (id : ParticipantId) (now : Time)
      (hfound : s.participants.find? id = some p) :
      ChatStep (.markRead id) s { s with participants := s.participants.update id (markedRead now) }

/-- The statement creates a conversation. -/
def ChatSite.creates : ChatSite → Bool
  | .createConversation _ _ => true
  | _ => false

/-- The statement changes the tables of the service. -/
def ChatSite.writes : ChatSite → Bool
  | .createConversation _ _ | .send _ | .markRead _ => true
  | _ => false

theorem ChatSite.creates_of_writes {site : ChatSite} (hsite : site.writes = false) : site.creates = false := by
  cases site with
  | createConversation origin new => cases hsite
  | _ => rfl

theorem ChatStep.other {site : ChatSite} (hsite : site.creates = false) (s : ChatDb) :
    ChatStep site s s := by
  refine .noop fun origin new heq => ?_
  subst heq
  cases hsite

theorem ChatStep.toDb {site : ChatSite} (hstep : ChatStep site s s') : s'.toDb = s.toDb := by
  cases hstep with
  | noop refused => rfl
  | creates origin new hcreate hne hchecked => exact (createConversation_ok hcreate).toDb
  | sends m hnew hfound => rfl
  | reads id now hfound => rfl

def chatContract : Contract chatMachine where
  rely := PartiesStay
  guar _ site s s' := ChatStep site s s'

/-! ## The handlers -/

theorem chatQuery_free {α : Type} {f : ChatDb → α} :
    Free chatContract (read ChatSite.query f : ChatHandler α) :=
  free_read fun _ s => .other rfl s

theorem assertParticipant_free {C : Contract chatMachine} {c : ConversationId}
    (hquery : ∀ h s, C.guar h .query s s) : Free C (assertParticipant sub c) :=
  free_bind (free_read hquery) fun _ => free_bind free_orThrow fun _ => free_bind (free_read hquery) fun _ => free_orThrow

theorem markRead_free {c : ConversationId} : Free chatContract (markRead sub c) := by
  refine free_bind (assertParticipant_free fun _ s => .other rfl s) fun membership =>
    free_bind chatQuery_free fun now => ?_
  refine free_await (fun _ s => .other rfl s) fun _ answer s _ s' hrun => ?_
  obtain ⟨p, hp, rfl⟩ := resetUnread_ok hrun
  exact .reads _ now hp

theorem persist_free {m : Message} : Free chatContract (await (.send m) (persist m)) := by
  refine free_await (fun _ s => .other rfl s) fun _ answer s _ s' hrun => ?_
  obtain ⟨messages, c, hnew, hc, rfl⟩ := persist_ok hrun
  exact .sends m hnew hc

/-- What a call of `send` does is up to the transaction that inserts its message. -/
theorem send_free_of {C : Contract chatMachine} {c : ConversationId} {content : JsString} {type : MessageType}
    (hquiet : ∀ h site s, site.writes = false → C.guar h site s s)
    (hpersist : ∀ m : Message, m.id = generateUlid me 0 → m.conversationId = c →
      Free C (await (.send m) (persist m))) : Free C (send me sub c content type) := by
  have hquery : ∀ {α : Type} {f : ChatDb → α}, Free C (read .query f : ChatHandler α) :=
    free_read fun h s => hquiet h _ s rfl
  have hask : ∀ {α : Type} {site : ChatSite} {f : Answer → ChatDb → α}, site.writes = false →
      Free C (ask site f : ChatHandler α) := fun hsite => free_ask fun h s => hquiet h _ s hsite
  have hmember : Free C (assertParticipant sub c) := assertParticipant_free fun h s => hquiet h _ s rfl
  have hnotify : ∀ {u : UserId} {preview : JsString}, Free C (notifyPeers c u preview) :=
    free_bind hquery fun _ => free_ite free_pure (hask rfl)
  exact free_bind free_throwIf fun _ => free_bind free_throwIf fun _ => free_bind hmember fun _ =>
    free_bind hquery fun _ => free_bind free_orThrow fun _ => free_bind hquery fun _ =>
    free_bind (hpersist _ rfl rfl) fun _ => free_bind (hask rfl) fun _ => free_bind hnotify fun _ => free_pure

theorem send_free {c : ConversationId} {content : JsString} {type : MessageType} :
    Free chatContract (send me sub c content type) :=
  send_free_of (fun _ _ s hsite => .other (ChatSite.creates_of_writes hsite) s) fun _ _ _ => persist_free

theorem resolveRole_free {C : Contract chatMachine} {type : ConversationType} {isCaller : Bool}
    (hquery : ∀ h s, C.guar h .query s s) : Free C (resolveRole u type isCaller) := by
  cases type with
  | support => exact free_pure
  | buyerDelivery => exact free_read hquery
  | sellerDriver => exact free_read hquery
  | buyerSeller => exact free_read hquery

/-- The peer is found by reads only. -/
theorem resolvePeer_free {C : Contract chatMachine} {caller : UserId} (hquery : ∀ h s, C.guar h .query s s) :
    Free C (resolvePeer caller dto) := by
  unfold resolvePeer
  cases dto.peerUserId with
  | some peer => exact free_pure
  | none =>
    refine free_bind (free_bind free_throwIf fun _ => free_bind free_orThrow fun t =>
      free_bind (free_read hquery) fun found => free_bind free_orThrow fun parties =>
      free_bind free_throwIf fun _ => ?_) fun _ => free_pure
    obtain ⟨row, driver⟩ := parties
    -- each type has two sides, and everybody else is refused
    have hbetween : ∀ e, Free C (if caller = row.buyerId then pure row.sellerId
        else if caller = row.sellerId then pure row.buyerId else throw e : ChatHandler UserId) :=
      fun e => free_ite free_pure (free_ite free_pure free_throw)
    cases dto.type with
    | buyerDelivery => exact free_ite free_orThrow (free_ite free_pure free_throw)
    | sellerDriver => exact free_ite free_orThrow (free_ite free_pure free_throw)
    | buyerSeller => exact hbetween _
    | support => exact hbetween _

/-- The transaction of a conversation between two users of whom those that nobody has
checked are the only ones that need not be parties. -/
theorem createConversation_sat {origin : Origin} {new : NewConversation}
    (hne : new.first.userId ≠ new.second.userId)
    (hchecked : ∀ o, new.orderId = some (.ulid o) →
      ∀ u ∈ [new.first.userId, new.second.userId], u ∉ new.unchecked origin → s.party o u = true) :
    Sat chatContract anyPost (await (.createConversation origin new) fun _ => createConversation new)
      h s := by
  refine sat_await fun s' hstay answer => ⟨fun e hrun => ⟨?_, trivial⟩, fun x s'' hrun => ⟨?_, trivial⟩⟩
  · refine .noop fun origin' new' heq s'' hok => ?_
    cases heq
    rw [hrun] at hok
    cases hok
  · exact .creates origin new hrun hne fun o ho u hu hun => hstay o u (hchecked o ho u hu hun)

/-- What is known of the caller and the peer: when the body did not name the peer, both are
parties of the order. -/
def Checked (dto : FindOrCreateConversationDto) (caller peer : UserId) (s : ChatDb) : Prop :=
  dto.peerUserId = none → ∀ o, dto.orderId = some (.ulid o) →
    s.party o caller = true ∧ s.party o peer = true

theorem Checked.stay {caller peer : UserId} (hstay : PartiesStay s s') (hc : Checked dto caller peer s) :
    Checked dto caller peer s' := by
  intro hnone o ho
  obtain ⟨hcaller, hpeer⟩ := hc hnone o ho
  exact ⟨hstay o _ hcaller, hstay o _ hpeer⟩

theorem openConversation_sat {caller peer : UserId} (hne : caller ≠ peer)
    (hc : Checked dto caller peer s) :
    Sat chatContract anyPost (openConversation me dto caller peer) h s := by
  have hstay : ∀ (h : List (StepRecord chatMachine)) site s s', chatContract.guar h site s s' →
      Checked dto caller peer s → Checked dto caller peer s' :=
    fun _ _ _ _ hg => Checked.stay (.of_eq hg.toDb)
  refine sat_free_bind (fun _ _ => Checked.stay) hstay (resolveRole_free fun _ s => .other rfl s) hc fun callerRole h s hc => ?_
  refine sat_free_bind (fun _ _ => Checked.stay) hstay (resolveRole_free fun _ s => .other rfl s) hc fun peerRole h s hc => ?_
  refine sat_bind_free (createConversation_sat hne fun o ho u hu hun => ?_) fun _ => free_pure
  cases hnamed : dto.peerUserId with
  | some peer =>
    rw [FindOrCreateConversationDto.origin, hnamed] at hun
    exact absurd hu hun
  | none =>
    obtain ⟨hcaller, hpeer⟩ := hc hnamed o ho
    rcases List.mem_pair.mp hu with rfl | rfl
    · exact hcaller
    · exact hpeer

theorem orderWithDriver_some {t : IdText} {row : Order} {driver : Option UserId}
    (hfound : orderWithDriver s t = some (row, driver)) :
    t = .ulid row.id ∧ s.orders.find? row.id = some row ∧
      ∀ u, driver = some u → s.party row.id u = true := by
  obtain ⟨row', hrow, heq⟩ := Option.map_eq_some_iff.mp hfound
  obtain ⟨o, ht, hfind⟩ := Option.bind_eq_some_iff.mp hrow
  cases heq
  have hid : row.id = o := Table.key_of_find? hfind
  cases t with
  | other text => cases ht
  | ulid o' =>
    cases ht
    refine ⟨by rw [hid], by rw [hid]; exact hfind, fun u hu => ?_⟩
    obtain ⟨d, hd, hdriver⟩ := Option.bind_eq_some_iff.mp hu
    obtain ⟨hrow, hof⟩ := Db.find?_latestDelivery hd
    exact Db.party_iff.mpr (.inr ⟨d, Table.mem_of_find? hrow, hof, hdriver⟩)

/-- The program ends with a peer who is a party of the order, like the caller. -/
def BothParties (o : OrderId) (caller : UserId) : Post chatMachine UserId :=
  fun _ r s => ∀ peer, r = .ok peer → s.party o caller = true ∧ s.party o peer = true

theorem BothParties.returns {caller peer : UserId} (hcaller : s.party o caller = true)
    (hpeer : s.party o peer = true) :
    Sat chatContract (BothParties o caller) (pure peer : ChatHandler UserId) h s := by
  intro peer' heq
  cases heq
  exact ⟨hcaller, hpeer⟩

theorem BothParties.throws {caller : UserId} {e : Err} :
    Sat chatContract (BothParties o caller) (throw e : ChatHandler UserId) h s := by
  intro peer heq
  cases heq

/-- The assigned driver, if there is one. -/
theorem BothParties.driver {caller : UserId} {driver : Option UserId} {e : Err}
    (hcaller : s.party o caller = true) (hdriver : ∀ u, driver = some u → s.party o u = true) :
    Sat chatContract (BothParties o caller) (orThrow driver e : ChatHandler UserId) h s := by
  cases driver with
  | none => exact .throws
  | some peer => exact .returns hcaller (hdriver peer rfl)

/-- Whatever the type, both sides are parties of the order. -/
theorem otherSide_sat {caller : UserId} {row : Order} {driver : Option UserId} {type : ConversationType}
    (hrow : s.orders.find? row.id = some row)
    (hdriver : ∀ u, driver = some u → s.party row.id u = true) :
    Sat chatContract (BothParties row.id caller) (otherSide caller row driver type) h s := by
  have hbuyer : s.party row.id row.buyerId = true := Db.party_iff.mpr (.inl ⟨row, hrow, .inl rfl⟩)
  have hseller : s.party row.id row.sellerId = true := Db.party_iff.mpr (.inl ⟨row, hrow, .inr rfl⟩)
  have hbetween : ∀ e, Sat chatContract (BothParties row.id caller)
      (if caller = row.buyerId then pure row.sellerId else if caller = row.sellerId then pure row.buyerId
        else throw e) h s := by
    intro e
    refine sat_ite (fun hc => ?_) fun _ => sat_ite (fun hc => ?_) fun _ => .throws
    · exact .returns (hc ▸ hbuyer) hseller
    · exact .returns (hc ▸ hseller) hbuyer
  cases type with
  | buyerDelivery =>
    refine sat_ite (fun hc => ?_) fun _ => sat_ite (fun hc => ?_) fun _ => .throws
    · exact BothParties.driver (hc ▸ hbuyer) hdriver
    · exact .returns (hdriver caller hc) hbuyer
  | sellerDriver =>
    refine sat_ite (fun hc => ?_) fun _ => sat_ite (fun hc => ?_) fun _ => .throws
    · exact BothParties.driver (hc ▸ hseller) hdriver
    · exact .returns (hdriver caller hc) hseller
  | buyerSeller => exact hbetween _
  | support => exact hbetween _

/-- A peer derived from the order is a party of it, and so is the caller. -/
theorem resolvePeerFromOrder_sat {caller : UserId} {type : ConversationType} {t : Option IdText} :
    Sat chatContract (fun _ r s => ∀ peer, r = .ok peer → ∃ o, t = some (.ulid o) ∧
      s.party o caller = true ∧ s.party o peer = true) (resolvePeerFromOrder caller type t) h s := by
  have hthrown : ∀ e : Err, ∀ peer, (.error e : Except Err UserId) = .ok peer →
      ∀ s : ChatDb, ∃ o, t = some (.ulid o) ∧ s.party o caller = true ∧ s.party o peer = true := by
    intro e peer heq
    cases heq
  refine sat_throwIf_bind (fun _ peer heq => hthrown _ peer heq _) fun _ => ?_
  refine sat_orThrow_bind (fun _ peer heq => hthrown _ peer heq _) fun t' ht => ?_
  refine sat_read_bind fun s₁ _ => ⟨.other rfl _, ?_⟩
  refine sat_orThrow_bind (fun _ peer heq => hthrown _ peer heq _) fun found hfound => ?_
  obtain ⟨row, driver⟩ := found
  obtain ⟨rfl, hrow, hdriver⟩ := orderWithDriver_some hfound
  refine sat_throwIf_bind (fun _ peer heq => hthrown _ peer heq _) fun _ => ?_
  refine (otherSide_sat hrow hdriver).post fun h r s hboth peer heq => ?_
  exact ⟨row.id, (Option.filter_eq_some_iff.mp ht).1, hboth peer heq⟩

theorem resolvePeer_sat {caller : UserId} :
    Sat chatContract (fun _ r s => ∀ peer, r = .ok (.ulid peer) → Checked dto caller peer s)
      (resolvePeer caller dto) h s := by
  unfold resolvePeer
  cases hnamed : dto.peerUserId with
  | some peer =>
    intro peer' _ hnone
    rw [hnamed] at hnone
    cases hnone
  | none =>
    refine sat_bind (resolvePeerFromOrder_sat.post fun h r s hr => ?_)
    cases r with
    | error e =>
      intro peer heq
      cases heq
    | ok peer =>
      intro peer' heq
      cases heq
      obtain ⟨o, ho, hparties⟩ := hr peer rfl
      intro _ o' ho'
      rw [ho] at ho'
      cases ho'
      exact hparties

theorem findOrCreate_sat : Sat chatContract anyPost (findOrCreate me sub dto) h s := by
  refine sat_read_bind fun s₁ _ => ⟨.other rfl _, sat_orThrow_bind (fun _ => trivial) fun caller _ =>
    sat_throwIf_bind (fun _ => trivial) fun _ => sat_bind (resolvePeer_sat.post fun h r s₂ hr => ?_)⟩
  cases r with
  | error e => trivial
  | ok peer =>
    refine sat_throwIf_bind (fun _ => trivial) fun hself => sat_read_bind fun s₃ hstay =>
      ⟨.other rfl _, sat_orThrow_bind (fun _ => trivial) fun id hid => sat_read_bind fun s₄ hstay' =>
      ⟨.other rfl _, ?_⟩⟩
    have hpeer : peer = .ulid id := by
      obtain ⟨hulid, -⟩ := Option.filter_eq_some_iff.mp hid
      cases peer with
      | other text => cases hulid
      | ulid id' =>
        cases hulid
        rfl
    subst hpeer
    split
    · trivial
    · refine openConversation_sat (fun heq => hself (congrArg IdText.ulid heq.symm)) ?_
      exact ((hr id rfl).stay hstay).stay hstay'

theorem openSellerDriver_sat {seller driver : UserId} (hne : seller ≠ driver)
    (hseller : s.party o seller = true) :
    Sat chatContract anyPost (openSellerDriver me o driver seller) h s := by
  refine sat_read_bind fun s₁ hstay => ⟨.other rfl _, ?_⟩
  split
  · trivial
  · refine sat_bind_free (createConversation_sat hne fun o' ho u hu hun => ?_) fun _ => free_pure
    cases ho
    rcases List.mem_pair.mp hu with rfl | rfl
    · exact hstay o _ hseller
    · exact absurd (List.mem_singleton.mpr rfl) hun

theorem ensureSellerDriverConversation_sat {driver : UserId} :
    Sat chatContract anyPost (ensureSellerDriverConversation me o driver) h s := by
  refine sat_tryCatch (Sat.post (Q := anyPost) ?_ fun h r s _ => ?_)
  · refine sat_read_bind fun s₁ _ => ⟨.other rfl _, ?_⟩
    split
    · trivial
    · rename_i seller hseller
      obtain ⟨hfound, hne⟩ := Option.filter_eq_some_iff.mp hseller
      obtain ⟨row, hrow, rfl⟩ := Option.map_eq_some_iff.mp hfound
      exact openSellerDriver_sat (of_decide_eq_true hne) (Db.party_iff.mpr (.inl ⟨row, hrow, .inr rfl⟩))
  · cases r with
    | ok a => trivial
    | error e => trivial

/-- Every call does only the steps of `ChatStep`. -/
theorem chatHandle_sat (me : Nat) (c : ChatCall) : Sat chatContract anyPost (chatHandle me c) h s := by
  cases c with
  | findOrCreate sub dto => exact sat_bind_free findOrCreate_sat fun _ => free_pure
  | ensureSellerDriverConversation o driver =>
    exact sat_bind_free ensureSellerDriverConversation_sat fun _ => free_pure
  | send sub c content type => exact sat_bind_free send_free.sat fun _ => free_pure
  | markRead sub c => exact sat_bind_free markRead_free.sat fun _ => free_pure

/-! ## Runs -/

/-- The steps of every run are steps of `ChatStep`. -/
theorem chat_step (s₀ : ChatDb) (actions : List (Pool.Action chatService)) :
    ∀ e ∈ (poolRun s₀ actions).trace, ChatStep e.site e.pre e.post := by
  intro e he
  obtain ⟨_, hstep⟩ := Pool.sat_step PartiesStay.refl (fun _ _ _ => PartiesStay.trans)
    (fun _ _ _ _ hstep => PartiesStay.of_eq (ChatStep.toDb hstep)) applyElsewhere_partiesStay
    (fun me c s => chatHandle_sat me c) s₀ actions e he
  exact hstep

/-- Participants and messages belong to conversations. -/
structure Linked (db : ChatDb) : Prop where
  participants : ∀ p ∈ db.participants.rows, ∃ c, db.conversations.find? p.conversationId = some c
  messages : ∀ m ∈ db.messages.rows, ∃ c, db.conversations.find? m.conversationId = some c

theorem Linked.silent (db : Db) : Linked (.silent db) :=
  ⟨fun _ hp => absurd hp List.not_mem_nil, fun _ hm => absurd hm List.not_mem_nil⟩

theorem Linked.elsewhere (db : Db) (hl : Linked s) : Linked (applyElsewhere db s) := by
  unfold applyElsewhere
  split
  · exact ⟨hl.participants, hl.messages⟩
  · exact hl

theorem Linked.step {site : ChatSite} (hstep : ChatStep site s s') (hl : Linked s) : Linked s' := by
  cases hstep with
  | noop refused => exact hl
  | creates origin new hcreate hne hchecked =>
    have hcreated := createConversation_ok hcreate
    -- rows are only added to the conversations
    have hkept : ∀ id, (∃ c, s.conversations.find? id = some c) →
        ∃ c, s'.conversations.find? id = some c := by
      rintro id ⟨c, hc⟩
      exact ⟨c, Table.find?_insert_of_some hcreated.conversations hc⟩
    have hnew : ∃ c, s'.conversations.find? new.id = some c :=
      ⟨_, (Table.find?_insert hcreated.conversations new.id).trans (if_pos rfl)⟩
    constructor
    · rw [hcreated.rows.2]
      intro p hp
      rcases List.mem_cons.mp hp with rfl | hp
      · exact hnew
      rcases List.mem_cons.mp hp with rfl | hp
      · exact hnew
      · exact hkept _ (hl.participants p hp)
    · rw [hcreated.messages]
      exact fun m hm => hkept _ (hl.messages m hm)
  | sends m hnew hfound =>
    have hkept : ∀ id, (∃ c, s.conversations.find? id = some c) → ∃ c,
        (s.conversations.update m.conversationId (withLastMessage m)).find? id = some c := by
      rintro id ⟨c, hc⟩
      rw [Table.find?_update, hc]
      split
      · exact ⟨_, rfl⟩
      · exact ⟨_, rfl⟩
    constructor
    · intro p hp
      obtain ⟨p₀, hp₀, ⟨-, rfl⟩ | ⟨-, rfl⟩⟩ := Table.mem_rewritten hp
      · exact hkept _ (hl.participants p₀ hp₀)
      · exact hkept _ (hl.participants p hp₀)
    · intro m' hm'
      rcases (Table.mem_insert hnew).mp hm' with rfl | hm'
      · exact hkept _ ⟨_, hfound⟩
      · exact hkept _ (hl.messages m' hm')
  | reads id now hfound =>
    refine ⟨fun p hp => ?_, hl.messages⟩
    obtain ⟨p₀, hp₀, ⟨-, rfl⟩ | ⟨-, rfl⟩⟩ := Table.mem_rewritten hp
    · exact hl.participants p₀ hp₀
    · exact hl.participants p hp₀

/-- In every run, before each step and at the end. -/
theorem Linked.pool {s₀ : ChatDb} (h0 : Linked s₀) (actions : List (Pool.Action chatService)) :
    Linked (poolRun s₀ actions).state ∧ ∀ e ∈ (poolRun s₀ actions).trace, Linked e.pre := by
  refine Pool.history (I := fun s trace => Linked s ∧ ∀ e ∈ trace, Linked e.pre)
    ⟨h0, fun e he => absurd he List.not_mem_nil⟩ (fun db s trace hI => ⟨hI.1.elsewhere db, hI.2⟩)
    actions fun later e earlier hsplit hI => ?_
  have hstep := chat_step s₀ actions e (by simp [hsplit])
  exact ⟨hI.1.step hstep, List.forall_mem_cons.mpr hI⟩

end IncaCook
