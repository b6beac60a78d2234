import IncaCook.Steps.Chat

/-!
# Conversations stay inside their order

The members of a conversation read its history, so a conversation that is pinned to an
order should join two parties of the order. A peer who is derived from the order is one,
and the caller too; nobody checks a peer whom the caller names, nor the caller then.

Main results:

* `ChatStep.pinned_iff`: the only step that lets a stranger in is the creation of a
  conversation for users whom nobody has checked;
* `conversations_pinned_iff`: all pinned conversations stay inside their orders if and only
  if no such creation happens.
-/

namespace IncaCook

open Prog Conversations Messaging

variable {s s' : ChatDb} {o : OrderId}

/-- The conversation has exactly two members, different ones, both parties of the order. -/
def ChatDb.Inside (db : ChatDb) (c : ConversationId) (o : OrderId) : Prop :=
  ∃ u v, db.members c = [u, v] ∧ u ≠ v ∧ db.party o u = true ∧ db.party o v = true

def PinnedInside (db : ChatDb) : Prop :=
  ∀ c ∈ db.conversations.rows, ∀ o, c.orderId = some o → db.Inside c.id o

/-- A conversation about an order is created for parties only, where nobody has checked
that, or the database refuses it. -/
def Admissible (site : ChatSite) (db : ChatDb) : Prop :=
  ∀ origin new o, site = .createConversation origin new → new.orderId = some (.ulid o) →
    (∃ db', createConversation new db = .ok ((), db')) → ∀ u ∈ new.unchecked origin, db.party o u = true

/-! ## Members -/

/-- Rewriting participants in their conversations changes no membership. -/
theorem members_congr {f : ConversationParticipant → ConversationParticipant}
    (hrows : s'.participants.rows = s.participants.rows.map f)
    (hsame : ∀ p, (f p).conversationId = p.conversationId ∧ (f p).userId = p.userId)
    (c : ConversationId) : s'.members c = s.members c := by
  have hfilter : (fun p : ConversationParticipant => decide (p.conversationId = c)) ∘ f =
      fun p => decide (p.conversationId = c) := by
    funext p
    simp only [Function.comp_apply, (hsame p).1]
  have hmap : ConversationParticipant.userId ∘ f = ConversationParticipant.userId := by
    funext p
    exact (hsame p).2
  rw [ChatDb.members, hrows, List.filter_map, List.map_map, hfilter, hmap, ← ChatDb.members]

theorem members_created {new : NewConversation} (hcreated : Created new s s') (hl : Linked s) :
    s'.members new.id = [new.second.userId, new.first.userId] ∧
      ∀ c, c ≠ new.id → s'.members c = s.members c := by
  constructor
  · -- no participant was there before the conversation
    have hnone : (s.participants.rows.filter fun p => p.conversationId = new.id) = [] := by
      refine List.filter_eq_nil_iff.mpr fun p hp hof => ?_
      obtain ⟨c, hc⟩ := hl.participants p hp
      rw [of_decide_eq_true hof] at hc
      have hfresh : s.conversations.find? new.id = none :=
        (Table.insert?_eq_some.mp hcreated.conversations).1
      rw [hfresh] at hc
      cases hc
    simp [ChatDb.members, hcreated.rows.2, NewParticipant.row, hnone]
  · intro c hne
    simp [ChatDb.members, hcreated.rows.2, NewParticipant.row, Ne.symm hne]

/-! ## Conversations written in place -/

/-- The conversations keep their members, and nothing but their last message changes. -/
structure InPlace (s s' : ChatDb) : Prop where
  members : ∀ c, s'.members c = s.members c
  conversations : ∀ c' ∈ s'.conversations.rows, ∃ c ∈ s.conversations.rows,
    c.id = c'.id ∧ c.type = c'.type ∧ c.orderId = c'.orderId

theorem InPlace.elsewhere (db : Db) (s : ChatDb) : InPlace s (applyElsewhere db s) := by
  unfold applyElsewhere
  split
  · exact ⟨fun _ => rfl, fun c' hc' => ⟨c', hc', rfl, rfl, rfl⟩⟩
  · exact ⟨fun _ => rfl, fun c' hc' => ⟨c', hc', rfl, rfl, rfl⟩⟩

theorem InPlace.sends (s : ChatDb) (m : Message) (messages : Table Message) : InPlace s { s with
    messages
    conversations := s.conversations.update m.conversationId (withLastMessage m)
    participants := s.participants.updateMany
      (fun p => p.conversationId = m.conversationId && p.userId ≠ m.senderId)
      fun p => { p with unreadCount := p.unreadCount + 1 } } := by
  refine ⟨members_congr (s := s) rfl fun p => ?_, fun c' hc' => ?_⟩
  · split
    · exact ⟨rfl, rfl⟩
    · exact ⟨rfl, rfl⟩
  · obtain ⟨c, hc, ⟨-, rfl⟩ | ⟨-, rfl⟩⟩ := Table.mem_rewritten hc'
    · exact ⟨c, hc, rfl, rfl, rfl⟩
    · exact ⟨c', hc, rfl, rfl, rfl⟩

theorem InPlace.reads (s : ChatDb) (id : ParticipantId) (now : Time) :
    InPlace s { s with participants := s.participants.update id (markedRead now) } := by
  refine ⟨members_congr (s := s) rfl fun p => ?_, fun c' hc' => ⟨c', hc', rfl, rfl, rfl⟩⟩
  split
  · exact ⟨rfl, rfl⟩
  · exact ⟨rfl, rfl⟩

/-! ## What breaks it -/

theorem ChatDb.Inside.stay {c : ConversationId} (hstay : PartiesStay s s')
    (hmembers : s'.members c = s.members c) (hc : s.Inside c o) : s'.Inside c o := by
  obtain ⟨u, v, huv, hne, hu, hv⟩ := hc
  exact ⟨u, v, hmembers.trans huv, hne, hstay o u hu, hstay o v hv⟩

theorem PinnedInside.stay (hstay : PartiesStay s s') (hplace : InPlace s s') (hs : PinnedInside s) :
    PinnedInside s' := by
  intro c' hc' o ho
  obtain ⟨c, hc, hid, -, hpin⟩ := hplace.conversations c' hc'
  exact (hid ▸ hs c hc o (hpin.trans ho)).stay hstay (hplace.members _)

theorem PinnedInside.elsewhere (db : Db) (hs : PinnedInside s) : PinnedInside (applyElsewhere db s) :=
  hs.stay (applyElsewhere_partiesStay db s) (.elsewhere db s)

/-- The creation of a conversation. -/
theorem Created.pinned_iff {new : NewConversation} {origin : Origin} (hcreated : Created new s s')
    (hl : Linked s) (hs : PinnedInside s) (hne : new.first.userId ≠ new.second.userId)
    (hchecked : ∀ o, new.orderId = some (.ulid o) →
      ∀ u ∈ [new.first.userId, new.second.userId], u ∉ new.unchecked origin → s.party o u = true) :
    PinnedInside s' ↔
      ∀ o, new.orderId = some (.ulid o) → ∀ u ∈ new.unchecked origin, s.party o u = true := by
  obtain ⟨hmembers, hothers⟩ := members_created hcreated hl
  have hparty : ∀ o u, s'.party o u = s.party o u := fun o u => by rw [hcreated.toDb]
  -- left to right the new row is the witness: whoever nobody checked is one of
  -- its two members; right to left the checked and the unchecked cover both
  constructor
  · intro hpost o ho u hu
    have hrow : new.row s.now ∈ s'.conversations.rows := by
      rw [hcreated.rows.1]
      exact List.mem_cons_self ..
    have hpinned : (new.row s.now).orderId = some o := by
      rw [NewConversation.row, ho]
      rfl
    obtain ⟨a, b, hab, -, ha, hb⟩ := hpost _ hrow o hpinned
    obtain ⟨rfl, hb'⟩ := List.cons.inj (hmembers.symm.trans hab)
    obtain ⟨rfl, -⟩ := List.cons.inj hb'
    rw [hparty] at ha hb
    cases origin with
    | named =>
      rcases List.mem_pair.mp hu with rfl | rfl
      · exact hb
      · exact ha
    | derived => exact absurd hu List.not_mem_nil
    | ensured => exact List.mem_singleton.mp hu ▸ ha
  · intro hunchecked c hc o ho
    rw [hcreated.rows.1] at hc
    rcases List.mem_cons.mp hc with rfl | hc
    · obtain ⟨t, ht, hulid⟩ := Option.bind_eq_some_iff.mp ho
      obtain ⟨o', rfl⟩ := hcreated.order t ht
      cases hulid
      have hall : ∀ u ∈ [new.first.userId, new.second.userId], s'.party o u = true := by
        intro u hu
        rw [hparty]
        by_cases hun : u ∈ new.unchecked origin
        · exact hunchecked o ht u hun
        · exact hchecked o ht u hu hun
      exact ⟨_, _, hmembers, hne.symm, hall _ (by simp), hall _ (by simp)⟩
    · have hold : c.id ≠ new.id := by
        intro heq
        have hfresh : s.conversations.find? new.id = none :=
          (Table.insert?_eq_some.mp hcreated.conversations).1
        exact Table.find?_eq_none.mp hfresh c hc heq
      exact (hs c hc o ho).stay (.of_eq hcreated.toDb) (hothers c.id hold)

/-- **What lets a stranger in**, step by step. -/
theorem ChatStep.pinned_iff {site : ChatSite} (hstep : ChatStep site s s') (hl : Linked s)
    (hs : PinnedInside s) : PinnedInside s' ↔ Admissible site s := by
  cases hstep with
  | noop refused =>
    refine iff_of_true hs fun origin new o hsite ho hok => ?_
    obtain ⟨db', hrun⟩ := hok
    exact absurd hrun (refused origin new hsite db')
  | creates origin new hcreate hne hchecked =>
    rw [(createConversation_ok hcreate).pinned_iff hl hs hne hchecked]
    constructor
    · intro hall origin' new' o hsite ho _
      cases hsite
      exact hall o ho
    · exact fun hadm o ho => hadm origin new o rfl ho ⟨s', hcreate⟩
  | sends m hnew hfound =>
    refine iff_of_true (PinnedInside.stay (s := s) (.of_eq rfl) (.sends s m _) hs) ?_
    intro origin new o hsite
    cases hsite
  | reads id now hfound =>
    refine iff_of_true (PinnedInside.stay (s := s) (.of_eq rfl) (.reads s id now) hs) ?_
    intro origin new o hsite
    cases hsite

/-! ## Runs -/

theorem PinnedInside.silent (db : Db) : PinnedInside (ChatDb.silent db) :=
  fun _ hc => absurd hc List.not_mem_nil

/-- **Order-pinned conversations, and what it takes.** In every interleaving of calls that
find, create, write and read conversations, with the other services working meanwhile,
every conversation that is pinned to an order joins two different parties of it, in every
state, if and only if no conversation about an order is created for a stranger whom
nobody has checked. -/
theorem conversations_pinned_iff (db : Db) (actions : List (Pool.Action chatService)) :
    Pool.Always PinnedInside (ChatDb.silent db) actions ↔
      (poolRun (ChatDb.silent db) actions).Steps Admissible := by
  refine Pool.always_iff (PinnedInside.silent db) (fun db s hs => hs.elsewhere db) actions
    fun e he hpre => ?_
  exact (chat_step _ actions e he).pinned_iff (((Linked.silent db).pool actions).2 e he) hpre

/-! ## A stranger in the conversation of an order -/

/-- The buyer's order of one portion, paid and confirmed. -/
def townOrder : Order where
  id := ⟨0, 130⟩
  orderNumber := "IC-1"
  buyerId := ⟨0, 100⟩
  sellerId := ⟨0, 101⟩
  status := .confirmed
  subtotalCents := 10000
  fulfillmentFeeCents := 300
  commissionRateBps := 1500
  commissionCents := 1500
  sellerEarningsCents := 8500
  buyerTotalCents := 10300
  fulfillmentChoice := .delivery
  dropoffAddressId := some ⟨0, 120⟩
  deliveryInstructions := none
  deliveryTiming := .asap
  scheduledAt := none
  note := none
  stripePaymentIntentId := some (.stripe 1)
  inventoryRestored := false
  stripeRefundId := none
  refundedAt := none
  placedAt := 0
  confirmedAt := some 0
  readyAt := none
  cancelledAt := none
  cancellationReason := none
  items := []

def orderTown : Db := { smallTown with orders := ⟨[townOrder], by decide⟩ }

/-- A driver who has nothing to do with the order opens its conversation with the buyer,
by naming both. -/
def strangerJoins : List (Pool.Action chatService) :=
  .arrive (.findOrCreate "rival" ⟨.buyerDelivery, some (.ulid ⟨0, 100⟩), some (.ulid ⟨0, 130⟩), none⟩) ::
    List.replicate 6 (.run 0 ⟨true, "", ""⟩)

theorem stranger_joined : ¬PinnedInside (poolRun (ChatDb.silent orderTown) strangerJoins).state := by
  have hmembers : ∀ db : ChatDb, PinnedInside db → ∀ c ∈ db.conversations.rows, ∀ o,
      c.orderId = some o → ∀ u ∈ db.members c.id, db.party o u = true := by
    intro db hdb c hc o ho u hu
    obtain ⟨a, b, hab, -, ha, hb⟩ := hdb c hc o ho
    rw [hab] at hu
    rcases List.mem_pair.mp hu with rfl | rfl
    · exact ha
    · exact hb
  intro h
  have hall := hmembers _ h
  revert hall
  decide +kernel

end IncaCook
